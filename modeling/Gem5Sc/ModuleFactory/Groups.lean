/-
  File:      Gem5Sc/ModuleFactory/Groups.lean
  Subject:   WHAT THE GROUPS OF NESTED MODULES CHANGE OUTSIDE: two runs of `instantiateAll` whose
             internal configurations differ in their groups.

  The table of groups is one for the whole process, and step 4 runs between the definition of the
  outer groups and their use. A nested configuration that defines a group of the same name
  replaces the outer one (`groups_leak`). Nothing else gets out: if the internal configurations
  agree on the groups that outer connections refer to, the outer run is the same
  (`same_connections`). The comparison goes step by step (`Related`), and through the nested calls
  by induction on their depth.
-/
import Gem5Sc.ModuleFactory.Connect
import Gem5Sc.ModuleFactory.Shape

namespace Gem5Sc

/-! ## 1. Configurations that differ in groups -/

/-- The `groups` of a configuration, as step 3 goes through them. -/
def groupItems (final : Json) : List (String × Json) := ((final.field? "groups").getD .null).items

/-- Equal but for `groups`, and with the same definitions of the groups of `refs`. -/
inductive SameButGroups (refs : String → Prop) : Json → Json → Prop where
  | refl (j : Json) : SameButGroups refs j j
  | obj {kvs kvs' : List (String × Json)}
      (members : (kvs.filter fun e => e.1 ≠ "groups") = kvs'.filter fun e => e.1 ≠ "groups")
      (groups : ∀ G, refs G → (groupItems (.obj kvs)).filter (·.1 = G) =
        (groupItems (.obj kvs')).filter (·.1 = G)) :
      SameButGroups refs (.obj kvs) (.obj kvs')

/-- Two platforms that differ in the groups of their configuration files, and that take a
    configuration as it is given. -/
structure Platform.SameButGroups (refs : String → Prop) (P P' : Platform) : Prop where
  regex : P.regex = P'.regex
  files : ∀ name, Option.Rel (Option.Rel (Gem5Sc.SameButGroups refs)) (P.files name) (P'.files name)
  includeStep : P.includeStep = Except.ok
  includeStep' : P'.includeStep = Except.ok
  loadPlugin : P.loadPlugin = P'.loadPlugin
  order : P.order = P'.order

variable {refs : String → Prop}

namespace SameButGroups

variable {j j' : Json} (h : SameButGroups refs j j')

include h

theorem field? {k : String} (hk : k ≠ "groups") : j.field? k = j'.field? k := by
  cases h with
  | refl => rfl
  | @obj kvs kvs' members _ =>
      show kvs.lookup k = kvs'.lookup k
      rw [← lookup_filter_ne kvs hk, ← lookup_filter_ne kvs' hk, members]

theorem elemsIf {k : String} (hk : k ≠ "groups") : j.elemsIf k = j'.elemsIf k := by
  unfold Json.elemsIf
  rw [h.field? hk]

theorem elemsAt {k : String} (hk : k ≠ "groups") : j.elemsAt k = j'.elemsAt k := by
  have hf := h.field? hk
  cases h with
  | refl => rfl
  | @obj kvs kvs' _ _ =>
      have hl : kvs.lookup k = kvs'.lookup k := hf
      show Except.ok (((kvs.lookup k).getD .null).elems) = _
      rw [hl]
      rfl

theorem groupItems {G : String} (hG : refs G) :
    (groupItems j).filter (·.1 = G) = (Gem5Sc.groupItems j').filter (·.1 = G) := by
  cases h with
  | refl => rfl
  | obj _ groups => exact groups G hG

theorem parsePortConfigs (s : SimModule) : parsePortConfigs j s = parsePortConfigs j' s := by
  unfold Gem5Sc.parsePortConfigs
  rw [h.elemsIf (by decide), h.elemsIf (by decide)]

end SameButGroups

/-! ## 2. Two runs of each step -/

section Steps

variable {P P' : Platform} (hP : P.SameButGroups refs P')

/-- What a group is after some definitions: the last of its own, or what it was. -/
theorem lookup_define (G : String) {items : List (String × Json)} {w w' : World}
    (h : items.foldlM (fun (w : World) g => do
      let members ← g.2.elems.mapM Json.asString
      return { w with groups := setKey w.groups g.1 members }) w = .ok w') :
    w'.shape = w.shape ∧ ∃ defs : List (List String),
      (items.filter (·.1 = G)).mapM (fun g => g.2.elems.mapM Json.asString) = .ok defs ∧
      w'.groups.lookup G = (defs.getLast?).or (w.groups.lookup G) := by
  induction items generalizing w with
  | nil =>
      cases h
      exact ⟨rfl, [], rfl, rfl⟩
  | cons g items ih =>
      rw [List.foldlM_cons] at h
      obtain ⟨w1, h1, h⟩ := Library.bind_eq_ok.mp h
      obtain ⟨members, hmem, h1⟩ := Library.bind_eq_ok.mp h1
      cases h1
      obtain ⟨hshape, defs, hdefs, hlookup⟩ := ih h
      refine ⟨hshape, ?_⟩
      by_cases hg : g.1 = G
      · refine ⟨members :: defs, ?_, ?_⟩
        · rw [List.filter_cons_of_pos (by simpa using hg), List.mapM_cons, hmem, hdefs]
          rfl
        · rw [hlookup, ← hg, lookup_setKey_self, List.getLast?_cons]
          cases defs.getLast? <;> rfl
      · refine ⟨defs, ?_, ?_⟩
        · rw [List.filter_cons_of_neg (by simpa using hg)]
          exact hdefs
        · rw [hlookup, lookup_setKey_of_ne _ _ (Ne.symm hg)]

theorem related_defineGroups {j j' : Json} (hj : SameButGroups refs j j') {w w' : World}
    (hw : w.Alike refs w') :
    Library.Related (World.Alike refs) (defineGroups j w) (defineGroups j' w') := by
  intro v v' hv hv'
  refine ⟨?_, fun G hG => ?_⟩
  · obtain ⟨hs, -⟩ := lookup_define "" hv
    obtain ⟨hs', -⟩ := lookup_define "" hv'
    exact hs.trans (hw.shape.trans hs'.symm)
  · obtain ⟨-, defs, hd, hl⟩ := lookup_define G hv
    obtain ⟨-, defs', hd', hl'⟩ := lookup_define G hv'
    have hitems := hj.groupItems hG
    unfold groupItems at hitems
    rw [hitems, hd', Except.ok.injEq] at hd
    rw [hl, hl', hd, hw.groups G hG]

include hP

theorem related_loadPlugins {j j' : Json} (hj : SameButGroups refs j j') {w w' : World}
    (hw : w.Alike refs w') :
    Library.Related (World.Alike refs) (loadPlugins P j w) (loadPlugins P' j' w') := by
  unfold loadPlugins
  rw [hj.elemsIf (by decide), hP.loadPlugin]
  refine Library.Related.foldlM (fun path _ v v' hv => ?_) hw
  refine Library.Related.bind_same _ fun file _ => Library.Related.ok ⟨?_, hv.groups⟩
  obtain ⟨ho, hf, hr⟩ := World.shape_eq hv.shape
  unfold World.shape
  simp only [ho, hf, hr]

omit hP in
theorem alike_newInstance {b b' : Build} (name type : String) (h : b.Alike refs b') :
    (newInstance b name type).Alike refs (newInstance b' name type) := by
  obtain ⟨ho, hf, hr⟩ := World.shape_eq h.world.shape
  have hlen := World.length_of_shape h.world.shape
  unfold newInstance
  rw [← hr]
  split
  · refine ⟨⟨?_, h.world.groups⟩, ?_, ?_⟩
    · unfold World.newModule World.newFactory World.shape
      simp only [List.map_append, ho, hf, hr]
    · simp only [World.newModule, h.objectInstances, hlen]
    · simp only [World.newModule, h.moduleInstances, hlen]
  · split
    · refine ⟨⟨?_, h.world.groups⟩, ?_, h.moduleInstances⟩
      · unfold World.newObject World.shape
        simp only [List.map_append, ho, hf, hr]
      · simp only [World.newObject, h.objectInstances, hlen]
    · exact h

omit hP in
theorem related_createInstance {b b' : Build} (entry : Json) (h : b.Alike refs b') :
    Library.Related (Build.Alike refs) (createInstance b entry) (createInstance b' entry) := by
  unfold createInstance
  split
  · refine Library.Related.bind_same _ fun name _ => Library.Related.bind_same _ fun type _ => ?_
    have hnew := alike_newInstance name type h
    dsimp only
    split
    · exact Library.Related.ok hnew
    · refine Library.Related.bind_same _ fun x _ => Library.Related.bind_same _ fun y _ => ?_
      split
      · unfold setLayout
        rw [hnew.objectInstances]
        split
        · exact Library.Related.error_left _
        · refine Library.Related.ok ⟨⟨?_, hnew.world.groups⟩, rfl, hnew.moduleInstances⟩
          refine World.shape_modifyObject hnew.world.shape _ fun s s' hs => ?_
          obtain ⟨hn, ht, hp, -, hm⟩ := ObjectShape.mk.inj hs
          unfold SimObject.shape
          simp only [hn, ht, hp, hm]
      · exact Library.Related.ok hnew
  · exact Library.Related.ok h

omit hP in
theorem related_createInstances {j j' : Json} (hj : SameButGroups refs j j') {b b' : Build}
    (h : b.Alike refs b') :
    Library.Related (Build.Alike refs) (createInstances j b) (createInstances j' b') := by
  unfold createInstances
  rw [hj.elemsAt (by decide)]
  refine Library.Related.bind_same _ fun entries _ => ?_
  exact Library.Related.foldlM (fun entry _ c c' hc => related_createInstance entry hc) h

omit hP in
theorem alike_touchModule {b b' : Build} (name : String) (h : b.Alike refs b') :
    (touchModule b name).Alike refs (touchModule b' name) := by
  unfold touchModule
  rw [h.moduleInstances]
  split
  · exact h
  · exact ⟨h.world, h.objectInstances, rfl⟩

/-- In both runs a file is missing, is no JSON, or holds one configuration but for the groups. -/
theorem files_cases (file : String) :
    P.files file = none ∧ P'.files file = none ∨
      P.files file = some none ∧ P'.files file = some none ∨
      ∃ cfg cfg', P.files file = some (some cfg) ∧ P'.files file = some (some cfg') ∧
        SameButGroups refs cfg cfg' := by
  have hfile := hP.files file
  cases hp : P.files file with
  | none =>
      rw [hp] at hfile
      cases hp' : P'.files file with
      | none => exact Or.inl ⟨rfl, rfl⟩
      | some x =>
          rw [hp'] at hfile
          cases hfile
  | some x =>
      rw [hp] at hfile
      cases hp' : P'.files file with
      | none =>
          rw [hp'] at hfile
          cases hfile
      | some x' =>
          rw [hp'] at hfile
          cases hfile with
          | some hx =>
              cases hx with
              | none => exact Or.inr (Or.inl ⟨rfl, rfl⟩)
              | some hcfg => exact Or.inr (Or.inr ⟨_, _, rfl, rfl, hcfg⟩)

section Nested

variable {nested nested' : FactoryId → Json → World → Except ConfigError World}
  (hn : ∀ f j j' w w', SameButGroups refs j j' → w.Alike refs w' →
    Library.Related (World.Alike refs) (nested f j w) (nested' f j' w'))

include hn

omit hP in
/-- `SimModule::instantiate`, where the nested calls keep two worlds alike. -/
theorem related_instantiateModule (o : ObjId) (s : SimModule) {cfg cfg' : Json}
    (hcfg : SameButGroups refs cfg cfg') {w w' : World} (hw : w.Alike refs w') :
    Library.Related (World.Alike refs) (instantiateModule nested o s cfg w)
      (instantiateModule nested' o s cfg' w') := by
  unfold instantiateModule
  refine (hn s.internalFactory cfg cfg' _ _ hcfg hw).bind fun v v' hv => ?_
  rw [hcfg.parsePortConfigs]
  refine Library.Related.bind_same _ fun s _ => Library.Related.ok ⟨?_, hv.groups⟩
  refine World.shape_modifyObject hv.shape _ fun t t' hs => ?_
  obtain ⟨hn, ht, hp, hl, -⟩ := ObjectShape.mk.inj hs
  unfold SimObject.shape
  simp only [hn, ht, hp, hl]

/-- Step 4 for one entry. -/
theorem related_instantiateEntry {b b' : Build} (entry : Json) (h : b.Alike refs b') :
    Library.Related (Build.Alike refs) (instantiateEntry P nested b entry)
      (instantiateEntry P' nested' b' entry) := by
  unfold instantiateEntry
  split
  · exact Library.Related.ok h
  · refine Library.Related.bind_same _ fun name _ => ?_
    have ht := alike_touchModule name h
    dsimp only
    rw [ht.moduleInstances]
    split
    · exact Library.Related.ok ht
    · next o _ =>
        refine Library.Related.bind_same _ fun file _ => ?_
        rw [World.simModuleOf_of_shape ht.world.shape]
        rcases files_cases hP file with ⟨hp, hp'⟩ | ⟨hp, hp'⟩ | ⟨cfg, cfg', hp, hp', hcfg⟩
        · rw [hp, hp']
          exact Library.Related.ok ht
        · rw [hp, hp']
          exact Library.Related.error_left _
        · rw [hp, hp']
          cases (touchModule b' name).world.simModuleOf o with
          | none => exact Library.Related.ok ht
          | some s =>
              refine (related_instantiateModule hn o s hcfg ht.world).bind fun v v' hv => ?_
              exact Library.Related.ok ⟨hv, ht.objectInstances, rfl⟩

theorem related_instantiateModules {j j' : Json} (hj : SameButGroups refs j j') {b b' : Build}
    (h : b.Alike refs b') :
    Library.Related (Build.Alike refs) (instantiateModules P nested j b)
      (instantiateModules P' nested' j' b') := by
  unfold instantiateModules
  rw [hj.elemsAt (by decide)]
  refine Library.Related.bind_same _ fun entries _ => ?_
  exact Library.Related.foldlM
    (fun entry _ c c' hc => related_instantiateEntry hP hn entry hc) h

end Nested

omit hP in
theorem related_createPorts {j j' : Json} (hj : SameButGroups refs j j') {b b' : Build}
    (h : b.Alike refs b') :
    Library.Related (Build.Alike refs) (createPorts j b) (createPorts j' b') := by
  unfold createPorts
  rw [hj.elemsAt (by decide), funext h.portCreations]
  refine Library.Related.bind_same _ fun conns _ => ?_
  refine Library.Related.bind_same _ fun infos _ => Library.Related.ok ?_
  refine ⟨?_, h.objectInstances, h.moduleInstances⟩
  rw [← h.objectInstances]
  have hfold : ∀ (l : List PortCreationInfo) (v v' : World), v.Alike refs v' →
      (l.foldl (createPort b.objectInstances) v).Alike refs
        (l.foldl (createPort b.objectInstances) v') := by
    intro l
    induction l with
    | nil => exact fun v v' hv => hv
    | cons info l ih =>
        intro v v' hv
        refine ih _ _ ⟨World.shape_createPort hv.shape _ info, fun G hG => ?_⟩
        have hg : ∀ u : World, (createPort b.objectInstances u info).groups = u.groups := by
          intro u
          unfold createPort
          split <;> rfl
        rw [hg, hg]
        exact hv.groups G hG
  exact hfold infos.flatten _ _ h.world

theorem related_prepare {nested nested' : FactoryId → Json → World → Except ConfigError World}
    (hn : ∀ f j j' w w', SameButGroups refs j j' → w.Alike refs w' →
      Library.Related (World.Alike refs) (nested f j w) (nested' f j' w')) {j j' : Json}
    (hj : SameButGroups refs j j') {w w' : World} (hw : w.Alike refs w') :
    Library.Related (Build.Alike refs) (prepare P nested j w) (prepare P' nested' j' w') := by
  unfold prepare
  refine (related_loadPlugins hP hj hw).bind fun w w' hw => ?_
  have hstart : Build.Alike refs { world := w } { world := w' } := ⟨hw, rfl, rfl⟩
  refine (related_createInstances hj hstart).bind fun b b' hb => ?_
  refine (related_defineGroups hj hb.world).bind fun w w' hw => ?_
  have hdefined : Build.Alike refs { b with world := w } { b' with world := w' } :=
    ⟨hw, hb.objectInstances, hb.moduleInstances⟩
  refine (related_instantiateModules hP hn hj hdefined).bind fun b b' hb => ?_
  exact related_createPorts hj hb

end Steps

/-! ## 3. Two runs of the connection step -/

/-- The names one end of a connection is resolved to. -/
def endNames (P : Platform) (b : Build) (conn : Json) (key : String) :
    Except ConfigError (List String) := do
  let spec ← conn.stringAt key
  let excludeList ← conn.valueOr "exclude" (.arr [])
  filterExcluded P.regex (select P.regex b.world.groups (b.names P) spec) excludeList

/-- The groups a connection refers to. -/
def groupRefs (conn : Json) : List String :=
  (["src", "dst"].filterMap fun key => (conn.stringAt key).toOption).filterMap fun spec =>
    if ModuleGroup.isGroupReference spec then some (ModuleGroup.extractGroupName spec) else none

/-- The groups a configuration's connections refer to. -/
def Referenced (final : Json) (G : String) : Prop :=
  ∃ conn ∈ final.elemsIf "connections", G ∈ groupRefs conn

theorem mem_groupRefs {conn : Json} {key spec : String} (hkey : key ∈ ["src", "dst"])
    (hspec : conn.stringAt key = .ok spec) (hg : ModuleGroup.isGroupReference spec = true) :
    ModuleGroup.extractGroupName spec ∈ groupRefs conn := by
  refine List.mem_filterMap.mpr ⟨spec, List.mem_filterMap.mpr ⟨key, hkey, ?_⟩, if_pos hg⟩
  rw [hspec]
  rfl

section Connect

variable {P P' : Platform} (hP : P.SameButGroups refs P')

/-- The connections change pairs and delays only. -/
theorem alike_pair {b : Build} (latency : Int) (src dst : PortRef) :
    b.Alike refs (b.pair latency src dst) :=
  ⟨⟨(World.shape_pair b.world latency src dst).symm, fun _ _ => rfl⟩, rfl, rfl⟩

theorem Build.Alike.trans {b₁ b₂ b₃ : Build} (h : b₁.Alike refs b₂) (h' : b₂.Alike refs b₃) :
    b₁.Alike refs b₃ :=
  ⟨⟨h.world.shape.trans h'.world.shape,
      fun G hG => (h.world.groups G hG).trans (h'.world.groups G hG)⟩,
    h.objectInstances.trans h'.objectInstances, h.moduleInstances.trans h'.moduleInstances⟩

theorem Build.Alike.symm {b b' : Build} (h : b.Alike refs b') : b'.Alike refs b :=
  ⟨⟨h.world.shape.symm, fun G hG => (h.world.groups G hG).symm⟩, h.objectInstances.symm,
    h.moduleInstances.symm⟩

theorem alike_connectAll {final : Json} {b b' : Build} (h : connectAll P final b = .ok b') :
    b.Alike refs b' := by
  have hpair : PairKept (b.Alike refs) := fun _ latency src dst hc =>
    hc.trans (alike_pair latency src dst)
  exact hpair.connectAll ⟨World.Alike.refl _, rfl, rfl⟩ h

include hP

/-- One spec in two alike states. -/
theorem select_eq {b b' : Build} (h : b.Alike refs b') {spec : String}
    (hspec : ModuleGroup.isGroupReference spec = true → refs (ModuleGroup.extractGroupName spec)) :
    select P.regex b.world.groups (b.names P) spec =
      select P'.regex b'.world.groups (b'.names P') spec := by
  have hnames : b.names P = b'.names P' := by
    unfold Build.names
    rw [hP.order, h.objectInstances]
  unfold select ModuleGroup.resolve
  rw [hnames, hP.regex]
  cases hg : ModuleGroup.isGroupReference spec with
  | false => rfl
  | true =>
      simp only [if_true]
      rw [h.world.groups _ (hspec hg)]

theorem endNames_eq {b b' : Build} (h : b.Alike refs b') {conn : Json}
    (hrefs : ∀ G ∈ groupRefs conn, refs G) {key : String} (hkey : key ∈ ["src", "dst"]) :
    endNames P b conn key = endNames P' b' conn key := by
  unfold endNames
  cases hs : conn.stringAt key with
  | error e => rfl
  | ok spec =>
      have hsel := select_eq hP h fun hg : ModuleGroup.isGroupReference spec = true =>
        hrefs _ (mem_groupRefs hkey hs hg)
      show (conn.valueOr "exclude" (.arr []) >>= _) = (conn.valueOr "exclude" (.arr []) >>= _)
      rw [hsel, hP.regex]

/-- The outer runs: alike, and with the same pairs after `p` and `p'`. -/
structure SamePairs (refs : String → Prop) (p p' : List (PortRef × PortRef)) (b b' : Build) :
    Prop where
  alike : b.Alike refs b'
  pairs : ∃ new, b.world.pairs = p ++ new ∧ b'.world.pairs = p' ++ new

variable {p p' : List (PortRef × PortRef)}

omit hP in
theorem SamePairs.pair {b b' : Build} (h : SamePairs refs p p' b b') (latency : Int)
    (src dst : PortRef) : SamePairs refs p p' (b.pair latency src dst) (b'.pair latency src dst) := by
  obtain ⟨new, hb, hb'⟩ := h.pairs
  refine ⟨((alike_pair latency src dst).symm.trans h.alike).trans (alike_pair latency src dst),
    new ++ [(src, dst)], ?_, ?_⟩
  · show b.world.pairs ++ [(src, dst)] = _
    rw [hb, List.append_assoc]
  · show b'.world.pairs ++ [(src, dst)] = _
    rw [hb', List.append_assoc]

omit hP in
theorem related_connectFrom {b b' : Build} (h : SamePairs refs p p' b b') (latency : Int)
    (srcNames dstNames : List String) :
    Library.Related (SamePairs refs p p') (connectFrom b latency srcNames dstNames)
      (connectFrom b' latency srcNames dstNames) := by
  unfold connectFrom
  refine Library.Related.foldlM (fun src _ c c' hc => ?_) h
  have hsrc := hc.alike.findPort PortManager.readsShape_getDownstreamPort src
  show Library.Related _ (findPort c (c.world.portOf c.objectInstances _) src >>= _)
    (findPort c' (c'.world.portOf c'.objectInstances _) src >>= _)
  rw [hsrc]
  refine Library.Related.bind_same _ fun s _ => ?_
  unfold connectTo
  refine Library.Related.foldlM (fun dst _ c c' hc => ?_) hc
  have hdst := hc.alike.findPort PortManager.readsShape_getUpstreamPort dst
  show Library.Related _ (findPort c (c.world.portOf c.objectInstances _) dst >>= _)
    (findPort c' (c'.world.portOf c'.objectInstances _) dst >>= _)
  rw [hdst]
  refine Library.Related.bind_same _ fun d _ => ?_
  cases s with
  | none => exact Library.Related.ok hc
  | some s =>
      cases d with
      | none => exact Library.Related.ok hc
      | some d => exact Library.Related.ok (hc.pair latency s d)

theorem related_connect {b b' : Build} (h : SamePairs refs p p' b b') {conn : Json}
    (hrefs : ∀ G ∈ groupRefs conn, refs G) :
    Library.Related (SamePairs refs p p') (connect P b conn) (connect P' b' conn) := by
  unfold connect
  split
  · refine Library.Related.bind_same _ fun src hsrc => ?_
    refine Library.Related.bind_same _ fun dst hdst => ?_
    refine Library.Related.bind_same _ fun latency _ => ?_
    refine Library.Related.bind_same _ fun excludeList _ => ?_
    have hs := select_eq hP h.alike fun hg : ModuleGroup.isGroupReference src = true =>
      hrefs _ (mem_groupRefs (by decide) hsrc hg)
    have hd := select_eq hP h.alike fun hg : ModuleGroup.isGroupReference dst = true =>
      hrefs _ (mem_groupRefs (by decide) hdst hg)
    unfold Build.names at hs hd
    dsimp only
    rw [hs, hd, hP.regex]
    refine Library.Related.bind_same _ fun srcNames _ => ?_
    refine Library.Related.bind_same _ fun dstNames _ => ?_
    exact related_connectFrom h latency srcNames dstNames
  · exact Library.Related.ok h

/-! ## 4. Two runs of `instantiateAll` -/

/-- Two runs leave alike worlds. The induction is on the nesting depth. -/
theorem related_instantiateAll (fuel : Nat) (f : FactoryId) {j j' : Json}
    (hj : SameButGroups refs j j') {w w' : World} (hw : w.Alike refs w') :
    Library.Related (World.Alike refs) (instantiateAll P fuel f j w)
      (instantiateAll P' fuel f j' w') := by
  induction fuel generalizing f j j' w w' with
  | zero => exact Library.Related.error_left _
  | succ fuel ih =>
      unfold instantiateAll
      rw [hP.includeStep, hP.includeStep']
      show Library.Related _ (prepare P _ j w >>= _) (prepare P' _ j' w' >>= _)
      refine (related_prepare hP (fun f j j' w w' hj hw => ih f hj hw) hj hw).bind
        fun b b' hb => ?_
      intro v v' hv hv'
      obtain ⟨c, hc, hv⟩ := Library.bind_eq_ok.mp hv
      obtain ⟨c', hc', hv'⟩ := Library.bind_eq_ok.mp hv'
      cases hv
      cases hv'
      have h : c.Alike refs c' := ((alike_connectAll hc).symm.trans hb).trans (alike_connectAll hc')
      exact ⟨h.world.shape, h.world.groups⟩

end Connect

/-- **GROUP SCOPES.** Two runs of `instantiateAll` on one configuration, whose internal
    configurations differ in their groups, but not in a group that a connection of the outer
    configuration refers to: the outer connections are resolved to the same names, and the same
    outer ports are paired. -/
theorem same_connections {P P' : Platform} {final : Json}
    (hP : P.SameButGroups (Referenced final) P') {fuel : Nat} {f : FactoryId} {w v v' : World}
    (h : instantiateAll P (fuel + 1) f final w = .ok v)
    (h' : instantiateAll P' (fuel + 1) f final w = .ok v') :
    ∃ b b', prepare P (instantiateAll P fuel) final w = .ok b ∧
      prepare P' (instantiateAll P' fuel) final w = .ok b' ∧
      (∀ conn ∈ final.elemsIf "connections", ∀ key ∈ ["src", "dst"],
        endNames P b conn key = endNames P' b' conn key) ∧
      ∃ new, v.pairs = b.world.pairs ++ new ∧ v'.pairs = b'.world.pairs ++ new := by
  unfold instantiateAll at h h'
  rw [hP.includeStep] at h
  rw [hP.includeStep'] at h'
  obtain ⟨final₁, hf, h⟩ := Library.bind_eq_ok.mp h
  obtain ⟨final₂, hf', h'⟩ := Library.bind_eq_ok.mp h'
  cases hf
  cases hf'
  obtain ⟨b, hb, h⟩ := Library.bind_eq_ok.mp h
  obtain ⟨b', hb', h'⟩ := Library.bind_eq_ok.mp h'
  obtain ⟨c, hc, h⟩ := Library.bind_eq_ok.mp h
  obtain ⟨c', hc', h'⟩ := Library.bind_eq_ok.mp h'
  cases h
  cases h'
  have halike : b.Alike (Referenced final) b' :=
    related_prepare hP (fun f j j' w w' hj hw => related_instantiateAll hP fuel f hj hw)
      (SameButGroups.refl final) (World.Alike.refl w) b b' hb hb'
  refine ⟨b, b', hb, hb', fun conn hconn key hkey => ?_, ?_⟩
  · exact endNames_eq hP halike (fun G hG => ⟨conn, hconn, hG⟩) hkey
  · obtain ⟨conns, hconns, hc⟩ := Library.bind_eq_ok.mp hc
    obtain ⟨conns', hconns', hc'⟩ := Library.bind_eq_ok.mp hc'
    rw [hconns, Except.ok.injEq] at hconns'
    subst hconns'
    have hsame : Library.Related
        (SamePairs (Referenced final) b.world.pairs b'.world.pairs)
        (conns.foldlM (connect P) b) (conns.foldlM (connect P') b') := by
      refine Library.Related.foldlM (fun conn hconn c c' hc => ?_)
        ⟨halike, [], (List.append_nil _).symm, (List.append_nil _).symm⟩
      refine related_connect hP hc fun G hG => ⟨conn, ?_, hG⟩
      rw [Json.elemsIf_of_elemsAt hconns]
      exact hconn
    exact (hsame c c' hc hc').pairs

/-! ## 5. One name inside and outside -/

/-- The internal configuration of `M`, with the groups `groups`. -/
def groupsInner (groups : List (String × Json)) : Json :=
  .obj [("connections", .arr []), ("groups", .obj groups),
        ("modules", .arr [.obj [("name", .str "core"), ("type", .str "Source")]])]

/-- The connection through the groups. -/
def cpusToMems : Json := .obj [("dst", .str "group:mems"), ("src", .str "group:cpus")]

/-- The group `cpus` is `cpu0.out`. The first two connections create the ports. -/
def groupsOuter : Json :=
  .obj [("connections", .arr [
          .obj [("dst", .str "mem.in"), ("src", .str "cpu0.out")],
          .obj [("dst", .str "mem.in"), ("src", .str "cpu1.out")],
          cpusToMems]),
        ("groups", .obj [("cpus", .arr [.str "cpu0.out"]), ("mems", .arr [.str "mem.in"])]),
        ("modules", .arr [
          .obj [("config", .str "inner.json"), ("name", .str "M"), ("type", .str "Hierarchy")],
          .obj [("name", .str "cpu0"), ("type", .str "Source")],
          .obj [("name", .str "cpu1"), ("type", .str "Source")],
          .obj [("name", .str "mem"), ("type", .str "Sink")]])]

def groupsPlatform (groups : List (String × Json)) : Platform :=
  { Platform.ofFiles [("inner.json", groupsInner groups)] with includeStep := Except.ok }

def groupsWorld : World :=
  { linkWorld with
    registries := { linkWorld.registries with modules := [("Hierarchy", {})] } }

/-- Two such platforms differ in the groups of `inner.json`. -/
theorem sameButGroups_groupsPlatform {refs : String → Prop} {groups groups' : List (String × Json)}
    (h : ∀ G, refs G → groups.filter (·.1 = G) = groups'.filter (·.1 = G)) :
    (groupsPlatform groups).SameButGroups refs (groupsPlatform groups') where
  regex := rfl
  files name := by
    show Option.Rel _ (([("inner.json", groupsInner groups)].lookup name).map some)
      (([("inner.json", groupsInner groups')].lookup name).map some)
    rw [List.lookup_cons, List.lookup_cons]
    split
    · exact Option.Rel.some (Option.Rel.some (SameButGroups.obj rfl h))
    · exact Option.Rel.none
  includeStep := rfl
  includeStep' := rfl
  loadPlugin := rfl
  order := rfl

/-- A group with a name that no outer connection refers to. -/
def debugGroup : List (String × Json) := [("debug", .arr [.str "core"])]

theorem referenced_ne_debug {G : String} (h : Referenced groupsOuter G) : G ≠ "debug" := by
  obtain ⟨conn, hconn, hG⟩ := h
  have hall : ∀ conn ∈ groupsOuter.elemsIf "connections", ∀ G ∈ groupRefs conn, G ≠ "debug" := by
    decide
  exact hall conn hconn G hG

/-- With and without the group `debug` in `inner.json`. -/
theorem same_connections_debug : ∃ v v',
    instantiateAll (groupsPlatform []) 2 0 groupsOuter groupsWorld = .ok v ∧
    instantiateAll (groupsPlatform debugGroup) 2 0 groupsOuter groupsWorld = .ok v' ∧
    ∃ b b', prepare (groupsPlatform []) (instantiateAll (groupsPlatform []) 1) groupsOuter
        groupsWorld = .ok b ∧
      prepare (groupsPlatform debugGroup) (instantiateAll (groupsPlatform debugGroup) 1) groupsOuter
        groupsWorld = .ok b' ∧
      (∀ conn ∈ groupsOuter.elemsIf "connections", ∀ key ∈ ["src", "dst"],
        endNames (groupsPlatform []) b conn key = endNames (groupsPlatform debugGroup) b' conn key) ∧
      ∃ new, v.pairs = b.world.pairs ++ new ∧ v'.pairs = b'.world.pairs ++ new := by
  have hP : (groupsPlatform []).SameButGroups (Referenced groupsOuter)
      (groupsPlatform debugGroup) := by
    refine sameButGroups_groupsPlatform fun G hG => ?_
    have hne : ¬ "debug" = G := fun h => referenced_ne_debug hG h.symm
    simp [debugGroup, hne]
  have hret : (instantiateAll (groupsPlatform []) 2 0 groupsOuter groupsWorld).isOk = true := by
    decide
  have hret' : (instantiateAll (groupsPlatform debugGroup) 2 0 groupsOuter groupsWorld).isOk =
      true := by decide
  cases hv : instantiateAll (groupsPlatform []) 2 0 groupsOuter groupsWorld with
  | error e =>
      rw [hv] at hret
      cases hret
  | ok v =>
      cases hv' : instantiateAll (groupsPlatform debugGroup) 2 0 groupsOuter groupsWorld with
      | error e =>
          rw [hv'] at hret'
          cases hret'
      | ok v' => exact ⟨v, v', rfl, rfl, same_connections hP hv hv'⟩

/-- The group `cpus` inside `M`. -/
def innerCpus : List (String × Json) := [("cpus", .arr [.str "cpu1.out"])]

/-- The two runs differ in a group of `inner.json`, and in the port that `mem.in` is paired with. -/
theorem groups_leak :
    (groupsPlatform []).SameButGroups (fun _ => False) (groupsPlatform innerCpus) ∧
    cpusToMems ∈ groupsOuter.elemsIf "connections" ∧
    (∃ b b', prepare (groupsPlatform []) (instantiateAll (groupsPlatform []) 1) groupsOuter
        groupsWorld = .ok b ∧
      prepare (groupsPlatform innerCpus) (instantiateAll (groupsPlatform innerCpus) 1) groupsOuter
        groupsWorld = .ok b' ∧ b.world.pairs = [] ∧ b'.world.pairs = [] ∧
      endNames (groupsPlatform []) b cpusToMems "src" = .ok ["cpu0.out"] ∧
      endNames (groupsPlatform innerCpus) b' cpusToMems "src" = .ok ["cpu1.out"]) ∧
    (instantiateAll (groupsPlatform []) 2 0 groupsOuter groupsWorld).toOption.map World.pairs =
      some [(⟨1, 0⟩, ⟨3, 1⟩)] ∧
    (instantiateAll (groupsPlatform innerCpus) 2 0 groupsOuter groupsWorld).toOption.map
      World.pairs = some [(⟨2, 0⟩, ⟨3, 1⟩)] := by
  refine ⟨sameButGroups_groupsPlatform fun G hG => hG.elim, ?_, ?_, by decide, by decide⟩
  · exact List.mem_cons_of_mem _ (List.mem_cons_of_mem _ List.mem_cons_self)
  · refine ⟨_, _, rfl, rfl, rfl, rfl, by rfl, by rfl⟩

end Gem5Sc
