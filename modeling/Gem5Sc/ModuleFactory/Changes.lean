/-
  File:      Gem5Sc/ModuleFactory/Changes.lean
  Subject:   EVERYTHING `instantiateAll` DOES TO THE WORLD, at every nesting depth.

  A call changes the world through seven kinds of changes (`World.Change`); each is stated with what
  the code has checked before it: the type is registered, the two ports of a `PortPair` have been
  found. A whole call is a chain of them (`instantiateAll_changes`; the induction is on the nesting
  depth), so what every change keeps, every call keeps. Two results follow:

  * `instantiateAll_grows` -- a call only adds: objects, ports, pairs. Of what exists it writes the
    layout, the members of a SimModule and the delay of a downstream port;
  * `Reachable.links_have_ends` -- every `PortPair` joins two ports that exist.
-/
import Gem5Sc.ModuleFactory.Instances
import Gem5Sc.ModuleFactory.Objects
import Gem5Sc.ModuleFactory.PortPairs
import Mathlib.Logic.Relation

namespace Gem5Sc

/-! ## 1. The changes -/

/-- The writes to an object. -/
inductive SimObject.Write : (SimObject → SimObject) → Prop where
  | layout (l : Int × Int) : Write fun s => { s with layout := l }
  | simModule (m : SimModule) : Write fun s => { s with simModule := some m }
  | addPort (info : PortCreationInfo) :
      Write fun s => { s with ports := s.ports.map (PortManager.addPort info) }

namespace World

/-- Downstream port `p` exists. -/
def HasDownstream (w : World) (p : PortRef) : Prop :=
  ∃ s pm, w.objects[p.obj]? = some s ∧ s.ports = some pm ∧ p.index < pm.downstreamPorts.length

/-- Upstream port `p` exists. -/
def HasUpstream (w : World) (p : PortRef) : Prop :=
  ∃ s pm, w.objects[p.obj]? = some s ∧ s.ports = some pm ∧ p.index < pm.upstreamPorts.length

/-- **One change of the world.** -/
inductive Change (P : Platform) : World → World → Prop where
  | newObject {w : World} (name : String) {type : String} {c : ClassInfo}
      (hc : w.registries.objects.lookup type = some c) :
      Change P w (w.newObject name type c).2
  | newModule {w : World} (name : String) {type : String} {c : ClassInfo}
      (hc : w.registries.modules.lookup type = some c) :
      Change P w (w.newModule name type c).2
  | write {w : World} (o : ObjId) {g : SimObject → SimObject} (hg : SimObject.Write g) :
      Change P w (w.modifyObject o g)
  | plugin {w : World} (path : String) :
      Change P w { w with registries := (P.loadPlugin path w.registries).2 }
  | groups {w : World} (g : List (String × List String)) : Change P w { w with groups := g }
  | pair {w : World} (latency : Int) {src dst : PortRef} (hs : w.HasDownstream src)
      (hd : w.HasUpstream dst) : Change P w (w.pair latency src dst)
  | built {w : World} (r : Built) : Change P w { w with built := w.built ++ [r] }

/-- A chain of them. -/
abbrev Changes (P : Platform) : World → World → Prop := Relation.ReflTransGen (Change P)

end World

/-! ## 2. What a change adds -/

/-- The ports stay, but for the delays. -/
structure PortManager.Grows (pm pm' : PortManager) : Prop where
  upstream : pm.upstreamPorts <+: pm'.upstreamPorts
  downstream : pm.downstreamPorts.map (fun d => { d with delayCycles := 0 }) <+:
    pm'.downstreamPorts.map (fun d => { d with delayCycles := 0 })

namespace PortManager.Grows

theorem refl (pm : PortManager) : Grows pm pm := ⟨List.prefix_refl _, List.prefix_refl _⟩

theorem trans {pm₁ pm₂ pm₃ : PortManager} (h : Grows pm₁ pm₂) (h' : Grows pm₂ pm₃) :
    Grows pm₁ pm₃ :=
  ⟨h.upstream.trans h'.upstream, h.downstream.trans h'.downstream⟩

theorem addPort (info : PortCreationInfo) (pm : PortManager) : Grows pm (pm.addPort info) := by
  unfold PortManager.addPort
  split
  · exact ⟨List.prefix_append _ _, List.prefix_refl _⟩
  · refine ⟨List.prefix_refl _, ?_⟩
    simp only [addDownstreamPort, List.map_append]
    exact List.prefix_append _ _

theorem setDelay (pm : PortManager) (i : Nat) (d : Int) : Grows pm (pm.setDelay i d) := by
  refine ⟨List.prefix_refl _, ?_⟩
  have hsame : (pm.downstreamPorts.modify i fun p => { p with delayCycles := d }).map
      (fun p : DownstreamPort => { p with delayCycles := 0 }) =
        pm.downstreamPorts.map fun p => { p with delayCycles := 0 } := by
    refine List.ext_getElem? fun k => ?_
    rw [List.getElem?_map, List.getElem?_map, List.getElem?_modify]
    cases pm.downstreamPorts[k]? with
    | none => rfl
    | some p => by_cases hk : i = k <;> simp [hk]
  exact hsame ▸ List.prefix_refl _

theorem downstream_length {pm pm' : PortManager} (h : Grows pm pm') :
    pm.downstreamPorts.length ≤ pm'.downstreamPorts.length := by
  have hle := h.downstream.length_le
  rwa [List.length_map, List.length_map] at hle

end PortManager.Grows

/-- An object keeps its name, its type and its ports. -/
structure SimObject.Grows (s s' : SimObject) : Prop where
  name : s'.name = s.name
  type : s'.type = s.type
  none_iff : s'.ports = none ↔ s.ports = none
  ports : ∀ pm pm', s.ports = some pm → s'.ports = some pm' → pm.Grows pm'

namespace SimObject.Grows

/-- The ports of an object change by a function that only adds. -/
theorem of_ports {s s' : SimObject} {g : PortManager → PortManager}
    (hg : ∀ pm : PortManager, pm.Grows (g pm)) (hname : s'.name = s.name)
    (htype : s'.type = s.type) (hports : s'.ports = s.ports.map g) : Grows s s' := by
  refine ⟨hname, htype, by rw [hports, Option.map_eq_none_iff], fun pm pm' hpm hpm' => ?_⟩
  rw [hports, hpm, Option.map_some, Option.some.injEq] at hpm'
  exact hpm' ▸ hg pm

theorem refl (s : SimObject) : Grows s s :=
  of_ports (g := fun pm => pm) PortManager.Grows.refl rfl rfl Option.map_id'.symm

theorem trans {s₁ s₂ s₃ : SimObject} (h : Grows s₁ s₂) (h' : Grows s₂ s₃) : Grows s₁ s₃ := by
  refine ⟨h'.name.trans h.name, h'.type.trans h.type, h'.none_iff.trans h.none_iff,
    fun pm₁ pm₃ h1 h3 => ?_⟩
  cases h2 : s₂.ports with
  | none =>
      rw [h.none_iff.mp h2] at h1
      cases h1
  | some pm₂ => exact (h.ports pm₁ pm₂ h1 h2).trans (h'.ports pm₂ pm₃ h2 h3)

theorem write {g : SimObject → SimObject} (hg : Write g) (s : SimObject) : Grows s (g s) := by
  cases hg with
  | layout l => exact of_ports PortManager.Grows.refl rfl rfl Option.map_id'.symm
  | simModule m => exact of_ports PortManager.Grows.refl rfl rfl Option.map_id'.symm
  | addPort info => exact of_ports (PortManager.Grows.addPort info) rfl rfl rfl

end SimObject.Grows

namespace World

/-- **Nothing is removed.** -/
structure Grows (w w' : World) : Prop where
  object : ∀ (o : ObjId) (s : SimObject), w.objects[o]? = some s →
    ∃ s' : SimObject, w'.objects[o]? = some s' ∧ s.Grows s'
  factories : w.factories <+: w'.factories
  pairs : w.pairs <+: w'.pairs
  built : w.built <+: w'.built

theorem Grows.refl (w : World) : Grows w w where
  object _ s hs := ⟨s, hs, .refl s⟩
  factories := List.prefix_refl _
  pairs := List.prefix_refl _
  built := List.prefix_refl _

theorem Grows.trans {w₁ w₂ w₃ : World} (h : Grows w₁ w₂) (h' : Grows w₂ w₃) : Grows w₁ w₃ where
  object o s hs := by
    obtain ⟨s₂, hs₂, hg⟩ := h.object o s hs
    obtain ⟨s₃, hs₃, hg'⟩ := h'.object o s₂ hs₂
    exact ⟨s₃, hs₃, hg.trans hg'⟩
  factories := h.factories.trans h'.factories
  pairs := h.pairs.trans h'.pairs
  built := h.built.trans h'.built

theorem grows_append (w : World) {s : SimObject} {fs : List (List (String × ObjId))}
    (hfs : w.factories <+: fs) :
    Grows w { w with objects := w.objects ++ [s], factories := fs } where
  object o s' hs := by
    refine ⟨s', ?_, .refl s'⟩
    have ho : o < w.objects.length := (List.getElem?_eq_some_iff.mp hs).1
    rw [List.getElem?_append_left ho]
    exact hs
  factories := hfs
  pairs := List.prefix_refl _
  built := List.prefix_refl _

theorem grows_modifyObject (w : World) (o : ObjId) {g : SimObject → SimObject}
    (hg : ∀ s : SimObject, s.Grows (g s)) : Grows w (w.modifyObject o g) where
  object k s hs := by
    by_cases hk : o = k
    · exact ⟨g s, by simp [modifyObject, hk, hs], hg s⟩
    · exact ⟨s, by simp [modifyObject, hk, hs], .refl s⟩
  factories := List.prefix_refl _
  pairs := List.prefix_refl _
  built := List.prefix_refl _

variable {P : Platform} {w w' : World}

theorem Change.grows (h : Change P w w') : Grows w w' := by
  cases h with
  | newObject name hc => exact w.grows_append (List.prefix_refl _)
  | newModule name hc => exact w.grows_append (List.prefix_append _ _)
  | write o hg => exact w.grows_modifyObject o (SimObject.Grows.write hg)
  | plugin path => exact { Grows.refl w with }
  | groups g => exact { Grows.refl w with }
  | @pair latency src dst hs hd =>
      have hdelay : ∀ s : SimObject,
          s.Grows { s with ports := s.ports.map (·.setDelay src.index latency) } :=
        fun s => SimObject.Grows.of_ports (fun pm => .setDelay pm src.index latency) rfl rfl rfl
      exact { w.grows_modifyObject src.obj hdelay with pairs := List.prefix_append _ _ }
  | built r => exact { Grows.refl w with built := List.prefix_append _ _ }

theorem Changes.grows (h : Changes P w w') : Grows w w' := by
  induction h with
  | refl => exact .refl w
  | tail _ h ih => exact ih.trans h.grows

/-- A port stays. -/
theorem Grows.hasDownstream (h : Grows w w') {p : PortRef} (hp : w.HasDownstream p) :
    w'.HasDownstream p := by
  obtain ⟨s, pm, hs, hpm, hlt⟩ := hp
  obtain ⟨s', hs', hg⟩ := h.object p.obj s hs
  cases hpm' : s'.ports with
  | none =>
      rw [hg.none_iff.mp hpm'] at hpm
      cases hpm
  | some pm' =>
      exact ⟨s', pm', hs', hpm', Nat.lt_of_lt_of_le hlt (hg.ports pm pm' hpm hpm').downstream_length⟩

theorem Grows.hasUpstream (h : Grows w w') {p : PortRef} (hp : w.HasUpstream p) :
    w'.HasUpstream p := by
  obtain ⟨s, pm, hs, hpm, hlt⟩ := hp
  obtain ⟨s', hs', hg⟩ := h.object p.obj s hs
  cases hpm' : s'.ports with
  | none =>
      rw [hg.none_iff.mp hpm'] at hpm
      cases hpm
  | some pm' =>
      have hle := (hg.ports pm pm' hpm hpm').upstream.length_le
      exact ⟨s', pm', hs', hpm', Nat.lt_of_lt_of_le hlt hle⟩

/-- Every `PortPair` joins two ports that exist. -/
def Wired (w : World) : Prop := ∀ x ∈ w.pairs, w.HasDownstream x.1 ∧ w.HasUpstream x.2

theorem Grows.wired (h : Grows w w') (hw : w.Wired) :
    ∀ x ∈ w.pairs, w'.HasDownstream x.1 ∧ w'.HasUpstream x.2 :=
  fun x hx => ⟨h.hasDownstream (hw x hx).1, h.hasUpstream (hw x hx).2⟩

theorem Change.wired (h : Change P w w') (hw : w.Wired) : w'.Wired := by
  have hold := h.grows.wired hw
  cases h with
  | pair latency hs hd =>
      have hg := (Change.pair (P := P) latency hs hd).grows
      intro x hx
      rcases List.mem_append.mp hx with hx | hx
      · exact hold x hx
      · rw [List.mem_singleton.mp hx]
        exact ⟨hg.hasDownstream hs, hg.hasUpstream hd⟩
  | _ => exact hold

theorem Changes.wired (h : Changes P w w') (hw : w.Wired) : w'.Wired := by
  induction h with
  | refl => exact hw
  | tail _ h ih => exact h.wired ih

end World

/-! ## 3. The steps of `instantiateAll` -/

section Steps

open World

variable {P : Platform}

theorem loadPlugins_changes {final : Json} {w w' : World} (h : loadPlugins P final w = .ok w') :
    Changes P w w' := by
  refine Library.foldlM_invariant (I := Changes P w) (fun w₁ path _ w₂ hw h => ?_) .refl h
  obtain ⟨s, _, h⟩ := Library.bind_eq_ok.mp h
  cases h
  exact hw.tail (.plugin s)

theorem newInstance_changes (b : Build) (name type : String) :
    Changes P b.world (newInstance b name type).world := by
  unfold newInstance
  split
  · next hc => exact .single (.newModule name hc)
  · split
    · next hc => exact .single (.newObject name hc)
    · exact .refl

theorem createInstance_changes {b b' : Build} {entry : Json}
    (h : createInstance b entry = .ok b') : Changes P b.world b'.world := by
  rcases createInstance_cases h with ⟨-, rfl⟩ | ⟨name, type, -, -, rfl | ⟨o, l, rfl⟩⟩
  · exact .refl
  · exact newInstance_changes b name type
  · exact (newInstance_changes b name type).tail (.write o (.layout l))

theorem createInstances_changes {final : Json} {b b' : Build}
    (h : createInstances final b = .ok b') : Changes P b.world b'.world := by
  obtain ⟨entries, _, h⟩ := Library.bind_eq_ok.mp h
  exact Library.foldlM_invariant (I := fun b' => Changes P b.world b'.world)
    (fun b₁ entry _ b₂ hb h => hb.trans (createInstance_changes h)) .refl h

theorem defineGroups_changes {final : Json} {w w' : World} (h : defineGroups final w = .ok w') :
    Changes P w w' := by
  refine Library.foldlM_invariant (I := Changes P w) (fun w₁ g _ w₂ hw h => ?_) .refl h
  obtain ⟨members, _, h⟩ := Library.bind_eq_ok.mp h
  cases h
  exact hw.tail (.groups _)

section Nested

variable {nested : FactoryId → Json → World → Except ConfigError World}
  (hn : ∀ f cfg w w', nested f cfg w = .ok w' → Changes P w w')

include hn

theorem instantiateModule_changes {o : ObjId} {s : SimModule} {cfg : Json} {w w' : World}
    (h : instantiateModule nested o s cfg w = .ok w') : Changes P w w' := by
  obtain ⟨w₁, h₁, h⟩ := Library.bind_eq_ok.mp h
  obtain ⟨s', _, h⟩ := Library.bind_eq_ok.mp h
  cases h
  exact (hn _ _ _ _ h₁).tail (.write o (.simModule s'))

theorem instantiateEntry_changes {b b' : Build} {entry : Json}
    (h : instantiateEntry P nested b entry = .ok b') : Changes P b.world b'.world := by
  have ht : ∀ name, (touchModule b name).world = b.world := by
    intro name
    unfold touchModule
    split <;> rfl
  unfold instantiateEntry at h
  split at h
  · cases h
    exact .refl
  · obtain ⟨name, _, h⟩ := Library.bind_eq_ok.mp h
    rw [← ht name]
    dsimp only at h
    split at h
    · cases h
      exact .refl
    · obtain ⟨file, _, h⟩ := Library.bind_eq_ok.mp h
      split at h
      · cases h
        exact .refl
      · cases h
      · cases h
        exact .refl
      · obtain ⟨w, hw, h⟩ := Library.bind_eq_ok.mp h
        cases h
        exact instantiateModule_changes hn hw

theorem instantiateModules_changes {final : Json} {b b' : Build}
    (h : instantiateModules P nested final b = .ok b') : Changes P b.world b'.world := by
  obtain ⟨entries, _, h⟩ := Library.bind_eq_ok.mp h
  exact Library.foldlM_invariant (I := fun b' => Changes P b.world b'.world)
    (fun b₁ entry _ b₂ hb h => hb.trans (instantiateEntry_changes hn h)) .refl h

end Nested

theorem createPort_changes (objs : List (String × ObjId)) (w : World) (info : PortCreationInfo) :
    Changes P w (createPort objs w info) := by
  unfold createPort
  split
  · exact .refl
  · exact .single (.write _ (.addPort info))

theorem createPorts_changes {final : Json} {b b' : Build} (h : createPorts final b = .ok b') :
    Changes P b.world b'.world := by
  obtain ⟨conns, _, h⟩ := Library.bind_eq_ok.mp h
  obtain ⟨infos, _, h⟩ := Library.bind_eq_ok.mp h
  cases h
  exact List.foldlRecOn (motive := Changes P b.world) infos.flatten _ .refl
    fun w hw info _ => hw.trans (createPort_changes _ w info)

/-! ## 4. The connections -/

/-- What a search by label finds exists. -/
theorem portOf_valid {w : World} {objs : List (String × ObjId)}
    {find : PortManager → String → Option Nat} {name label : String} {p : PortRef}
    (h : w.portOf objs find name label = some p) :
    ∃ s pm, w.objects[p.obj]? = some s ∧ s.ports = some pm ∧ find pm label = some p.index := by
  unfold World.portOf at h
  obtain ⟨o, -, h⟩ := Option.bind_eq_some_iff.mp h
  obtain ⟨s, hs, h⟩ := Option.bind_eq_some_iff.mp h
  obtain ⟨pm, hpm, h⟩ := Option.bind_eq_some_iff.mp h
  obtain ⟨i, hi, h⟩ := Option.bind_eq_some_iff.mp h
  cases h
  exact ⟨s, pm, hs, hpm, hi⟩

theorem downstreamPort_valid {w : World} {objs : List (String × ObjId)} {name label : String}
    {p : PortRef} (h : w.downstreamPort objs name label = some p) : w.HasDownstream p := by
  obtain ⟨s, pm, hs, hpm, hi⟩ := portOf_valid h
  exact ⟨s, pm, hs, hpm, PortManager.getDownstreamPort_lt hi⟩

theorem upstreamPort_valid {w : World} {objs : List (String × ObjId)} {name label : String}
    {p : PortRef} (h : w.upstreamPort objs name label = some p) : w.HasUpstream p := by
  obtain ⟨s, pm, hs, hpm, hi⟩ := portOf_valid h
  exact ⟨s, pm, hs, hpm, PortManager.getUpstreamPort_lt hi⟩

/-- What a full name leads to, a search by label has found. -/
theorem findPort_found {b : Build} {find : String → String → Option PortRef} {full : String}
    {p : PortRef} (h : findPort b find full = .ok (some p)) :
    ∃ name label, find name label = some p := by
  unfold findPort at h
  dsimp only at h
  split at h
  · cases h
  · split at h
    · obtain ⟨path, _, h⟩ := Library.bind_eq_ok.mp h
      split at h
      · cases h
      · exact ⟨_, _, Except.ok.inj h⟩
    · exact ⟨_, _, Except.ok.inj h⟩

theorem connectTo_changes {b b' : Build} {latency : Int} {src : Option PortRef}
    {dstNames : List String} (hsrc : ∀ p, src = some p → b.world.HasDownstream p)
    (h : connectTo b latency src dstNames = .ok b') : Changes P b.world b'.world := by
  refine Library.foldlM_invariant (I := fun b' => Changes P b.world b'.world)
    (fun b₁ dst _ b₂ hb h => ?_) .refl h
  obtain ⟨d, hd, h⟩ := Library.bind_eq_ok.mp h
  split at h
  · next s p _ _ =>
      cases h
      obtain ⟨name, label, hfound⟩ := findPort_found hd
      exact hb.tail (.pair latency (hb.grows.hasDownstream (hsrc s rfl)) (upstreamPort_valid hfound))
  · cases h
    exact hb

theorem connectFrom_changes {b b' : Build} {latency : Int} {srcNames dstNames : List String}
    (h : connectFrom b latency srcNames dstNames = .ok b') : Changes P b.world b'.world := by
  refine Library.foldlM_invariant (I := fun b' => Changes P b.world b'.world)
    (fun b₁ src _ b₂ hb h => ?_) .refl h
  obtain ⟨s, hs, h⟩ := Library.bind_eq_ok.mp h
  refine hb.trans (connectTo_changes (fun p hp => ?_) h)
  obtain ⟨name, label, hfound⟩ := findPort_found (hp ▸ hs)
  exact downstreamPort_valid hfound

theorem connect_changes {b b' : Build} {conn : Json} (h : connect P b conn = .ok b') :
    Changes P b.world b'.world := by
  unfold connect at h
  split at h
  · obtain ⟨src, _, h⟩ := Library.bind_eq_ok.mp h
    obtain ⟨dst, _, h⟩ := Library.bind_eq_ok.mp h
    obtain ⟨latency, _, h⟩ := Library.bind_eq_ok.mp h
    obtain ⟨excludeList, _, h⟩ := Library.bind_eq_ok.mp h
    obtain ⟨srcNames, _, h⟩ := Library.bind_eq_ok.mp h
    obtain ⟨dstNames, _, h⟩ := Library.bind_eq_ok.mp h
    exact connectFrom_changes h
  · cases h
    exact .refl

theorem connectAll_changes {final : Json} {b b' : Build} (h : connectAll P final b = .ok b') :
    Changes P b.world b'.world := by
  obtain ⟨conns, _, h⟩ := Library.bind_eq_ok.mp h
  exact Library.foldlM_invariant (I := fun b' => Changes P b.world b'.world)
    (fun b₁ conn _ b₂ hb h => hb.trans (connect_changes h)) .refl h

/-! ## 5. All steps -/

theorem prepare_changes {nested : FactoryId → Json → World → Except ConfigError World}
    (hn : ∀ f cfg w w', nested f cfg w = .ok w' → Changes P w w') {final : Json} {w : World}
    {b : Build} (h : prepare P nested final w = .ok b) : Changes P w b.world := by
  obtain ⟨w₁, h₁, h⟩ := Library.bind_eq_ok.mp h
  obtain ⟨b₂, h₂, h⟩ := Library.bind_eq_ok.mp h
  obtain ⟨w₃, h₃, h⟩ := Library.bind_eq_ok.mp h
  obtain ⟨b₄, h₄, h⟩ := Library.bind_eq_ok.mp h
  calc Changes P w w₁ := loadPlugins_changes h₁
    Changes P _ b₂.world := createInstances_changes (b := { world := w₁ }) h₂
    Changes P _ w₃ := defineGroups_changes h₃
    Changes P _ b₄.world := instantiateModules_changes hn (b := { b₂ with world := w₃ }) h₄
    Changes P _ b.world := createPorts_changes h

/-- **A CALL IS A CHAIN OF CHANGES.** The induction is on the nesting depth. -/
theorem instantiateAll_changes {fuel : Nat} {f : FactoryId} {config : Json} {w w' : World}
    (h : instantiateAll P fuel f config w = .ok w') : Changes P w w' := by
  induction fuel generalizing f config w w' with
  | zero => cases h
  | succ fuel ih =>
      obtain ⟨final, _, h⟩ := Library.bind_eq_ok.mp h
      obtain ⟨b, hp, h⟩ := Library.bind_eq_ok.mp h
      obtain ⟨b', hc, h⟩ := Library.bind_eq_ok.mp h
      cases h
      exact ((prepare_changes (fun _ _ _ _ => ih) hp).trans (connectAll_changes hc)).tail (.built _)

end Steps

/-! ## 6. What holds after every call -/

/-- **A CALL ONLY ADDS.** For every platform, configuration and nesting depth, and from every
    world: after a completed `instantiateAll` every object is there with its name and type, has a
    port manager exactly if it had one, and in it every port it had, at the same index, with the
    same label, channels and statistics; every factory, pair and completed call is there. -/
theorem instantiateAll_grows {P : Platform} (fuel : Nat) (f : FactoryId) (config : Json)
    {w w' : World} (h : instantiateAll P fuel f config w = .ok w') : w.Grows w' :=
  (instantiateAll_changes h).grows

/-- A second configuration, next to `inst0` of a first. -/
theorem instantiateAll_grows_oneLink :
    ∃ w', instantiateAll linkPlatform 1 0 (.str "link.json")
        { testWorldBuilt with registries := linkWorld.registries } = .ok w' ∧
      World.Grows { testWorldBuilt with registries := linkWorld.registries } w' :=
  ⟨_, rfl, instantiateAll_grows (P := linkPlatform) 1 0 (.str "link.json") rfl⟩

/-- **EVERY LINK HAS TWO ENDS.** In every world a program reaches, by creating factories,
    registering classes and instantiating configurations in any order and at any nesting depth:
    every `PortPair` joins a downstream port that exists and an upstream port that exists. -/
theorem World.Reachable.links_have_ends {P : Platform} {w : World} (h : w.Reachable P) :
    w.Wired := by
  induction h with
  | start => exact fun x hx => absurd hx List.not_mem_nil
  | newFactory _ ih => exact ih
  | register r _ ih => exact ih
  | instantiateAll _ h ih => exact (instantiateAll_changes h).wired ih

theorem linkWorld_reachable (P : Platform) : linkWorld.Reachable P :=
  (World.Reachable.start.newFactory).register linkWorld.registries

theorem links_have_ends_fanIn :
    ∃ w', instantiateAll (Platform.ofFiles [("fan_in.json", fanIn)]) 1 0 (.str "fan_in.json")
        linkWorld = .ok w' ∧ w'.pairs.length = 2 ∧
      ∀ x ∈ w'.pairs, w'.HasDownstream x.1 ∧ w'.HasUpstream x.2 := by
  have hret : (instantiateAll (Platform.ofFiles [("fan_in.json", fanIn)]) 1 0 (.str "fan_in.json")
      linkWorld).toOption.map (fun w => w.pairs.length) = some 2 := by decide
  cases hw : instantiateAll (Platform.ofFiles [("fan_in.json", fanIn)]) 1 0 (.str "fan_in.json")
      linkWorld with
  | error e =>
      rw [hw] at hret
      cases hret
  | ok w' =>
      rw [hw] at hret
      exact ⟨w', rfl, Option.some.inj hret,
        World.Reachable.links_have_ends ((linkWorld_reachable _).instantiateAll hw)⟩

end Gem5Sc
