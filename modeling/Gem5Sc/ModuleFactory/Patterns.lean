/-
  File:      Gem5Sc/ModuleFactory/Patterns.lean
  Subject:   Whether a connection from a pattern to one instance gets its links.

  What is meant: one upstream port on the destination for each selected instance, and a pair
  between the two (`PatternConnection.Linked`). What the code does: step 5 takes both specs
  literally, and a port is created only for a spec with a dot, on the instance before the dot.
  The name of an instance is not that (`upstreamCount_portCreations`), so the destination gets no
  port for the connection, however many instances step 6 selects.
-/
import Gem5Sc.ModuleFactory.Connect
import Gem5Sc.ModuleFactory.Objects
import Mathlib.Data.List.TakeWhile

namespace Gem5Sc

/-! ## 1. The two parts of a spec -/

theorem dot_notMem_fst (spec : String) : '.' ∉ (parsePortSpec spec).1.toList := by
  unfold parsePortSpec
  split
  · next h =>
      intro hmem
      have hp := List.dropWhile_eq_nil_iff.mp h '.' hmem
      simp at hp
  · intro hmem
    rw [String.toList_ofList] at hmem
    have hp := List.mem_takeWhile_imp hmem
    simp at hp

theorem dot_mem_of_snd {spec : String} (h : (parsePortSpec spec).2 ≠ "") : '.' ∈ spec.toList := by
  by_contra hdot
  have hd : spec.toList.dropWhile (· ≠ '.') = [] := by
    rw [List.dropWhile_eq_nil_iff]
    intro c hc
    have hne : c ≠ '.' := fun e => hdot (e ▸ hc)
    exact decide_eq_true hne
  refine h ?_
  unfold parsePortSpec
  rw [hd]

/-! ## 2. The ports of some connections -/

/-- Step 5 for the first connections of a configuration. -/
def createPortsOf (b : Build) (conns : List Json) : Except ConfigError World := do
  let infos ← conns.mapM (portCreations b)
  return infos.flatten.foldl (createPort b.objectInstances) b.world

theorem createPorts_eq (final : Json) (b : Build) :
    createPorts final b = (do
      let conns ← final.elemsAt "connections"
      let w ← createPortsOf b conns
      return { b with world := w }) := by
  unfold createPorts createPortsOf
  simp only [bind_assoc, pure_bind]

/-- One more connection. -/
theorem createPortsOf_concat {b : Build} {conns : List Json} {conn : Json} {w₀ w₁ : World}
    (h₀ : createPortsOf b conns = .ok w₀) (h₁ : createPortsOf b (conns ++ [conn]) = .ok w₁) :
    ∃ infos, portCreations b conn = .ok infos ∧
      w₁ = infos.foldl (createPort b.objectInstances) w₀ := by
  obtain ⟨before, hbefore, h₀⟩ := Library.bind_eq_ok.mp h₀
  obtain ⟨all, hall, h₁⟩ := Library.bind_eq_ok.mp h₁
  cases h₀
  cases h₁
  rw [List.mapM_append] at hall
  obtain ⟨before', hbefore', hall⟩ := Library.bind_eq_ok.mp hall
  obtain ⟨last, hlast, hall⟩ := Library.bind_eq_ok.mp hall
  cases hall
  rw [hbefore] at hbefore'
  cases hbefore'
  rw [List.mapM_cons] at hlast
  obtain ⟨infos, hinfos, hlast⟩ := Library.bind_eq_ok.mp hlast
  cases hlast
  refine ⟨infos, hinfos, ?_⟩
  rw [List.flatten_append, List.foldl_append]
  exact congrArg (List.foldl _ _) List.flatten_singleton

/-- The number of upstream ports of an object. -/
def World.upstreamCount (w : World) (o : ObjId) : Nat :=
  ((w.objects[o]?).bind SimObject.ports).elim 0 fun pm => pm.upstreamPorts.length

/-- A creation elsewhere, or of a downstream port, leaves the number alone. -/
theorem upstreamCount_createPort {objs : List (String × ObjId)} {info : PortCreationInfo}
    {o : ObjId} (h : info.isUpstream = true → objs.lookup info.ownerName ≠ some o) (w : World) :
    (createPort objs w info).upstreamCount o = w.upstreamCount o := by
  unfold World.upstreamCount
  rw [objects_createPort]
  cases w.objects[o]? with
  | none => rfl
  | some s =>
      simp only [Option.map_some, Option.bind_some]
      split
      · next ho =>
          have hdown : info.isUpstream = false := by
            by_contra hu
            exact h (Bool.eq_true_of_not_eq_false hu) ho
          cases s.ports with
          | none => rfl
          | some pm =>
              unfold PortManager.addPort
              simp only [hdown]
              rfl
      · rfl

/-- A creation for one end: its spec has a label, and its owner is the first part of some name. -/
theorem mem_endpointPort {b : Build} {conn : Json} {spec key : String} {isUpstream : Bool}
    {infos : List PortCreationInfo} (h : endpointPort b conn spec key isUpstream = .ok infos) :
    ∀ info ∈ infos, info.isUpstream = isUpstream ∧ (parsePortSpec spec).2 ≠ "" ∧
      ∃ full, info.ownerName = (parsePortSpec full).1 := by
  unfold endpointPort at h
  dsimp only at h
  split at h
  · cases h
    exact fun info hi => absurd hi List.not_mem_nil
  · next hlabel =>
      split at h
      · obtain ⟨path, _, h⟩ := Library.bind_eq_ok.mp h
        split at h
        · cases h
          exact fun info hi => absurd hi List.not_mem_nil
        · obtain ⟨sizes, _, h⟩ := Library.bind_eq_ok.mp h
          obtain ⟨priorities, _, h⟩ := Library.bind_eq_ok.mp h
          cases h
          intro info hi
          rw [List.mem_singleton.mp hi]
          exact ⟨rfl, hlabel, path, rfl⟩
      · obtain ⟨sizes, _, h⟩ := Library.bind_eq_ok.mp h
        have hone : ∃ priorities, infos = [⟨(parsePortSpec spec).1, (parsePortSpec spec).2, sizes,
            priorities, isUpstream⟩] := by
          split at h <;> obtain ⟨priorities, _, h⟩ := Library.bind_eq_ok.mp h <;> cases h <;>
            exact ⟨_, rfl⟩
        obtain ⟨priorities, rfl⟩ := hone
        intro info hi
        rw [List.mem_singleton.mp hi]
        exact ⟨rfl, hlabel, spec, rfl⟩

/-- **The destination gets no port.** Its name has no dot, or the port is another instance's. -/
theorem upstreamCount_portCreations {b : Build} {n m : Nat} (hb : Numbered b.objectInstances n m)
    {conn : Json} {dst : String} {o : ObjId} (hdst : conn.stringAt "dst" = .ok dst)
    (ho : b.objectInstances.lookup dst = some o) {infos : List PortCreationInfo}
    (h : portCreations b conn = .ok infos) (w : World) :
    (infos.foldl (createPort b.objectInstances) w).upstreamCount o = w.upstreamCount o := by
  have hother : ∀ info ∈ infos, info.isUpstream = true →
      b.objectInstances.lookup info.ownerName ≠ some o := by
    unfold portCreations at h
    split at h
    · obtain ⟨src, _, h⟩ := Library.bind_eq_ok.mp h
      obtain ⟨dst', hdst', h⟩ := Library.bind_eq_ok.mp h
      obtain ⟨latency, _, h⟩ := Library.bind_eq_ok.mp h
      obtain ⟨down, hdown, h⟩ := Library.bind_eq_ok.mp h
      obtain ⟨up, hup, h⟩ := Library.bind_eq_ok.mp h
      cases h
      rw [hdst] at hdst'
      cases hdst'
      intro info hi hu hlookup
      rcases List.mem_append.mp hi with hi | hi
      · have hf := (mem_endpointPort hdown info hi).1
        rw [hu] at hf
        cases hf
      · obtain ⟨-, hlabel, full, hown⟩ := mem_endpointPort hup info hi
        have hname : info.ownerName = dst := hb.injective _ _ o hlookup ho
        have hdot := dot_mem_of_snd hlabel
        rw [← hname, hown] at hdot
        exact dot_notMem_fst full hdot
    · cases h
      exact fun info hi => absurd hi List.not_mem_nil
  refine List.foldlRecOn (motive := fun w' : World => w'.upstreamCount o = w.upstreamCount o)
    infos _ rfl fun w' hw' info hi => ?_
  exact (upstreamCount_createPort (hother info hi) w').trans hw'

/-! ## 3. Connections from a pattern to an instance -/

/-- The names a pattern selects, before exclusion. -/
def selects (R : RegexEngine) (groups : List (String × List String)) (spec name : String) : Bool :=
  if ModuleGroup.isGroupReference spec then name ∈ ModuleGroup.resolve groups spec
  else RegexMatcher.isMatch R spec name

/-- One of the connections of a configuration, from a pattern to the name of an instance. -/
structure PatternConnection (final : Json) (b : Build) where
  before : List Json
  conn : Json
  after : List Json
  connections : final.elemsAt "connections" = .ok (before ++ conn :: after)
  src : String
  src_eq : conn.stringAt "src" = .ok src
  src_pattern : isPlain src = false
  dst : String
  dst_eq : conn.stringAt "dst" = .ok dst
  dstObj : ObjId
  dst_instance : b.objectInstances.lookup dst = some dstObj
  excludeList : Json
  exclude_eq : conn.valueOr "exclude" (.arr []) = .ok excludeList

namespace PatternConnection

variable {final : Json} {b : Build} (c : PatternConnection final b)

/-- The created instances that the source selects and no exclude pattern matches. -/
def chosen (R : RegexEngine) : List String :=
  (b.objectInstances.map Prod.fst).filter fun name =>
    selects R b.world.groups c.src name &&
      (isExcluded R name c.excludeList.elems).toOption == some false

/-- The upstream ports the destination gets from this connection, where step 5 goes from `w₀` to
    `w₁` for it. -/
def newPorts (w₀ w₁ : World) : List PortRef :=
  (List.range' (w₀.upstreamCount c.dstObj)
    (w₁.upstreamCount c.dstObj - w₀.upstreamCount c.dstObj)).map fun i => ⟨c.dstObj, i⟩

/-- They are one for each chosen instance, paired in the final world with a downstream port of
    it. -/
def Linked (R : RegexEngine) (w₀ w₁ w' : World) : Prop :=
  ∃ us, us.Perm (c.newPorts w₀ w₁) ∧
    List.Forall₂ (fun name u => ∃ s, b.objectInstances.lookup name = some s.obj ∧ (s, u) ∈ w'.pairs)
      (c.chosen R) us

/-- **PATTERN CONNECTIONS.** For every configuration, every regular expression engine and every
    connection from a pattern to the name of an instance, and whatever pairs the connection step
    leaves in the final world `w'`: the connection gets its links if and only if the pattern
    selects no instance. -/
theorem linked_iff_chosen {P : Platform} {fuel : Nat} {w w₀ w₁ : World}
    (hmods : prepareModules P (instantiateAll P fuel) final w = .ok b)
    (h₀ : createPortsOf b c.before = .ok w₀) (h₁ : createPortsOf b (c.before ++ [c.conn]) = .ok w₁)
    (w' : World) : c.Linked P.regex w₀ w₁ w' ↔ c.chosen P.regex = [] := by
  obtain ⟨n, hnum, -⟩ := prepareModules_numbers hmods
  obtain ⟨infos, hinfos, rfl⟩ := createPortsOf_concat h₀ h₁
  have hnone : c.newPorts w₀ (infos.foldl (createPort b.objectInstances) w₀) = [] := by
    unfold newPorts
    rw [upstreamCount_portCreations hnum c.dst_eq c.dst_instance hinfos, Nat.sub_self]
    rfl
  unfold Linked
  rw [hnone]
  constructor
  · intro ⟨us, hus, hall⟩
    rw [List.perm_nil.mp hus] at hall
    exact List.forall₂_nil_right_iff.mp hall
  · intro h
    rw [h]
    exact ⟨[], List.Perm.refl [], List.Forall₂.nil⟩

end PatternConnection

/-! ## 4. Two CPUs and one cache -/

/-- `cpu*` to `l1`. -/
def cpusToL1 : Json :=
  .obj [("dst", .str "l1"), ("latency", .num 2), ("src", .str "cpu*")]

def wildcardConfig : Json :=
  .obj [("connections", .arr [cpusToL1]),
        ("modules", .arr [.obj [("name", .str "cpu0"), ("type", .str "Source")],
                          .obj [("name", .str "cpu1"), ("type", .str "Source")],
                          .obj [("name", .str "l1"), ("type", .str "Sink")]])]

def wildcardPlatform : Platform := Platform.ofFiles [("wildcard.json", wildcardConfig)]

/-- The state before the ports. -/
def wildcardStart : Build :=
  match prepareModules wildcardPlatform (instantiateAll wildcardPlatform 0) wildcardConfig
      linkWorld with
  | .ok b => b
  | .error _ => { world := linkWorld }

theorem prepareModules_wildcard :
    prepareModules wildcardPlatform (instantiateAll wildcardPlatform 0) wildcardConfig linkWorld =
      .ok wildcardStart := by
  rfl

def cpusToL1Connection : PatternConnection wildcardConfig wildcardStart where
  before := []
  conn := cpusToL1
  after := []
  connections := by rfl
  src := "cpu*"
  src_eq := by decide
  src_pattern := by decide
  dst := "l1"
  dst_eq := by decide
  dstObj := 2
  dst_instance := by decide
  excludeList := .arr []
  exclude_eq := by rfl

theorem cpusToL1_linked_iff :
    cpusToL1Connection.Linked plainRegex wildcardStart.world wildcardStart.world
      wildcardStart.world ↔ cpusToL1Connection.chosen plainRegex = [] :=
  cpusToL1Connection.linked_iff_chosen prepareModules_wildcard rfl rfl wildcardStart.world

/-- `cpu*` selects both CPUs, and `l1` gets no upstream port and no pair. -/
theorem cpusToL1_not_linked :
    prepareModules wildcardPlatform (instantiateAll wildcardPlatform 0) wildcardConfig linkWorld =
      .ok wildcardStart ∧
    cpusToL1Connection.chosen plainRegex = ["cpu1", "cpu0"] ∧
    createPortsOf wildcardStart [cpusToL1] = .ok wildcardStart.world ∧
    ∃ w', instantiateAll wildcardPlatform 1 0 (.str "wildcard.json") linkWorld = .ok w' ∧
      w'.upstreamCount 2 = 0 ∧ w'.pairs = [] ∧
      ¬ cpusToL1Connection.Linked plainRegex wildcardStart.world wildcardStart.world w' := by
  have hchosen : cpusToL1Connection.chosen plainRegex = ["cpu1", "cpu0"] := by decide
  have hpairs : (instantiateAll wildcardPlatform 1 0 (.str "wildcard.json") linkWorld).toOption.map
      (fun w => (w.upstreamCount 2, w.pairs)) = some (0, []) := by decide
  refine ⟨prepareModules_wildcard, hchosen, rfl, ?_⟩
  cases hw : instantiateAll wildcardPlatform 1 0 (.str "wildcard.json") linkWorld with
  | error e =>
      rw [hw] at hpairs
      cases hpairs
  | ok w' =>
      rw [hw] at hpairs
      obtain ⟨hcount, hp⟩ := Prod.mk.inj (Option.some.inj hpairs)
      refine ⟨w', rfl, hcount, hp, ?_⟩
      rintro ⟨us, -, hall⟩
      rw [hchosen] at hall
      cases hall with
      | cons h _ =>
          obtain ⟨s, -, hs⟩ := h
          rw [hp] at hs
          exact absurd hs List.not_mem_nil

end Gem5Sc
