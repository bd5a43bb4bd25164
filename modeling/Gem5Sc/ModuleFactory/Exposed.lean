/-
  File:      Gem5Sc/ModuleFactory/Exposed.lean
  Subject:   WHERE AN EXPOSED PORT LEADS: an end `M.L` of an outer connection, with `M` a SimModule.

  What is meant: `L` is looked up among the outputs of `M` for a source and among its inputs for a
  destination, and its path `o.p` leads to the instance `o` of `M`'s own factory (`Resolves`).
  What the code does: `findInternalPath` searches the outputs and then the inputs for either
  direction, and `o` is looked up in the map of the outer call, when the port is created and again
  when it is bound. No inner object is in that map (`prepareModules_numbers`).
-/
import Gem5Sc.ModuleFactory.Connect
import Gem5Sc.ModuleFactory.Objects

namespace Gem5Sc

/-- What `label` is declared as for one direction: an input for a destination, an output for a
    source. -/
def SimModule.declared (s : SimModule) (isUpstream : Bool) (label : String) :
    Option ExposedPortConfig :=
  (if isUpstream then s.inputConfigs else s.outputConfigs).find? fun c => c.externalLabel = label

/-- Owner and label of the port a creation adds, if it adds one. -/
def Build.createdPort (b : Build) (info : PortCreationInfo) : Option (ObjId × String) :=
  match b.objectInstances.lookup info.ownerName with
  | none => none
  | some o => if b.world.hasPortManager o then some (o, info.portName) else none

theorem Build.createdPort_eq_none {b : Build} {info : PortCreationInfo} :
    b.createdPort info = none ↔
      ∀ o, b.objectInstances.lookup info.ownerName = some o → b.world.hasPortManager o = false := by
  unfold Build.createdPort
  cases b.objectInstances.lookup info.ownerName with
  | none => exact ⟨fun _ o h => (nomatch h), fun _ => rfl⟩
  | some o => simp

/-- The owner is in the outer map. -/
theorem Build.lookup_of_createdPort {b : Build} {info : PortCreationInfo} {x : ObjId × String}
    (h : b.createdPort info = some x) : b.objectInstances.lookup info.ownerName = some x.1 := by
  unfold Build.createdPort at h
  split at h
  · cases h
  · next o ho =>
      split at h
      · cases h
        exact ho
      · cases h

/-- The search by label of one direction. -/
def PortManager.getPort (isUpstream : Bool) : PortManager → String → Option Nat :=
  if isUpstream then PortManager.getUpstreamPort else PortManager.getDownstreamPort

/-- The port of an object with a label. -/
def World.portAt (w : World) (isUpstream : Bool) (o : ObjId) (label : String) : Option PortRef := do
  let s ← w.objects[o]?
  let pm ← s.ports
  let i ← PortManager.getPort isUpstream pm label
  return ⟨o, i⟩

/-- The port the connection step finds for the full name of an end. -/
def Build.endPort (b : Build) (isUpstream : Bool) : String → Except ConfigError (Option PortRef) :=
  findPort b (b.world.portOf b.objectInstances (PortManager.getPort isUpstream))

/-- These are the two ends that `connect` looks up. -/
theorem endPort_eq (b : Build) (isUpstream : Bool) :
    b.endPort isUpstream = if isUpstream then b.dstPort else b.srcPort := by
  cases isUpstream <;> rfl

/-- An end `M.L` of a connection, with `M` a SimModule, in the state before the ports. -/
structure ExposedEnd (b : Build) where
  spec : String
  isUpstream : Bool
  moduleName : String
  label : String
  ptr : ObjId
  simModule : SimModule
  spec_eq : parsePortSpec spec = (moduleName, label)
  label_ne : label ≠ ""
  moduleInstance : b.moduleInstances.lookup moduleName = some (some ptr)
  simModule_eq : b.world.simModuleOf ptr = some simModule

namespace ExposedEnd

variable {b : Build} (e : ExposedEnd b)

/-- The path the label is searched for with, whatever the direction. -/
def path : String := e.simModule.findInternalPath e.label

/-- The label leads to the port of the inner instance. `w` is the world before the call, `infos`
    are the creations for the end, and `found` is what the connection step finds for it in the
    state `b₁`. Where the label is not declared for the direction, there is no port. -/
def Resolves (w : World) (infos : List PortCreationInfo) (b₁ : Build) (found : Option PortRef) :
    Prop :=
  match e.simModule.declared e.isUpstream e.label with
  | none => infos.filterMap b.createdPort = [] ∧ found = none
  | some c =>
      ∃ r ∈ b.world.built.drop w.built.length, r.factory = e.simModule.internalFactory ∧
        ∃ o, r.objects.lookup (parsePortSpec c.internalPath).1 = some o ∧
          infos.filterMap b.createdPort = [(o, (parsePortSpec c.internalPath).2)] ∧
          found = b₁.world.portAt e.isUpstream o (parsePortSpec c.internalPath).2

/-- The label is declared for the other direction at most, and its path leads to no object of the
    outer map that has ports. -/
def Undeclared : Prop :=
  e.simModule.declared e.isUpstream e.label = none ∧
  (e.path = "" ∨ ∀ o, b.objectInstances.lookup (parsePortSpec e.path).1 = some o →
    b.world.hasPortManager o = false)

/-! ## 1. What is created -/

theorem findInternalPath_eq : findInternalPath b.world (some e.ptr) e.label = .ok e.path := by
  unfold Gem5Sc.findInternalPath
  rw [Option.bind_some, e.simModule_eq]
  rfl

/-- The creations for the end: none, or one for the path, with its owner in the outer map. -/
theorem endpointPort_eq {conn : Json} {key : String} {infos : List PortCreationInfo}
    (h : endpointPort b conn e.spec key e.isUpstream = .ok infos) :
    e.path = "" ∧ infos = [] ∨ e.path ≠ "" ∧ ∃ info, infos = [info] ∧
      info.ownerName = (parsePortSpec e.path).1 ∧ info.portName = (parsePortSpec e.path).2 := by
  unfold endpointPort at h
  simp only [e.spec_eq, if_neg e.label_ne, e.moduleInstance, e.findInternalPath_eq] at h
  obtain ⟨path, hp, h⟩ := Library.bind_eq_ok.mp h
  cases hp
  split at h
  · next hpath =>
      cases h
      exact Or.inl ⟨hpath, rfl⟩
  · next hpath =>
      obtain ⟨sizes, _, h⟩ := Library.bind_eq_ok.mp h
      obtain ⟨priorities, _, h⟩ := Library.bind_eq_ok.mp h
      cases h
      exact Or.inr ⟨hpath, _, rfl, rfl, rfl⟩

/-- A port is created exactly when the path leads to an outer object with ports. -/
theorem created_eq_nil_iff {conn : Json} {key : String} {infos : List PortCreationInfo}
    (h : endpointPort b conn e.spec key e.isUpstream = .ok infos) :
    infos.filterMap b.createdPort = [] ↔
      (e.path = "" ∨ ∀ o, b.objectInstances.lookup (parsePortSpec e.path).1 = some o →
        b.world.hasPortManager o = false) := by
  rcases e.endpointPort_eq h with ⟨hp, rfl⟩ | ⟨hp, info, rfl, hown, -⟩
  · exact iff_of_true rfl (Or.inl hp)
  · rw [or_iff_right hp, ← hown, ← Build.createdPort_eq_none, List.filterMap_eq_nil_iff]
    exact List.forall_mem_singleton

/-! ## 2. What is found -/

/-- Where nothing is created, nothing is found. -/
theorem endPort_eq_none {P : Platform} {final : Json} {b' b₁ : Build}
    (hports : createPorts final b = .ok b') {pre : List Json}
    (hpre : pre.foldlM (connect P) b' = .ok b₁)
    (h : e.path = "" ∨ ∀ o, b.objectInstances.lookup (parsePortSpec e.path).1 = some o →
      b.world.hasPortManager o = false) : b₁.endPort e.isUpstream e.spec = .ok none := by
  have hl := sameLookups_foldlM hpre
  obtain ⟨hobj, hmod, hman, hsim⟩ := createPorts_keeps hports
  have hend : b₁.endPort e.isUpstream = b'.endPort e.isUpstream := by
    cases e.isUpstream with
    | true => exact dstPort_eq hl
    | false => exact srcPort_eq hl
  have hpath : findInternalPath b'.world (some e.ptr) e.label = .ok e.path := by
    rw [← e.findInternalPath_eq]
    unfold findInternalPath
    rw [Option.bind_some, Option.bind_some, hsim]
  rw [hend]
  unfold Build.endPort findPort
  simp only [e.spec_eq, if_neg e.label_ne, hmod, e.moduleInstance, hpath]
  show (if e.path = "" then Except.ok none else _) = _
  rcases h with hp | hp
  · exact if_pos hp
  · split
    · rfl
    · refine congrArg Except.ok (portOf_eq_none _ fun o ho => ?_)
      rw [hman]
      exact hp o (hobj ▸ ho)

/-! ## 3. The exact condition -/

/-- **EXPOSED PORTS.** For every configuration whose modules could be instantiated, every end
    `M.L` of one of its connections, and the connection step at any point: the label leads to the
    port of `M`'s own instance if and only if it is not declared for the end's direction at all,
    and its path leads to no outer object with ports either. -/
theorem resolves_iff {P : Platform} {fuel : Nat} {final : Json} {w : World} {b' b₁ : Build}
    (hmods : prepareModules P (instantiateAll P fuel) final w = .ok b)
    (hports : createPorts final b = .ok b') {conn : Json} {key : String}
    {infos : List PortCreationInfo}
    (hinfos : endpointPort b conn e.spec key e.isUpstream = .ok infos) (pre : List Json)
    (hpre : pre.foldlM (connect P) b' = .ok b₁) {found : Option PortRef}
    (hfound : b₁.endPort e.isUpstream e.spec = .ok found) :
    e.Resolves w infos b₁ found ↔ e.Undeclared := by
  unfold Resolves Undeclared
  cases hd : e.simModule.declared e.isUpstream e.label with
  | none =>
      simp only [true_and]
      rw [e.created_eq_nil_iff hinfos]
      refine ⟨And.left, fun h => ⟨h, ?_⟩⟩
      rw [e.endPort_eq_none hports hpre h] at hfound
      exact (Except.ok.inj hfound).symm
  | some c =>
      simp only [reduceCtorEq, false_and, iff_false]
      rintro ⟨r, hr, -, o, ho, hcreated, -⟩
      obtain ⟨n, hnum, hlater⟩ := prepareModules_numbers hmods
      have hinner : n ≤ o := hlater r hr _ o ho
      -- the port is created on an object of the outer map
      have houter : ∃ info ∈ infos,
          b.createdPort info = some (o, (parsePortSpec c.internalPath).2) :=
        List.mem_filterMap.mp (hcreated ▸ List.mem_singleton_self _)
      obtain ⟨info, -, hinfo⟩ := houter
      have ho' := hnum.between _ o (Build.lookup_of_createdPort hinfo)
      exact absurd ho'.2 (Nat.not_lt.mpr hinner)

end ExposedEnd

/-! ## 4. An exposed output -/

/-- The internal configuration of `M`: its cache, whose port `out` is exposed as `req`. -/
def innerConfig : Json :=
  .obj [("connections", .arr []),
        ("modules", .arr [.obj [("name", .str "cache"), ("type", .str "Source")]]),
        ("outputs", .arr [.obj [("external", .str "req"), ("internal", .str "cache.out")]])]

/-- `M.req` to `mem.in`, next to another instance called `cache`. The second connection is the
    one that binds: it names the same ends through groups. -/
def outerConfig : Json :=
  .obj [("connections", .arr [
          .obj [("dst", .str "mem.in"), ("src", .str "M.req")],
          .obj [("dst", .str "group:mems"), ("src", .str "group:reqs")]]),
        ("groups", .obj [("mems", .arr [.str "mem.in"]), ("reqs", .arr [.str "M.req"])]),
        ("modules", .arr [
          .obj [("config", .str "inner.json"), ("name", .str "M"), ("type", .str "Hierarchy")],
          .obj [("name", .str "cache"), ("type", .str "Source")],
          .obj [("name", .str "mem"), ("type", .str "Sink")]])]

/-- The configurations are given as loaded objects. -/
def hierPlatform : Platform :=
  { Platform.ofFiles [("inner.json", innerConfig)] with includeStep := Except.ok }

def hierWorld : World :=
  { linkWorld with
    registries := { linkWorld.registries with modules := [("Hierarchy", {})] } }

/-- The state before the ports. -/
def hierStart : Build :=
  match prepareModules hierPlatform (instantiateAll hierPlatform 1) outerConfig hierWorld with
  | .ok b => b
  | .error _ => { world := hierWorld }

/-- The state before the connections. -/
def hierPorts : Build :=
  match createPorts outerConfig hierStart with
  | .ok b => b
  | .error _ => { world := hierWorld }

/-- The source `M.req`. -/
def reqEnd : ExposedEnd hierStart where
  spec := "M.req"
  isUpstream := false
  moduleName := "M"
  label := "req"
  ptr := 0
  simModule :=
    { internalFactory := 1
      outputConfigs := [⟨"cache.out", "req"⟩]
      internalToExternalMap := [("req", "cache.out")] }
  spec_eq := by decide
  label_ne := by decide
  moduleInstance := by decide
  simModule_eq := by rfl

/-- The creation for it. -/
def reqInfos : List PortCreationInfo :=
  [{ ownerName := "cache", portName := "out", bufferSizes := [4], priorities := [],
     isUpstream := false }]

theorem prepareModules_hier :
    prepareModules hierPlatform (instantiateAll hierPlatform 1) outerConfig hierWorld =
      .ok hierStart := by
  rfl

theorem createPorts_hier : createPorts outerConfig hierStart = .ok hierPorts := by
  rfl

theorem endpointPort_req :
    endpointPort hierStart (.obj [("dst", .str "mem.in"), ("src", .str "M.req")]) reqEnd.spec
      "output_buffer_sizes" reqEnd.isUpstream = .ok reqInfos := by
  rfl

theorem endPort_req : hierPorts.endPort reqEnd.isUpstream reqEnd.spec = .ok (some ⟨1, 0⟩) := by
  rfl

theorem reqEnd_resolves_iff :
    reqEnd.Resolves hierWorld reqInfos hierPorts (some ⟨1, 0⟩) ↔ reqEnd.Undeclared :=
  reqEnd.resolves_iff prepareModules_hier createPorts_hier endpointPort_req [] rfl
    endPort_req

/-- The port `out` is created on the outer `cache` (object 1), and `M`'s own `cache` (object 3) has
    none. The second connection binds the outer one. -/
theorem reqEnd_not_resolved :
    prepareModules hierPlatform (instantiateAll hierPlatform 1) outerConfig hierWorld =
      .ok hierStart ∧
    (hierStart.world.built.drop hierWorld.built.length).map (fun r => (r.factory, r.objects)) =
      [(1, [("cache", 3)])] ∧
    reqInfos.filterMap hierStart.createdPort = [(1, "out")] ∧
    (instantiateAll hierPlatform 2 0 outerConfig hierWorld).toOption.map World.pairs =
      some [(⟨1, 0⟩, ⟨2, 0⟩)] ∧
    ¬ reqEnd.Resolves hierWorld reqInfos hierPorts (some ⟨1, 0⟩) := by
  have hcreated : reqInfos.filterMap hierStart.createdPort = [(1, "out")] := by decide
  have hbuilt : (hierStart.world.built.drop hierWorld.built.length).map
      (fun r => (r.factory, r.objects)) = [(1, [("cache", 3)])] := by decide
  refine ⟨prepareModules_hier, hbuilt, hcreated, by decide, ?_⟩
  rintro ⟨r, hr, -, o, ho, hc, -⟩
  have hmem := List.mem_map_of_mem (f := fun r : Built => (r.factory, r.objects)) hr
  rw [hbuilt, List.mem_singleton, Prod.mk.injEq] at hmem
  rw [hmem.2] at ho
  have ho3 : o = 3 := (Option.some.inj ho).symm
  rw [hcreated, ho3] at hc
  exact absurd hc (by decide)

end Gem5Sc
