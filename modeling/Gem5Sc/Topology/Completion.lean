/-
  File:      Gem5Sc/Topology/Completion.lean
  Subject:   WHEN THE DUMP COMPLETES: with the instances, the groups and the configuration as they
             happen to be.

  The dump calls a member function of `getInstance(member)` for every member of every group of the
  process, without a look at the pointer. It is null for a pattern, for a misspelt name and for a
  module of another factory; and since no code fills the member `instances`, for every member of
  every group (`membersPresent_reachable`). Besides, two accesses to the configuration throw when
  they find a value of another type. Nothing else fails: every node has a position
  (`hasPosition_computeLayout`) and every edge starts at an instance.

  `dump_iff`: the dump completes, with an edge for each linked pair, exactly when all members are
  there, the configuration can be read and the keys of the pairs differ.
-/
import Gem5Sc.ModuleFactory.Instances
import Gem5Sc.Topology.Coordinates
import Gem5Sc.Topology.Edges

namespace Gem5Sc.TopologyDumper

variable {F : Type} [Add F] [Sub F] [Mul F] [Div F] [Double F]
  {H : HashOrder} {w : World} {wires : Wiring AnyPort} {layout : ObjId → F × F} {f : FactoryId}
  {config : Json} {style : String}

/-! ## 1. What the dump needs -/

/-- A member of the configuration that may be missing, but is a string if it is there. -/
def StringOrMissing (v : Option Json) : Prop := ∀ j, v = some j → ∃ s, j = .str s

/-- `config["groups"][groupName]["placement"]`. -/
def placementOf (config : Json) (groupName : String) : Option Json :=
  ((config.field? "groups").bind fun groups => groups.field? groupName).bind fun it =>
    it.field? "placement"

/-- The configuration is an object, and what the dump reads of it are strings. -/
structure Readable (w : World) (config : Json) : Prop where
  object : ∃ kvs, config = .obj kvs
  style : StringOrMissing (config.field? "layout.style")
  placements : ∀ g ∈ w.getAllGroupNames, StringOrMissing (placementOf config g)

/-- Every member of every group is an instance of the factory. -/
def MembersPresent (w : World) (f : FactoryId) : Prop :=
  ∀ g ∈ w.getAllGroupNames, ∀ m ∈ w.getMembers g, (w.getInstance f m).isSome = true

/-- Of the factories a program builds none has instances, so no group may have a member. -/
theorem membersPresent_reachable {P : Platform} (hw : w.Reachable P) :
    MembersPresent w f ↔ ∀ g ∈ w.getAllGroupNames, w.getMembers g = [] := by
  have hnone : ∀ m, w.getInstance f m = none := by
    intro m
    unfold World.getInstance
    rw [World.instances_eq_nil hw.noInstances]
    rfl
  refine forall₂_congr fun g _ => ⟨fun h => ?_, fun h m hm => ?_⟩
  · refine List.eq_nil_iff_forall_not_mem.mpr fun m hm => ?_
    have hsome := h m hm
    rw [hnone] at hsome
    exact Bool.false_ne_true hsome
  · rw [h] at hm
    exact absurd hm List.not_mem_nil

/-! ## 2. The accesses -/

theorem callInstance_ok_iff {name : String} :
    (∃ o, callInstance w f name = .ok o) ↔ (w.getInstance f name).isSome = true := by
  unfold callInstance
  cases w.getInstance f name with
  | none => exact iff_of_false (fun ⟨o, ho⟩ => nomatch ho) Bool.false_ne_true
  | some o => exact iff_of_true ⟨o, rfl⟩ rfl

theorem asString_ok_iff {v : Option Json} {d : String} :
    (∃ s, (v.getD (.str d)).asString = .ok s) ↔ StringOrMissing v := by
  cases v with
  | none => exact iff_of_true ⟨d, rfl⟩ fun j hj => nomatch hj
  | some j =>
      refine ⟨fun ⟨s, hs⟩ j' hj' => ?_, fun h => ?_⟩
      · cases hj'
        cases j with
        | str s' => exact ⟨s', rfl⟩
        | _ => cases hs
      · obtain ⟨s, rfl⟩ := h j rfl
        exact ⟨s, rfl⟩

theorem mapError_ok_iff {ε ε' α : Type} {x : Except ε α} {g : ε → ε'} {a : α} :
    x.mapError g = .ok a ↔ x = .ok a := by
  cases x with
  | error e => exact iff_of_false (fun h => nomatch h) fun h => nomatch h
  | ok b => exact ⟨fun h => by cases h; rfl, fun h => by cases h; rfl⟩

theorem style_ok_iff : (∃ style, config.valueString "layout.style" "auto" = .ok style) ↔
    (∃ kvs, config = .obj kvs) ∧ StringOrMissing (config.field? "layout.style") := by
  cases config with
  | obj kvs => exact asString_ok_iff.trans ⟨fun h => ⟨⟨kvs, rfl⟩, h⟩, fun h => h.2⟩
  | _ => exact iff_of_false (fun ⟨_, h⟩ => nomatch h) fun ⟨⟨_, h⟩, _⟩ => nomatch h

theorem placement_ok_iff {groupName d : String} :
    (∃ p, getGroupPlacement config groupName d = .ok p) ↔
      StringOrMissing (placementOf config groupName) := by
  have heq : getGroupPlacement config groupName d =
      ((placementOf config groupName).getD (.str d)).asString := by
    unfold getGroupPlacement placementOf
    cases config.field? "groups" with
    | none => rfl
    | some groups =>
        dsimp only [Option.bind_some]
        cases (groups.field? groupName).bind fun it => it.field? "placement" <;> rfl
  rw [heq]
  exact asString_ok_iff

/-! ## 3. The layout -/

omit [Add F] [Sub F] [Mul F] [Div F] in
theorem registerMember_ok_iff {groupName : String} (s : ForceDirectedLayout F) (member : String) :
    (∃ s', registerMember w f layout groupName s member = .ok s') ↔
      (w.getInstance f member).isSome = true := by
  refine Iff.trans ⟨fun ⟨s', h⟩ => ?_, fun ⟨o, ho⟩ => ?_⟩ callInstance_ok_iff
  · obtain ⟨o, ho, -⟩ := Library.bind_eq_ok.mp h
    exact ⟨o, ho⟩
  · unfold registerMember
    rw [ho]
    exact ⟨_, rfl⟩

theorem placeGroup_ok_iff (s : ForceDirectedLayout F) (g : String) :
    (∃ s', placeGroup w f layout config s g = .ok s') ↔
      StringOrMissing (placementOf config g) ∧
        ∀ m ∈ w.getMembers g, (w.getInstance f m).isSome = true := by
  have hmembers : ∀ s, (∃ s', (w.getMembers g).foldlM (registerMember w f layout g) s = .ok s') ↔
      ∀ m ∈ w.getMembers g, (w.getInstance f m).isSome = true := fun s =>
    Library.foldlM_succeeds_iff (fun m _ s => registerMember_ok_iff s m) s
  refine ⟨fun ⟨s', h⟩ => ?_, fun ⟨hp, hm⟩ => ?_⟩
  · obtain ⟨p, hp, h⟩ := Library.bind_eq_ok.mp h
    exact ⟨placement_ok_iff.mp ⟨p, mapError_ok_iff.mp hp⟩, (hmembers _).mp ⟨s', h⟩⟩
  · obtain ⟨p, hp⟩ := placement_ok_iff.mpr hp
    unfold placeGroup
    rw [hp]
    exact (hmembers _).mpr hm

/-- What `getAllInstances` has, `getInstance` finds. -/
theorem callInstance_ok {node : String} (hnode : node ∈ (w.getAllInstances f).map Prod.fst) :
    ∃ o, callInstance w f node = .ok o := by
  refine callInstance_ok_iff.mpr ?_
  obtain ⟨e, he, rfl⟩ := List.mem_map.mp hnode
  cases hl : w.getInstance f e.1 with
  | some o => rfl
  | none =>
      have hne := List.lookup_eq_none_iff.mp hl e he
      simp at hne

theorem computeLayout_ok_iff (H : HashOrder) (layout : ObjId → F × F) (style : String) :
    (∃ s, computeLayout H w layout f config style = .ok s) ↔
      (∀ g ∈ w.getAllGroupNames, StringOrMissing (placementOf config g)) ∧ MembersPresent w f := by
  have hadd : ∃ s, ((w.getAllInstances f).map Prod.fst).foldlM (addInstance w f layout) .new =
      .ok s := by
    refine Library.foldlM_succeeds (fun node hnode s => ?_) _
    obtain ⟨o, ho⟩ := callInstance_ok hnode
    unfold addInstance
    rw [ho]
    exact ⟨_, rfl⟩
  have hgroups : ∀ s : ForceDirectedLayout F,
      (∃ s', w.getAllGroupNames.foldlM (placeGroup w f layout config) s = .ok s') ↔
        (∀ g ∈ w.getAllGroupNames, StringOrMissing (placementOf config g)) ∧
          MembersPresent w f := fun s =>
    (Library.foldlM_succeeds_iff (fun g _ s => placeGroup_ok_iff s g) s).trans
      forall₂_and
  obtain ⟨s₁, h1⟩ := hadd
  refine ⟨fun ⟨s, h⟩ => ?_, fun h => ?_⟩
  · obtain ⟨s₁', h1', h⟩ := Library.bind_eq_ok.mp h
    obtain ⟨s₂, h2, -⟩ := Library.bind_eq_ok.mp h
    exact (hgroups _).mp ⟨s₂, h2⟩
  · obtain ⟨s₂, h2⟩ := (hgroups (if style = "auto" then
      s₁.setInitialPlacement (fun _ => (0, 0)) "grid" width height else s₁)).mpr h
    exact ⟨_, Library.bind_eq_ok.mpr ⟨s₁, h1, Library.bind_eq_ok.mpr ⟨s₂, h2, rfl⟩⟩⟩

/-- **Every node has a position**: `positions.at` does not fail. -/
theorem hasPosition_computeLayout {s : ForceDirectedLayout F} {node : String}
    (hnode : node ∈ (w.getAllInstances f).map Prod.fst)
    (h : computeLayout H w layout f config style = .ok s) :
    (s.positions node).isSome = true := by
  refine computeLayout_framed (ForceDirectedLayout.framed_hasPosition node) (fun s hadd => ?_) h
  refine Library.foldlM_established (I := fun s => (s.positions node).isSome = true) hnode
    (fun s s' hadd => ?_) (fun s n _ s' hs hadd => ?_) hadd
  · obtain ⟨o, -, hadd⟩ := Library.bind_eq_ok.mp hadd
    cases hadd
    exact ForceDirectedLayout.hasPosition_addNode s _ _ (Or.inl rfl)
  · obtain ⟨o, -, hadd⟩ := Library.bind_eq_ok.mp hadd
    cases hadd
    exact ForceDirectedLayout.hasPosition_addNode s _ _ (Or.inr hs)

/-! ## 4. The theorem -/

omit [Add F] [Sub F] [Mul F] [Div F] in
theorem nodeStatement_ok (layout : ObjId → F × F) (style : String) {s : ForceDirectedLayout F}
    {node : String} (hnode : node ∈ (w.getAllInstances f).map Prod.fst)
    (hs : (s.positions node).isSome = true) :
    ∃ x, nodeStatement w f layout style s node = .ok x := by
  obtain ⟨p, hp⟩ := Option.isSome_iff_exists.mp hs
  obtain ⟨o, ho⟩ := callInstance_ok hnode
  unfold nodeStatement
  rw [hp, ho]
  dsimp only
  split <;> exact ⟨_, rfl⟩

/-- **The dump completes** exactly when the configuration can be read and all members are there. -/
theorem dumpToDot_ok_iff (H : HashOrder) (wires : Wiring AnyPort) (layout : ObjId → F × F) :
    (∃ out : List (DotStatement F), dumpToDot H w wires layout f config true = .ok out) ↔
      Readable w config ∧ MembersPresent w f := by
  refine ⟨fun ⟨out, h⟩ => ?_, fun ⟨hread, hm⟩ => ?_⟩
  · obtain ⟨style, hstyle, h⟩ := Library.bind_eq_ok.mp h
    obtain ⟨s, hs, -⟩ := Library.bind_eq_ok.mp h
    obtain ⟨hobj, hstyle⟩ := style_ok_iff.mp ⟨style, mapError_ok_iff.mp hstyle⟩
    obtain ⟨hplace, hm⟩ := (computeLayout_ok_iff H layout style).mp ⟨s, hs⟩
    exact ⟨⟨hobj, hstyle, hplace⟩, hm⟩
  · obtain ⟨style, hstyle⟩ := style_ok_iff.mpr ⟨hread.object, hread.style⟩
    obtain ⟨s, hs⟩ := (computeLayout_ok_iff H layout style).mpr ⟨hread.placements, hm⟩
    obtain ⟨nodes, hnodes⟩ := Library.mapM_succeeds fun node hnode =>
      nodeStatement_ok layout style hnode (hasPosition_computeLayout hnode hs)
    obtain ⟨edges, hedges⟩ := Library.mapM_succeeds (f := edgeStatement (F := F) w wires f)
      (l := allEdges w wires f) fun e he => by
        obtain ⟨o, ho⟩ := callInstance_ok (isSome_of_mem_allEdges he)
        unfold edgeStatement
        rw [ho]
        exact ⟨_, rfl⟩
    exact ⟨_, Library.bind_eq_ok.mpr ⟨style, mapError_ok_iff.mpr hstyle, Library.bind_eq_ok.mpr
      ⟨s, hs, Library.bind_eq_ok.mpr ⟨nodes, hnodes, Library.bind_eq_ok.mpr
        ⟨edges, hedges, rfl⟩⟩⟩⟩⟩

omit [Add F] [Sub F] [Mul F] [Div F] [Double F] in
/-- Each edge has its statement. -/
theorem countP_edges (e : String × String) {es : List (String × String)}
    {edges : List (DotStatement F)} (h : es.mapM (edgeStatement w wires f) = .ok edges) :
    edges.countP (DotStatement.isEdge e) = es.count e := by
  induction es generalizing edges with
  | nil =>
      cases h
      rfl
  | cons x es ih =>
      rw [List.mapM_cons] at h
      obtain ⟨y, hy, h⟩ := Library.bind_eq_ok.mp h
      obtain ⟨ys, hys, h⟩ := Library.bind_eq_ok.mp h
      cases h
      obtain ⟨delay, rfl⟩ := edge_of_edgeStatement hy
      rw [List.countP_cons, List.count_cons, ih hys]
      rfl

/-- The edges of a dump are those the loop has collected. -/
theorem countP_dumpToDot {out : List (DotStatement F)}
    (h : dumpToDot H w wires layout f config true = .ok out) (e : String × String) :
    out.countP (DotStatement.isEdge e) = (allEdges w wires f).count e := by
  obtain ⟨style, s, nodes, edges, -, hnodes, hedges, rfl⟩ := dumpToDot_ok h rfl
  have hzero : nodes.countP (DotStatement.isEdge e) = 0 := by
    refine List.countP_eq_zero.mpr fun x hx => ?_
    obtain ⟨node, -, hst⟩ := Library.mem_of_mapM_ok hnodes hx
    obtain ⟨type, pos, pinned, rfl⟩ := node_of_nodeStatement hst
    exact Bool.false_ne_true
  have hclusters : (w.getAllGroupNames.map fun g =>
      (.cluster g (w.getMembers g) : DotStatement F)).countP (DotStatement.isEdge e) = 0 := by
    refine List.countP_eq_zero.mpr fun x hx => ?_
    obtain ⟨g, -, rfl⟩ := List.mem_map.mp hx
    exact Bool.false_ne_true
  rw [List.countP_append, List.countP_append, hzero, hclusters, countP_edges e hedges]
  omega

/-- **THE DUMP.** For every world, whatever its groups and links, every factory, configuration and
    arithmetic: the dump completes, with one edge for each linked pair of instances, if and only if
    the configuration can be read, every member of every group is an instance of the factory and
    different linked pairs have different keys; or, if the file does not open, there is no linked
    pair. -/
theorem dump_iff (H : HashOrder) (w : World) (wires : Wiring AnyPort) (layout : ObjId → F × F)
    (f : FactoryId) (config : Json) (opens : Bool) :
    (∃ out, dumpToDot H w wires layout f config opens = .ok out ∧
      ∀ e, Linked w wires f e → out.countP (DotStatement.isEdge e) = 1) ↔
    if opens then Readable w config ∧ MembersPresent w f ∧ Separate w wires f
    else ∀ e, ¬ Linked w wires f e := by
  cases opens with
  | false =>
      refine ⟨fun ⟨out, h, hedges⟩ e he => ?_, fun h => ⟨[], rfl, fun e he => absurd he (h e)⟩⟩
      cases h
      have h0 := hedges e he
      cases h0
  | true =>
      refine ⟨fun ⟨out, h, hedges⟩ => ?_, fun ⟨hread, hm, hsep⟩ => ?_⟩
      · obtain ⟨hread, hm⟩ := (dumpToDot_ok_iff H wires layout).mp ⟨out, h⟩
        refine ⟨hread, hm, edges_iff_separate.mp fun e he => ?_⟩
        rw [← countP_dumpToDot h e]
        exact hedges e he
      · obtain ⟨out, h⟩ := (dumpToDot_ok_iff H wires layout).mpr ⟨hread, hm⟩
        refine ⟨out, h, fun e he => ?_⟩
        rw [countP_dumpToDot h e]
        exact edges_iff_separate.mpr hsep e he

/-- A group with one member, which is a module of the configuration. -/
def oneGroup : Json :=
  .obj [("connections", .arr []), ("groups", .obj [("cpus", .arr [.str "inst0"])]),
        ("modules", .arr [.obj [("name", .str "inst0"), ("type", .str "TestModuleA")]])]

/-- The world after `oneGroup`. -/
def oneGroupBuilt : World :=
  { testWorld with
    objects := [{ name := "inst0", type := "TestModuleA" }]
    groups := [("cpus", ["inst0"])]
    built := [{ factory := 0, config := oneGroup, objects := [("inst0", 0)] }] }

theorem instantiateAll_oneGroup :
    instantiateAll (Platform.ofFiles [("group.json", oneGroup)]) 8 0 (.str "group.json") testWorld =
      .ok oneGroupBuilt := by
  rfl

/-- The system is built, and its dump calls `getLayout` through a null pointer. -/
theorem oneGroup_nullCall :
    instantiateAll (Platform.ofFiles [("group.json", oneGroup)]) 8 0 (.str "group.json")
      testWorld = .ok oneGroupBuilt ∧
    dumpToDot (F := ℝ) .stored oneGroupBuilt (Wiring.wire oneGroupBuilt.constructions)
      (fun _ => (-1, -1)) 0 oneGroup true = .error (.config .nullCall) ∧
    ¬ ∃ out, dumpToDot (F := ℝ) .stored oneGroupBuilt (Wiring.wire oneGroupBuilt.constructions)
        (fun _ => (-1, -1)) 0 oneGroup true = .ok out ∧
      ∀ e, Linked oneGroupBuilt (Wiring.wire oneGroupBuilt.constructions) 0 e →
        out.countP (DotStatement.isEdge e) = 1 := by
  have hdump : dumpToDot (F := ℝ) .stored oneGroupBuilt
      (Wiring.wire oneGroupBuilt.constructions) (fun _ => (-1, -1)) 0 oneGroup true =
      .error (.config .nullCall) := by
    rfl
  refine ⟨instantiateAll_oneGroup, hdump, fun ⟨out, h, _⟩ => ?_⟩
  rw [hdump] at h
  cases h

end Gem5Sc.TopologyDumper
