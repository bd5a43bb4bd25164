/-
  File:      Gem5Sc/Topology/Coordinates.lean
  Subject:   WHICH COORDINATES THE DUMP WRITES for an instance with a layout of its own.

  The dump adds such an instance with its coordinates, and what it does with the layout after that
  leaves fixed nodes where they are: `computeLayout_framed` carries every framed property from the
  added nodes to the final layout. In manual mode the dump reads the coordinates of the instance.

  * `written_at_layout` -- each statement for the instance has these coordinates;
  * `exists_written` -- and there is one, if the file can be opened;
  * `placed_nodes_stay` -- the same for the calls on a layout.
-/
import Gem5Sc.Layout.Placed
import Gem5Sc.Layout.Repulsion
import Gem5Sc.Library.KeyedList
import Gem5Sc.Topology

namespace Gem5Sc.TopologyDumper

open ForceDirectedLayout (Framed FixedAt)

variable {F : Type} [Add F] [Sub F] [Mul F] [Div F] [Double F]
  {H : HashOrder} {w : World} {wires : Wiring AnyPort} {layout : ObjId → F × F} {f : FactoryId}
  {config : Json} {style : String}

theorem getInstance_of_callInstance {name : String} {o : ObjId}
    (h : callInstance w f name = .ok o) : w.getInstance f name = some o := by
  unfold callInstance at h
  split at h
  · next o' ho =>
      cases h
      exact ho
  · cases h

/-! ## 1. What the groups do to the layout -/

section Framed

variable {I : ForceDirectedLayout F → Prop} {s s' : ForceDirectedLayout F}

theorem Framed.placeGroup (hI : Framed I) (hs : I s) {groupName : String}
    (h : placeGroup w f layout config s groupName = .ok s') : I s' := by
  obtain ⟨placement, -, h⟩ := Library.bind_eq_ok.mp h
  refine Library.foldlM_invariant (fun s member _ s' hs hreg => ?_) ?_ h
  · obtain ⟨o, -, hreg⟩ := Library.bind_eq_ok.mp hreg
    cases hreg
    split
    · exact hs
    · exact hI.groups s _ hs
  · split
    · exact hI.setGroupPlacement hs groupName ..
    · exact hs

/-- **What holds of the added nodes holds of the layout.** -/
theorem computeLayout_framed (hI : Framed I)
    (hadd : ∀ s, ((w.getAllInstances f).map Prod.fst).foldlM (addInstance w f layout) .new =
      .ok s → I s)
    (h : computeLayout H w layout f config style = .ok s') : I s' := by
  obtain ⟨s₁, h1, h⟩ := Library.bind_eq_ok.mp h
  obtain ⟨s₂, h2, h⟩ := Library.bind_eq_ok.mp h
  cases h
  have hs₂ : I s₂ := by
    refine Library.foldlM_invariant (fun s g _ s' hs hg => Framed.placeGroup hI hs hg) ?_ h2
    split
    · exact hI.setInitialPlacement (hadd s₁ h1) ..
    · exact hadd s₁ h1
  split
  · exact hI.run hs₂ ..
  · exact hs₂

end Framed

/-! ## 2. A node with coordinates -/

variable {name : String} {o : ObjId} {s : ForceDirectedLayout F}

omit [Add F] [Sub F] [Mul F] [Div F] in
/-- Once the instance is added it is at its layout, and later instances do not touch it. -/
theorem fixedAt_addInstances (ho : w.getInstance f name = some o)
    (hv : validLayout (layout o) = true) {nodes : List String} (hmem : name ∈ nodes)
    (h : nodes.foldlM (addInstance w f layout) .new = .ok s) :
    FixedAt name (layout o).1 (layout o).2 s := by
  have hget : ∀ s s', addInstance w f layout s name = .ok s' →
      FixedAt name (layout o).1 (layout o).2 s' := by
    intro s s' hadd
    obtain ⟨o', ho', hadd⟩ := Library.bind_eq_ok.mp hadd
    cases hadd
    have heq : o' = o := Option.some.inj ((getInstance_of_callInstance ho').symm.trans ho)
    rw [heq, hv, if_pos rfl, if_pos rfl]
    obtain ⟨hx, hy⟩ := Bool.and_eq_true_iff.mp hv
    exact ForceDirectedLayout.fixedAt_addNode s hx hy
  refine Library.foldlM_established hmem hget (fun s node _ s' hs hadd => ?_) h
  by_cases hn : node = name
  · exact hget s s' (hn ▸ hadd)
  · obtain ⟨o', -, hadd⟩ := Library.bind_eq_ok.mp hadd
    cases hadd
    exact ForceDirectedLayout.fixedAt_addNode_other s node _ _ hn hs

theorem mem_nodes (ho : w.getInstance f name = some o) :
    name ∈ (w.getAllInstances f).map Prod.fst :=
  List.mem_map.mpr ⟨(name, o), Library.mem_of_lookup ho, rfl⟩

theorem fixedAt_computeLayout (ho : w.getInstance f name = some o)
    (hv : validLayout (layout o) = true)
    (h : computeLayout H w layout f config style = .ok s) :
    FixedAt name (layout o).1 (layout o).2 s :=
  computeLayout_framed (ForceDirectedLayout.framed_fixedAt name _ _)
    (fun _ hadd => fixedAt_addInstances ho hv (mem_nodes ho) hadd) h

omit [Add F] [Sub F] [Mul F] [Div F] in
/-- The statement of such a node. -/
theorem nodeStatement_fixedAt (style : String) (ho : w.getInstance f name = some o)
    (hv : validLayout (layout o) = true) (hs : FixedAt name (layout o).1 (layout o).2 s) :
    ∃ type pinned, nodeStatement w f layout style s name =
      .ok (.node name type (some (layout o)) pinned) := by
  obtain ⟨p, hp, hx, hy⟩ := hs.at_point
  unfold nodeStatement
  rw [hp]
  dsimp only
  split
  · refine ⟨getModuleType (w.getInstance f name), true, ?_⟩
    unfold callInstance
    rw [ho]
    show Except.ok (DotStatement.node name _ (if validLayout (layout o) then some (layout o)
      else none) (validLayout (layout o))) = _
    rw [hv, if_pos rfl]
  · refine ⟨getModuleType (w.getInstance f name), false, ?_⟩
    rw [hx, hy]

/-! ## 3. What is written -/

variable {opens : Bool} {out : List (DotStatement F)}

/-- What a dump that completes is made of. -/
theorem dumpToDot_ok (h : dumpToDot H w wires layout f config opens = .ok out)
    (hopen : opens = true) :
    ∃ style s nodes edges, computeLayout H w layout f config style = .ok s ∧
      ((w.getAllInstances f).map Prod.fst).mapM (nodeStatement w f layout style s) = .ok nodes ∧
      (allEdges w wires f).mapM (edgeStatement w wires f) = .ok edges ∧
      out = nodes ++ (w.getAllGroupNames.map fun g => .cluster g (w.getMembers g)) ++ edges := by
  unfold dumpToDot at h
  rw [if_neg (by rw [hopen]; exact Bool.noConfusion)] at h
  obtain ⟨style, -, h⟩ := Library.bind_eq_ok.mp h
  obtain ⟨s, hs, h⟩ := Library.bind_eq_ok.mp h
  obtain ⟨nodes, hnodes, h⟩ := Library.bind_eq_ok.mp h
  obtain ⟨edges, hedges, h⟩ := Library.bind_eq_ok.mp h
  cases h
  exact ⟨style, s, nodes, edges, hs, hnodes, hedges, rfl⟩

omit [Add F] [Sub F] [Mul F] [Div F] in
/-- A node statement is the one of its node. -/
theorem node_of_nodeStatement {node : String} {s : ForceDirectedLayout F} {x : DotStatement F}
    (h : nodeStatement w f layout style s node = .ok x) :
    ∃ type pos pinned, x = .node node type pos pinned := by
  unfold nodeStatement at h
  split at h
  · cases h
  · dsimp only at h
    split at h
    · obtain ⟨o, -, h⟩ := Library.bind_eq_ok.mp h
      cases h
      exact ⟨_, _, _, rfl⟩
    · cases h
      exact ⟨_, _, _, rfl⟩

omit [Add F] [Sub F] [Mul F] [Div F] [Double F] in
theorem edge_of_edgeStatement {e : String × String} {x : DotStatement F}
    (h : edgeStatement w wires f e = .ok x) : ∃ delay, x = .edge e.1 e.2 delay := by
  obtain ⟨o, -, h⟩ := Library.bind_eq_ok.mp h
  cases h
  exact ⟨_, rfl⟩

/-- **Each statement for an instance with a layout has its coordinates.** -/
theorem written_at_layout (h : dumpToDot H w wires layout f config opens = .ok out)
    (ho : w.getInstance f name = some o) (hv : validLayout (layout o) = true) {type : String}
    {pos : Option (F × F)} {pinned : Bool} (hx : .node name type pos pinned ∈ out) :
    pos = some (layout o) := by
  cases hopen : opens with
  | false =>
      rw [hopen] at h
      cases h
      exact absurd hx List.not_mem_nil
  | true =>
      obtain ⟨style, s, nodes, edges, hs, hnodes, hedges, rfl⟩ := dumpToDot_ok h hopen
      rcases List.mem_append.mp hx with hx | hx
      · rcases List.mem_append.mp hx with hx | hx
        · obtain ⟨node, -, hst⟩ := Library.mem_of_mapM_ok hnodes hx
          obtain ⟨type', pos', pinned', heq⟩ := node_of_nodeStatement hst
          cases heq
          obtain ⟨type', pinned', hst'⟩ := nodeStatement_fixedAt style ho hv
            (fixedAt_computeLayout ho hv hs)
          rw [hst] at hst'
          cases hst'
          rfl
        · obtain ⟨g, -, hg⟩ := List.mem_map.mp hx
          cases hg
      · obtain ⟨e, -, hst⟩ := Library.mem_of_mapM_ok hedges hx
        obtain ⟨delay, heq⟩ := edge_of_edgeStatement hst
        cases heq

/-- **And there is one.** -/
theorem exists_written (h : dumpToDot H w wires layout f config opens = .ok out)
    (hopen : opens = true) (ho : w.getInstance f name = some o)
    (hv : validLayout (layout o) = true) :
    ∃ type pinned, .node name type (some (layout o)) pinned ∈ out := by
  obtain ⟨style, s, nodes, edges, hs, hnodes, -, rfl⟩ := dumpToDot_ok h hopen
  obtain ⟨type, pinned, hst⟩ := nodeStatement_fixedAt style ho hv
    (fixedAt_computeLayout ho hv hs)
  have hmem : DotStatement.node name type (some (layout o)) pinned ∈ nodes :=
    (Library.forall_mapM_ok (p := (· ∈ nodes)) hnodes).mp (fun _ hy => hy) name (mem_nodes ho) _ hst
  exact ⟨type, pinned, List.mem_append_left _ (List.mem_append_left _ hmem)⟩

/-- **PLACED NODES STAY WHERE THEY WERE PUT**, in any arithmetic. A node added with coordinates
    has them after any other calls; and a dump that completes writes them, and no others, for every
    instance with a layout. -/
theorem placed_nodes_stay (F : Type) [Add F] [Sub F] [Mul F] [Div F] [Double F] :
    (∀ (H : HashOrder) (s : ForceDirectedLayout F) (name : String) (x y : F),
      Double.nonneg x = true → Double.nonneg y = true →
      ∀ acts : List (ForceDirectedLayout.Action F), (∀ a ∈ acts, a.Other name) →
        FixedAt name x y
          (Library.run (ForceDirectedLayout.step H) (s.addNode name x y) acts)) ∧
    ∀ (H : HashOrder) (w : World) (wires : Wiring AnyPort) (layout : ObjId → F × F)
      (f : FactoryId) (config : Json) (opens : Bool) (out : List (DotStatement F)),
      dumpToDot H w wires layout f config opens = .ok out →
      ∀ name o, w.getInstance f name = some o → validLayout (layout o) = true →
        (∀ type pos pinned, .node name type pos pinned ∈ out → pos = some (layout o)) ∧
        (opens = true → ∃ type pinned, .node name type (some (layout o)) pinned ∈ out) :=
  ⟨fun H s _ _ _ hx hy _ ha => ForceDirectedLayout.placed_stays H s hx hy ha,
    fun _ _ _ _ _ _ _ _ h _ _ ho hv => ⟨fun _ _ _ hx => written_at_layout h ho hv hx,
      fun hopen => exists_written h hopen ho hv⟩⟩

/-- A factory with one instance, in a group. -/
def oneInstance : World where
  objects := [{ name := "mem", type := "MemorySim" }]
  factories := [[("mem", 0)]]
  groups := [("g", ["mem"])]

/-- A node at `(10, 20)` that is a member of a group twice, with a stranger; and the dump of an
    instance there. -/
theorem placed_nodes_stay_inGroup :
    FixedAt "mem" 10 20 (Library.run (ForceDirectedLayout.step .stored)
      ((.new : ForceDirectedLayout ℝ).addNode "mem" 10 20)
      [.addNode "cpu" (-1) (-1), .setGroup "mem" "g",
        .setGroupPlacement "g" ["mem", "dma", "mem"] "circle" 400 300 120, .run 800 600]) ∧
    ∃ out, dumpToDot .stored oneInstance (Wiring.wire []) (fun _ => ((10, 20) : ℝ × ℝ)) 0 (.obj [])
        true = .ok out ∧
      (∀ type pos pinned, .node "mem" type pos pinned ∈ out → pos = some (10, 20)) ∧
      ∃ type pinned, .node "mem" type (some (10, 20)) pinned ∈ out := by
  have hx : Double.nonneg (10 : ℝ) = true := decide_eq_true (by norm_num)
  have hy : Double.nonneg (20 : ℝ) = true := decide_eq_true (by norm_num)
  constructor
  · refine (placed_nodes_stay ℝ).1 .stored _ "mem" 10 20 hx hy _ fun a ha => ?_
    simp only [List.mem_cons, List.not_mem_nil, or_false] at ha
    rcases ha with rfl | rfl | rfl | rfl
    · exact (by decide : "cpu" ≠ "mem")
    · exact trivial
    · exact trivial
    · exact trivial
  · have hv : validLayout ((10, 20) : ℝ × ℝ) = true := Bool.and_eq_true_iff.mpr ⟨hx, hy⟩
    have ho : oneInstance.getInstance 0 "mem" = some 0 := rfl
    obtain ⟨s, hs⟩ : ∃ s, computeLayout .stored oneInstance (fun _ => ((10, 20) : ℝ × ℝ)) 0
        (.obj []) "auto" = .ok s := ⟨_, rfl⟩
    obtain ⟨type, pinned, hnode⟩ := nodeStatement_fixedAt "auto" ho hv
      (fixedAt_computeLayout ho hv hs)
    have hnodes : ["mem"].mapM (nodeStatement oneInstance 0 (fun _ => ((10, 20) : ℝ × ℝ)) "auto" s)
        = .ok [.node "mem" type (some (10, 20)) pinned] := by
      rw [List.mapM_cons, hnode]
      rfl
    obtain ⟨out, h⟩ : ∃ out, dumpToDot .stored oneInstance (Wiring.wire [])
        (fun _ => ((10, 20) : ℝ × ℝ)) 0 (.obj []) true = .ok out :=
      ⟨_, Library.bind_eq_ok.mpr ⟨"auto", rfl, Library.bind_eq_ok.mpr ⟨s, hs,
        Library.bind_eq_ok.mpr ⟨_, hnodes, Library.bind_eq_ok.mpr ⟨[], rfl, rfl⟩⟩⟩⟩⟩
    obtain ⟨hall, hsome⟩ := (placed_nodes_stay ℝ).2 .stored _ _ _ 0 _ true out h "mem" 0 ho hv
    exact ⟨out, h, hall, hsome rfl⟩

end Gem5Sc.TopologyDumper
