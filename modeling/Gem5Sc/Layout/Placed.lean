/-
  File:      Gem5Sc/Layout/Placed.lean
  Subject:   PLACED NODES STAY WHERE THEY WERE PUT.

  All that the functions of a layout do to its positions is: create the default entry of a name,
  set the entry of a node that is not fixed, and change all entries of nodes that are not fixed. The
  rest are groups and the temperature. `Framed I` says that `I` survives these, and then it
  survives every call but `addNode` (`Framed.step`).

  `placed_stays`: for a fixed node with its coordinates that is so, and an `addNode` for another
  name does not touch it either.
-/
import Gem5Sc.Layout
import Gem5Sc.Library.Runs

namespace Gem5Sc.ForceDirectedLayout

variable {F : Type} [Add F] [Sub F] [Mul F] [Div F] [Double F]

/-! ## 1. What the functions can do -/

/-- A property that survives what the functions do. -/
structure Framed (I : ForceDirectedLayout F → Prop) : Prop where
  touch : ∀ s name, I s → I (s.touch name)
  setPosition : ∀ s name p, s.isFixed name = false → I s → I (s.setPosition name p)
  mapFree : ∀ s g, I s → I (s.mapFree g)
  groups : ∀ s m, I s → I { s with nodeToGroup := m }
  cool : ∀ s t, I s → I { s with temperature := t }

namespace Framed

variable {I : ForceDirectedLayout F → Prop} {s : ForceDirectedLayout F}

omit [Add F] [Sub F] [Mul F] [Div F] in
theorem place (h : Framed I) (hs : I s) (name : String) (p : F × F) : I (s.place name p) := by
  unfold ForceDirectedLayout.place
  split
  · exact hs
  · next hf => exact h.setPosition s name _ (Bool.of_not_eq_true hf) hs

omit [Add F] [Sub F] [Mul F] [Div F] in
theorem placeAll (h : Framed I) (hs : I s) (names : List String) (point : Nat → F × F) :
    I (s.placeAll names point) :=
  Library.run_invariant hs (fun _ e hs => h.place hs e.1 (point e.2)) names.zipIdx

theorem setGroupPlacement (h : Framed I) (hs : I s) (groupName : String) (members : List String)
    (style : String) (centerX centerY radius : F) :
    I (s.setGroupPlacement groupName members style centerX centerY radius) := by
  unfold ForceDirectedLayout.setGroupPlacement
  dsimp only
  split
  · exact h.placeAll hs _ _
  · split
    · exact h.placeAll hs _ _
    · split
      · exact h.placeAll hs _ _
      · exact hs

theorem setInitialPlacement (h : Framed I) (hs : I s) (draws : Nat → Nat × Nat) (type : String)
    (width height : F) : I (s.setInitialPlacement draws type width height) := by
  unfold ForceDirectedLayout.setInitialPlacement
  dsimp only
  split
  · exact h.placeAll hs _ _
  · split
    · exact h.placeAll hs _ _
    · exact h.placeAll hs _ _

omit [Add F] [Sub F] [Mul F] [Div F] in
theorem accelerate (h : Framed I) (hs : I s) (name : String) (g : F × F → F × F) :
    I (s.accelerate name g) := by
  unfold ForceDirectedLayout.accelerate
  split
  · exact hs
  · next hf => exact h.setPosition s name _ (Bool.of_not_eq_true hf) hs

theorem repel (h : Framed I) (hs : I s) (a b : String) : I (s.repel a b) := by
  unfold ForceDirectedLayout.repel
  exact h.accelerate (h.accelerate (h.touch _ b (h.touch s a hs)) a _) b _

theorem applyRepulsion (h : Framed I) (hs : I s) : I s.applyRepulsion :=
  Library.run_invariant hs (fun _ p hs => h.repel hs p.1 p.2) (pairs s.nodes)

omit [Add F] [Sub F] [Mul F] [Div F] in
theorem groupCenters (h : Framed I) (hs : I s) (H : HashOrder) : I (s.groupCenters H).1 := by
  let J : ForceDirectedLayout F × List (String × List (Point F)) → Prop := fun r => I r.1
  refine Library.run_invariant (I := J) hs (fun r e hr => ?_) (H.order s.nodeToGroup)
  split
  · exact hr
  · exact h.touch r.1 e.1 hr

theorem confine (h : Framed I) (hs : I s) (group : String) (c : F × F) (node : String) :
    I (s.confine group c node) := by
  have hg := h.groups s (setKey s.nodeToGroup node (s.groupOf node)) hs
  unfold ForceDirectedLayout.confine
  dsimp only
  split
  · exact h.accelerate (h.touch _ node hg) node _
  · exact hg

theorem applyGroupConfinement (h : Framed I) (hs : I s) (H : HashOrder) (width height : F) :
    I (s.applyGroupConfinement H width height) := by
  refine Library.run_invariant (h.groupCenters hs H) (fun s g hs => ?_) _
  split
  · exact hs
  · exact Library.run_invariant hs (fun s node hs => h.confine hs g.1 _ node) s.nodes

theorem round (h : Framed I) (hs : I s) (H : HashOrder) (width height : F) :
    I (ForceDirectedLayout.round H width height s) :=
  h.cool _ _ (h.mapFree _ _ (h.applyGroupConfinement (h.applyRepulsion (h.mapFree s _ hs)) H
    width height))

theorem run (h : Framed I) (hs : I s) (H : HashOrder) (width height : F) :
    I (s.run H width height) := by
  have hiter : ∀ n, I ((ForceDirectedLayout.round H width height)^[n] s) := by
    intro n
    induction n with
    | zero => exact hs
    | succ n ih =>
        rw [Function.iterate_succ_apply']
        exact h.round ih H width height
  exact hiter maxIter

end Framed

/-! ## 2. The calls -/

inductive Action (F : Type) where
  | addNode (name : String) (x y : F)
  | setGroup (node group : String)
  | setGroupPlacement (groupName : String) (members : List String) (style : String)
      (centerX centerY radius : F)
  | setInitialPlacement (draws : Nat → Nat × Nat) (type : String) (width height : F)
  | run (width height : F)

def step (H : HashOrder) (s : ForceDirectedLayout F) : Action F → ForceDirectedLayout F
  | .addNode name x y => s.addNode name x y
  | .setGroup node group => s.setGroup node group
  | .setGroupPlacement groupName members style centerX centerY radius =>
      s.setGroupPlacement groupName members style centerX centerY radius
  | .setInitialPlacement draws type width height => s.setInitialPlacement draws type width height
  | .run width height => s.run H width height

/-- The call is no `addNode` for `name`. -/
def Action.Other (name : String) : Action F → Prop
  | .addNode other _ _ => other ≠ name
  | _ => True

/-- A framed property survives every call, if it survives `addNode`. -/
theorem Framed.step {I : ForceDirectedLayout F → Prop} (h : Framed I) {name : String}
    (hadd : ∀ s other x y, other ≠ name → I s → I (s.addNode other x y)) (H : HashOrder)
    {s : ForceDirectedLayout F} (hs : I s) (a : Action F) (ha : a.Other name) :
    I (s.step H a) := by
  cases a with
  | addNode other x y => exact hadd s other x y ha hs
  | setGroup node group => exact h.groups s _ hs
  | setGroupPlacement groupName members style centerX centerY radius =>
      exact h.setGroupPlacement hs groupName ..
  | setInitialPlacement draws type width height => exact h.setInitialPlacement hs ..
  | run width height => exact h.run hs ..

/-! ## 3. A fixed node -/

/-- The node is fixed, at `(x, y)`. -/
structure FixedAt (name : String) (x y : F) (s : ForceDirectedLayout F) : Prop where
  fixed : s.isFixed name = true
  at_point : ∃ p, s.positions name = some p ∧ p.x = x ∧ p.y = y

section FixedAt

variable {name : String} {x y : F}

omit [Add F] [Sub F] [Mul F] [Div F] in
/-- **No function of the layout moves it.** -/
theorem framed_fixedAt (name : String) (x y : F) : Framed (FixedAt name x y) where
  touch s other h := by
    refine ⟨h.fixed, ?_⟩
    by_cases hn : name = other
    · subst hn
      obtain ⟨p, hp, hx, hy⟩ := h.at_point
      refine ⟨p, ?_, hx, hy⟩
      rw [touch, positions_setPosition_self, position, hp, Option.getD_some]
    · rw [touch, positions_setPosition_ne _ hn]
      exact h.at_point
  setPosition s other p hfree h := by
    have hn : name ≠ other := by
      rintro rfl
      exact Bool.false_ne_true (hfree.symm.trans h.fixed)
    refine ⟨h.fixed, ?_⟩
    rw [positions_setPosition_ne _ hn]
    exact h.at_point
  mapFree s g h := by
    obtain ⟨p, hp, hx, hy⟩ := h.at_point
    refine ⟨h.fixed, p, ?_, hx, hy⟩
    show (s.positions name).map _ = some p
    rw [hp, Option.map_some, if_pos h.fixed]
  groups s m h := ⟨h.fixed, h.at_point⟩
  cool s t h := ⟨h.fixed, h.at_point⟩

omit [Add F] [Sub F] [Mul F] [Div F] in
theorem fixedAt_addNode (s : ForceDirectedLayout F) (hx : Double.nonneg x = true)
    (hy : Double.nonneg y = true) : FixedAt name x y (s.addNode name x y) := by
  unfold addNode
  dsimp only
  rw [hx, hy, Bool.and_self, if_pos rfl]
  refine ⟨?_, .of x y, positions_setPosition_self .., rfl, rfl⟩
  simp [isFixed]

omit [Add F] [Sub F] [Mul F] [Div F] in
theorem fixedAt_addNode_other (s : ForceDirectedLayout F) (other : String) (x' y' : F)
    (hne : other ≠ name) (h : FixedAt name x y s) : FixedAt name x y (s.addNode other x' y') := by
  have hfixed : s.fixedNodes.contains name = true := h.fixed
  unfold addNode
  dsimp only
  split
  · refine ⟨?_, ?_⟩
    · show (other :: s.fixedNodes).contains name = true
      rw [List.contains_cons, hfixed, Bool.or_true]
    · show ∃ p, (setPosition _ other _).positions name = some p ∧ _
      rw [positions_setPosition_ne _ (Ne.symm hne)]
      exact h.at_point
  · refine ⟨hfixed, ?_⟩
    rw [positions_setPosition_ne _ (Ne.symm hne)]
    exact h.at_point

/-- **PLACED NODES STAY.** A node added with coordinates is there after any calls but `addNode`
    calls for it. -/
theorem placed_stays (H : HashOrder) (s : ForceDirectedLayout F) (hx : Double.nonneg x = true)
    (hy : Double.nonneg y = true) {acts : List (Action F)} (ha : ∀ a ∈ acts, a.Other name) :
    FixedAt name x y (Library.run (step H) (s.addNode name x y) acts) := by
  have h0 : FixedAt name x y (s.addNode name x y) := fixedAt_addNode s hx hy
  generalize s.addNode name x y = t at h0
  induction acts generalizing t with
  | nil => exact h0
  | cons a acts ih =>
      refine ih (fun b hb => ha b (List.mem_cons_of_mem a hb)) (t.step H a) ?_
      exact (framed_fixedAt name x y).step
        (fun s other x' y' => fixedAt_addNode_other s other x' y') H h0 a (ha a List.mem_cons_self)

end FixedAt

/-! ## 4. A node with a position -/

omit [Add F] [Sub F] [Mul F] [Div F] in
/-- No entry is ever erased. -/
theorem framed_hasPosition (name : String) :
    Framed fun s : ForceDirectedLayout F => (s.positions name).isSome = true where
  touch s other h := by
    by_cases hn : name = other
    · rw [hn, touch, positions_setPosition_self]
      rfl
    · rw [touch, positions_setPosition_ne _ hn]
      exact h
  setPosition s other p _ h := by
    by_cases hn : name = other
    · rw [hn, positions_setPosition_self]
      rfl
    · rw [positions_setPosition_ne _ hn]
      exact h
  mapFree s g h := by
    show ((s.positions name).map _).isSome = true
    rw [Option.isSome_map]
    exact h
  groups s m h := h
  cool s t h := h

omit [Add F] [Sub F] [Mul F] [Div F] in
theorem hasPosition_addNode (s : ForceDirectedLayout F) {name other : String} (x y : F)
    (h : name = other ∨ (s.positions name).isSome = true) :
    ((s.addNode other x y).positions name).isSome = true := by
  have hset : ∀ (t : ForceDirectedLayout F) (p : Point F), t.positions = s.positions →
      ((t.setPosition other p).positions name).isSome = true := by
    intro t p ht
    by_cases hn : name = other
    · rw [hn, positions_setPosition_self]
      rfl
    · rw [positions_setPosition_ne _ hn, ht]
      exact h.resolve_left hn
  unfold addNode
  dsimp only
  split
  · exact hset _ _ rfl
  · exact hset _ _ rfl

end Gem5Sc.ForceDirectedLayout
