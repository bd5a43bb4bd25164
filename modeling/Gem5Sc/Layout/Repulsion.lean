/-
  File:      Gem5Sc/Layout/Repulsion.lean
  Subject:   DOES REPULSION PUSH APART? In exact arithmetic, it pulls together.

  `applyRepulsion` goes through the pairs of nodes. For each pair it subtracts from the velocity of
  the first node a positive multiple of its distance vector from the second, and adds it to that of
  the second (`contribution_fst`, `contribution_snd`): both move towards each other.

  `pushesApart_iff`: a call pushes apart exactly when it has nothing to push, because no two nodes
  of the list are at distinct positions unless both are fixed.
-/
import Gem5Sc.Layout
import Gem5Sc.Library.Runs
import Mathlib.Analysis.SpecialFunctions.Trigonometric.Basic
import Mathlib.Analysis.Real.Sqrt

namespace Gem5Sc

/-- Exact arithmetic. -/
noncomputable instance : Double ℝ where
  lit q := q
  sqrt := Real.sqrt
  cos := Real.cos
  sin := Real.sin
  pi := Real.pi
  min := min
  max := max
  trunc x := if 0 ≤ x then ⌊x⌋ else ⌈x⌉
  nonneg x := decide (0 ≤ x)

namespace ForceDirectedLayout

/-! ## 1. What a pair of nodes gets -/

noncomputable section

def velocity (s : ForceDirectedLayout ℝ) (name : String) : ℝ × ℝ :=
  ((s.position name).vx, (s.position name).vy)

/-- The position of `a`, seen from `b`. -/
def separation (s : ForceDirectedLayout ℝ) (a b : String) : ℝ × ℝ :=
  ((s.position a).x - (s.position b).x, (s.position a).y - (s.position b).y)

/-- What the pair `a`, `b` adds to the velocity of `node`. -/
def contribution (s : ForceDirectedLayout ℝ) (a b node : String) : ℝ × ℝ :=
  (s.repel a b).velocity node - s.velocity node

def dot (u v : ℝ × ℝ) : ℝ := u.1 * v.1 + u.2 * v.2

/-- `u` has the direction of `v`. -/
def SameDirection (u v : ℝ × ℝ) : Prop := ∃ c : ℝ, 0 < c ∧ u = c • v

/-- **A pair at distinct positions is pushed apart**: free nodes away from each other, a free node
    away from a fixed one. -/
def PushesApart (s : ForceDirectedLayout ℝ) (p : String × String) : Prop :=
  s.separation p.1 p.2 ≠ 0 →
    (s.isFixed p.1 = false → s.isFixed p.2 = false →
      0 < dot (s.contribution p.1 p.2 p.1 - s.contribution p.1 p.2 p.2) (s.separation p.1 p.2)) ∧
    (s.isFixed p.1 = false → s.isFixed p.2 = true →
      SameDirection (s.contribution p.1 p.2 p.1) (s.separation p.1 p.2)) ∧
    (s.isFixed p.1 = true → s.isFixed p.2 = false →
      SameDirection (s.contribution p.1 p.2 p.2) (s.separation p.2 p.1))

/-- The factor between the distance vector and what is added for it. -/
def strength (s : ForceDirectedLayout ℝ) (a b : String) : ℝ :=
  let v := s.separation a b
  let dist := √(v.1 * v.1 + v.2 * v.2) + ((1e-6 : ℚ) : ℝ)
  repulsion dist / dist

theorem strength_pos (s : ForceDirectedLayout ℝ) (a b : String) : 0 < s.strength a b := by
  have htiny : (0 : ℝ) < ((1e-6 : ℚ) : ℝ) := by norm_num
  have hdist : ∀ x : ℝ, 0 < √x + ((1e-6 : ℚ) : ℝ) := fun x =>
    add_pos_of_nonneg_of_pos (Real.sqrt_nonneg x) htiny
  have hk : (0 : ℝ) < k * k := by
    show (0 : ℝ) < ((100 : ℚ) : ℝ) * ((100 : ℚ) : ℝ)
    norm_num
  exact div_pos (div_pos hk (add_pos (hdist _) htiny)) (hdist _)

/-! ## 2. One pair -/

variable (s : ForceDirectedLayout ℝ) {a b : String}

theorem position_accelerate_ne {name other : String} (h : other ≠ name) (g : ℝ × ℝ → ℝ × ℝ) :
    (s.accelerate name g).position other = s.position other := by
  unfold accelerate
  split
  · rfl
  · exact s.position_setPosition_ne h _

theorem position_accelerate_self (name : String) (g : ℝ × ℝ → ℝ × ℝ) :
    (s.accelerate name g).position name =
      if s.isFixed name then s.position name
      else { s.position name with
        vx := (g (s.velocity name)).1, vy := (g (s.velocity name)).2 } := by
  unfold accelerate
  split
  · rfl
  · exact s.position_setPosition_self _

/-- A velocity is no position. -/
theorem separation_accelerate (name : String) (g : ℝ × ℝ → ℝ × ℝ) (c d : String) :
    (s.accelerate name g).separation c d = s.separation c d := by
  have hplace : ∀ n, ((s.accelerate name g).position n).x = (s.position n).x ∧
      ((s.accelerate name g).position n).y = (s.position n).y := by
    intro n
    by_cases h : n = name
    · subst h
      rw [position_accelerate_self]
      split <;> exact ⟨rfl, rfl⟩
    · rw [position_accelerate_ne _ h]
      exact ⟨rfl, rfl⟩
  unfold separation
  rw [(hplace c).1, (hplace c).2, (hplace d).1, (hplace d).2]

theorem isFixed_accelerate (name other : String) (g : ℝ × ℝ → ℝ × ℝ) :
    (s.accelerate name g).isFixed other = s.isFixed other := by
  unfold accelerate
  split <;> rfl

/-- Two velocities are changed: one loses what the other gains. -/
theorem repel_eq (a b : String) :
    s.repel a b =
      (((s.touch a).touch b).accelerate a fun v => v - s.strength a b • s.separation a b).accelerate
        b fun v => v + s.strength a b • s.separation a b := by
  have hx : ∀ d : ℝ, repulsion d * (s.separation a b).1 / d =
      repulsion d / d * (s.separation a b).1 := fun d => mul_div_right_comm _ _ _
  have hy : ∀ d : ℝ, repulsion d * (s.separation a b).2 / d =
      repulsion d / d * (s.separation a b).2 := fun d => mul_div_right_comm _ _ _
  unfold repel
  simp only [position_touch]
  refine congrArg₂ (fun g g' => (((s.touch a).touch b).accelerate a g).accelerate b g')
    (funext fun v => ?_) (funext fun v => ?_)
  · exact Prod.ext (congrArg (v.1 - ·) (hx _)) (congrArg (v.2 - ·) (hy _))
  · exact Prod.ext (congrArg (v.1 + ·) (hx _)) (congrArg (v.2 + ·) (hy _))

theorem ne_of_separation (h : s.separation a b ≠ 0) : a ≠ b := by
  rintro rfl
  exact h (Prod.ext (sub_self _) (sub_self _))

/-- **The first node of a pair is moved towards the second.** -/
theorem contribution_fst (h : s.separation a b ≠ 0) :
    s.contribution a b a =
      if s.isFixed a then 0 else -(s.strength a b • s.separation a b) := by
  have hne := s.ne_of_separation h
  have hpos : (s.repel a b).position a = (((s.touch a).touch b).accelerate a
      fun v => v - s.strength a b • s.separation a b).position a := by
    rw [repel_eq]
    exact position_accelerate_ne _ hne _
  have hfixed : ((s.touch a).touch b).isFixed a = s.isFixed a := rfl
  unfold contribution velocity
  rw [hpos, position_accelerate_self, hfixed]
  cases s.isFixed a with
  | true =>
      rw [if_pos rfl, if_pos rfl, position_touch, position_touch]
      exact sub_self _
  | false =>
      rw [if_neg Bool.false_ne_true, if_neg Bool.false_ne_true]
      have hv : ((s.touch a).touch b).velocity a = s.velocity a := by
        unfold velocity
        rw [position_touch, position_touch]
      rw [hv]
      exact sub_sub_cancel_left _ _

/-- **The second node is moved towards the first.** -/
theorem contribution_snd (h : s.separation a b ≠ 0) :
    s.contribution a b b =
      if s.isFixed b then 0 else s.strength a b • s.separation a b := by
  have hne := s.ne_of_separation h
  have hbefore : (((s.touch a).touch b).accelerate a
      fun v => v - s.strength a b • s.separation a b).position b = s.position b := by
    rw [position_accelerate_ne _ (Ne.symm hne), position_touch, position_touch]
  have hfixed : (((s.touch a).touch b).accelerate a
      fun v => v - s.strength a b • s.separation a b).isFixed b = s.isFixed b :=
    isFixed_accelerate ..
  unfold contribution velocity
  rw [repel_eq, position_accelerate_self, hfixed, hbefore]
  cases s.isFixed b with
  | true =>
      rw [if_pos rfl, if_pos rfl]
      exact sub_self _
  | false =>
      rw [if_neg Bool.false_ne_true, if_neg Bool.false_ne_true]
      have hv : (((s.touch a).touch b).accelerate a
          fun v => v - s.strength a b • s.separation a b).velocity b = s.velocity b := by
        unfold velocity
        rw [hbefore]
      rw [hv]
      exact add_sub_cancel_left _ _

/-! ## 3. Together and apart -/

theorem dot_self_pos {v : ℝ × ℝ} (h : v ≠ 0) : 0 < dot v v := by
  have hle : 0 ≤ dot v v := add_nonneg (mul_self_nonneg _) (mul_self_nonneg _)
  refine lt_of_le_of_ne hle fun h0 => h ?_
  obtain ⟨h1, h2⟩ := mul_self_add_mul_self_eq_zero.mp h0.symm
  exact Prod.ext h1 h2

theorem not_sameDirection {v : ℝ × ℝ} (h : v ≠ 0) {c : ℝ} (hc : 0 < c) :
    ¬ SameDirection (-(c • v)) v := by
  rintro ⟨d, hd, he⟩
  have hsum : (d + c) • v = 0 := by
    rw [add_smul, ← he]
    exact neg_add_cancel _
  rcases smul_eq_zero.mp hsum with hz | hz
  · linarith
  · exact h hz

/-- One pair is pushed apart only if there is nothing to push. -/
theorem pushesApart_iff_fixed (s : ForceDirectedLayout ℝ) (p : String × String) :
    PushesApart s p ↔
      (s.separation p.1 p.2 ≠ 0 → s.isFixed p.1 = true ∧ s.isFixed p.2 = true) := by
  refine forall_congr' fun hsep => ?_
  have hc := s.strength_pos p.1 p.2
  have hfst := s.contribution_fst hsep
  have hsnd := s.contribution_snd hsep
  have hback : s.separation p.2 p.1 = -(s.separation p.1 p.2) :=
    Prod.ext (neg_sub _ _).symm (neg_sub _ _).symm
  cases ha : s.isFixed p.1 with
  | false =>
      rw [ha, if_neg Bool.false_ne_true] at hfst
      refine iff_of_false (fun ⟨hfree, hfixed, _⟩ => ?_) fun h => Bool.false_ne_true h.1
      cases hb : s.isFixed p.2 with
      | false =>
          rw [hb, if_neg Bool.false_ne_true] at hsnd
          have hlt := hfree rfl hb
          have hdot := mul_pos hc (dot_self_pos hsep)
          rw [hfst, hsnd] at hlt
          simp only [dot, Prod.fst_sub, Prod.snd_sub, Prod.fst_neg, Prod.snd_neg, Prod.smul_fst,
            Prod.smul_snd, smul_eq_mul] at hlt hdot
          linarith
      | true =>
          have hdir := hfixed rfl hb
          rw [hfst] at hdir
          exact not_sameDirection hsep hc hdir
  | true =>
      cases hb : s.isFixed p.2 with
      | false =>
          rw [hb, if_neg Bool.false_ne_true] at hsnd
          refine iff_of_false (fun ⟨_, _, h⟩ => ?_) fun h => Bool.false_ne_true h.2
          have hdir := h rfl rfl
          rw [hsnd, hback, ← neg_neg (s.strength p.1 p.2 • s.separation p.1 p.2),
            ← smul_neg] at hdir
          exact not_sameDirection (neg_ne_zero.mpr hsep) hc hdir
      | true =>
          refine iff_of_true ⟨fun h => ?_, fun h => ?_, fun _ h => ?_⟩ ⟨rfl, rfl⟩
          · exact absurd h.symm Bool.false_ne_true
          · exact absurd h.symm Bool.false_ne_true
          · exact absurd h.symm Bool.false_ne_true

/-! ## 4. A call -/

/-- `applyRepulsion` leaves the nodes where they are, and fixed or free. -/
theorem pushesApart_repel (s : ForceDirectedLayout ℝ) (p q : String × String) :
    PushesApart (s.repel p.1 p.2) q ↔ PushesApart s q := by
  have hfixed : ∀ n, (s.repel p.1 p.2).isFixed n = s.isFixed n := by
    intro n
    rw [repel_eq, isFixed_accelerate, isFixed_accelerate]
    rfl
  have hsep : (s.repel p.1 p.2).separation q.1 q.2 = s.separation q.1 q.2 := by
    rw [repel_eq, separation_accelerate, separation_accelerate]
    unfold separation
    simp only [position_touch]
  rw [pushesApart_iff_fixed, pushesApart_iff_fixed, hfixed, hfixed, hsep]

/-- **REPULSION.** For every layout, whatever its nodes: one call of `applyRepulsion` pushes every
    pair apart if and only if no two nodes of the list are at distinct positions, except fixed
    ones. -/
theorem pushesApart_iff (s : ForceDirectedLayout ℝ) :
    Library.Along (fun s p => s.repel p.1 p.2) PushesApart s (pairs s.nodes) ↔
      ∀ p ∈ pairs s.nodes, s.separation p.1 p.2 ≠ 0 →
        s.isFixed p.1 = true ∧ s.isFixed p.2 = true :=
  (Library.along_iff_forall fun s p q => pushesApart_repel s p q).trans
    (forall₂_congr fun p _ => pushesApart_iff_fixed s p)

/-- Two free nodes on a line. -/
def twoNodes : ForceDirectedLayout ℝ :=
  ((new.addNode "a" (-1) (-1)).addNode "b" (-1) (-1)).setGroupPlacement "g" ["a", "b"] "linear"
    0 0 80

theorem twoNodes_not_apart :
    ¬ Library.Along (fun s p => s.repel p.1 p.2) PushesApart twoNodes (pairs twoNodes.nodes) := by
  have hneg : Double.nonneg (-1 : ℝ) = false := decide_eq_false (by norm_num)
  have heq : twoNodes =
      (((new.addNode "a" (-1) (-1)).addNode "b" (-1) (-1)).setPosition "a"
        (.of (linearPoint 2 0 0 0).1 (linearPoint 2 0 0 0).2)).setPosition "b"
        (.of (linearPoint 2 0 0 1).1 (linearPoint 2 0 0 1).2) := by
    simp [twoNodes, setGroupPlacement, placeAll, place, addNode, isFixed, hneg, setPosition, new]
  have hnodes : twoNodes.nodes = ["a", "b"] := by
    rw [heq]
    simp [addNode, hneg, setPosition, new]
  have hfree : twoNodes.isFixed "a" = false := by
    rw [heq]
    simp [addNode, hneg, setPosition, isFixed, new]
  have hsep : (twoNodes.separation "a" "b").1 = -60 := by
    rw [heq]
    unfold separation
    rw [position_setPosition_self, position_setPosition_ne _ (by decide), position_setPosition_self]
    simp only [linearPoint, Point.of, Double.lit]
    norm_num
  intro h
  rw [hnodes] at h
  have hfixed := (pushesApart_iff_fixed _ _).mp h.1 fun h0 => by
    have h1 := congrArg Prod.fst h0
    rw [hsep] at h1
    norm_num at h1
  rw [hfree] at hfixed
  exact Bool.false_ne_true hfixed.1

end

end ForceDirectedLayout

end Gem5Sc
