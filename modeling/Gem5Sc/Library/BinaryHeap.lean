/-
  File:      Gem5Sc/Library/BinaryHeap.lean
  Subject:   The binary heap of the C++ standard library (`push_heap`, `pop_heap`) over an array,
             as a `PriorityQueue`.

  `push` appends and sifts up. `pop` swaps the first and the last entry, drops the last, lets the
  new first entry sink along the smaller children all the way to a leaf and sifts it up from there;
  of two children with equal keys the right one is taken. The loops are over the array index, with
  the size of the array as fuel.

  `Hole a i` is the invariant of both loops: every entry but the one at `i` is in order with its
  parent, and the children of `i` are in order with the parent of `i`.
-/
import Gem5Sc.Library.PriorityQueue
import Mathlib.Data.Multiset.Basic

namespace Library.BinaryHeap

universe u v

variable {α : Type u} {κ : Type v} [LinearOrder κ] (key : α → κ)

def parent (i : Nat) : Nat := (i - 1) / 2

/-- The loop of `__push_heap`. -/
def siftUp : Nat → Array α → Nat → Array α
  | 0, a, _ => a
  | fuel + 1, a, i =>
      match a[i]?, a[parent i]? with
      | some x, some y =>
          if key x < key y then siftUp fuel (a.swapIfInBounds i (parent i)) (parent i) else a
      | _, _ => a

/-- The child the hole at `i` moves to: the smaller one, the right one of two equals. -/
def child (a : Array α) (i : Nat) : Option Nat :=
  match a[2 * i + 1]?, a[2 * i + 2]? with
  | some x, some y => some (if key x < key y then 2 * i + 1 else 2 * i + 2)
  | some _, none => some (2 * i + 1)
  | none, _ => none

/-- The loop of `__adjust_heap`: the array with its hole at a leaf. -/
def sink : Nat → Array α → Nat → Array α × Nat
  | 0, a, i => (a, i)
  | fuel + 1, a, i =>
      match child key a i with
      | some c => sink fuel (a.swapIfInBounds i c) c
      | none => (a, i)

def push (a : Array α) (x : α) : Array α := siftUp key (a.size + 1) (a.push x) a.size

def pop (a : Array α) : Array α :=
  let b := (a.swapIfInBounds 0 (a.size - 1)).pop
  let s := sink key b.size b 0
  siftUp key b.size s.1 s.2

/-! ## 1. Order -/

/-- The heap order. -/
def Ordered (a : Array α) : Prop :=
  ∀ j x y, a[j]? = some x → a[parent j]? = some y → key y ≤ key x

/-- In order but for the entry at `i` and its parent. -/
structure Hole (a : Array α) (i : Nat) : Prop where
  others : ∀ j x y, j ≠ i → a[j]? = some x → a[parent j]? = some y → key y ≤ key x
  across : ∀ j x y, 0 < i → parent j = i → a[j]? = some x → a[parent i]? = some y → key y ≤ key x

/-- In order but for the entry at `i`, its parent and its children. -/
structure Sinking (a : Array α) (i : Nat) : Prop where
  others : ∀ j x y, j ≠ i → parent j ≠ i → a[j]? = some x → a[parent j]? = some y → key y ≤ key x
  across : ∀ j x y, 0 < i → parent j = i → a[j]? = some x → a[parent i]? = some y → key y ≤ key x

theorem getElem?_swapIfInBounds {a : Array α} {i j : Nat} (hi : i < a.size) (hj : j < a.size)
    (k : Nat) : (a.swapIfInBounds i j)[k]? =
      if k = i then a[j]? else if k = j then a[i]? else a[k]? := by
  grind

theorem swapIfInBounds_perm (a : Array α) (i j : Nat) : (a.swapIfInBounds i j).Perm a := by
  unfold Array.swapIfInBounds
  split
  · split
    · exact Array.swap_perm _ _
    · exact Array.Perm.refl _
  · exact Array.Perm.refl _

variable {key}

theorem parent_lt {i : Nat} (hi : 0 < i) : parent i < i := by
  unfold parent
  omega

theorem size_pos_of_getElem? {a : Array α} {i : Nat} {x : α} (h : a[i]? = some x) : i < a.size :=
  (Array.getElem?_eq_some_iff.mp h).1

/-- The root is its own parent. -/
theorem pos_of_lt_parent {a : Array α} {i : Nat} {x y : α} (hx : a[i]? = some x)
    (hy : a[parent i]? = some y) (hlt : key x < key y) : 0 < i := by
  rcases Nat.eq_zero_or_pos i with rfl | hi
  · rw [show parent 0 = 0 from rfl, hx, Option.some.injEq] at hy
    exact absurd (hy ▸ hlt) (lt_irrefl _)
  · exact hi

/-- One move of the sift up: the entry at `i` has passed its parent. -/
theorem Hole.move {a : Array α} {i : Nat} {x y : α} (h : Hole key a i) (hx : a[i]? = some x)
    (hy : a[parent i]? = some y) (hlt : key x < key y) :
    Hole key (a.swapIfInBounds i (parent i)) (parent i) := by
  have hi := pos_of_lt_parent hx hy hlt
  have hpi := parent_lt hi
  have hswap := getElem?_swapIfInBounds (size_pos_of_getElem? hx) (size_pos_of_getElem? hy)
  constructor
  · intro j u w hj hu hw
    rw [hswap] at hu hw
    rw [if_neg hj] at hu
    by_cases hji : j = i
    · -- the old parent, now below the entry that passed it
      subst hji
      rw [if_pos rfl, hy, Option.some.injEq] at hu
      rw [if_neg hpi.ne, if_pos rfl, hx, Option.some.injEq] at hw
      exact hw ▸ hu ▸ hlt.le
    · rw [if_neg hji] at hu
      split at hw
      · next hpj => exact h.across j u w hi hpj hu hw
      · split at hw
        · next hpj =>
            rw [hx, Option.some.injEq] at hw
            exact hw ▸ hlt.le.trans (h.others j u y hji hu (hpj ▸ hy))
        · exact h.others j u w hji hu hw
  · intro j u w hp hj hu hw
    have hpp := parent_lt hp
    rw [hswap] at hu hw
    rw [if_neg (hpp.trans hpi).ne, if_neg hpp.ne] at hw
    have hyw : key w ≤ key y := h.others (parent i) y w hpi.ne hy hw
    by_cases hji : j = i
    · rw [if_pos hji, hy, Option.some.injEq] at hu
      exact hu ▸ hyw
    · have hjp : j ≠ parent i := by
        rintro rfl
        exact hpp.ne hj
      rw [if_neg hji, if_neg hjp] at hu
      exact hyw.trans (h.others j u y hji hu (hj ▸ hy))

/-- The sift up restores the order. -/
theorem siftUp_ordered (fuel : Nat) {a : Array α} {i : Nat} (hf : i < fuel) (h : Hole key a i) :
    Ordered key (siftUp key fuel a i) := by
  induction fuel generalizing a i with
  | zero => omega
  | succ fuel ih =>
      -- without a parent before which it belongs, the entry is in order too
      have hstop : (∀ x y, a[i]? = some x → a[parent i]? = some y → key y ≤ key x) →
          Ordered key a := by
        intro hle j x y hx hy
        by_cases hj : j = i
        · subst hj; exact hle x y hx hy
        · exact h.others j x y hj hx hy
      unfold siftUp
      split
      · next x y hx hy =>
          split
          · next hlt =>
              have hpi := parent_lt (pos_of_lt_parent hx hy hlt)
              exact ih (by omega) (h.move hx hy hlt)
          · next hlt =>
              refine hstop fun x' y' hx' hy' => ?_
              rw [hx, Option.some.injEq] at hx'
              rw [hy, Option.some.injEq] at hy'
              exact hx' ▸ hy' ▸ not_lt.mp hlt
      · next hnone => exact hstop fun x y hx hy => (hnone x y hx hy).elim

variable (key) in
theorem siftUp_perm (fuel : Nat) (a : Array α) (i : Nat) : (siftUp key fuel a i).Perm a := by
  induction fuel generalizing a i with
  | zero => exact Array.Perm.refl _
  | succ fuel ih =>
      unfold siftUp
      split
      · split
        · exact (ih _ _).trans (swapIfInBounds_perm _ _ _)
        · exact Array.Perm.refl _
      · exact Array.Perm.refl _

/-- What the chosen child is: a child, and not after its sibling. -/
theorem child_spec {a : Array α} {i c : Nat} (h : child key a i = some c) :
    parent c = i ∧ i < c ∧
      ∃ y, a[c]? = some y ∧ ∀ j z, 0 < j → parent j = i → a[j]? = some z → key y ≤ key z := by
  have hparent : parent (2 * i + 1) = i ∧ parent (2 * i + 2) = i := by
    unfold parent
    omega
  -- no child but these two
  have hleast : ∀ y, (∀ z, a[2 * i + 1]? = some z → key y ≤ key z) →
      (∀ z, a[2 * i + 2]? = some z → key y ≤ key z) →
        ∀ j z, 0 < j → parent j = i → a[j]? = some z → key y ≤ key z := by
    intro y hleft hright j z hj hp hz
    have hkid : j = 2 * i + 1 ∨ j = 2 * i + 2 := by
      unfold parent at hp
      omega
    rcases hkid with rfl | rfl
    · exact hleft z hz
    · exact hright z hz
  have hsame : ∀ {k : Nat} {y z : α}, a[k]? = some y → a[k]? = some z → z = y :=
    fun hy hz => Option.some.inj (hz.symm.trans hy)
  unfold child at h
  split at h
  · next x y hx hy =>
      rw [Option.some.injEq] at h
      split at h
      · next hlt =>
          subst h
          refine ⟨hparent.1, by omega, x, hx, hleast x (fun z hz => ?_) fun z hz => ?_⟩
          · exact (hsame hx hz).symm ▸ le_refl _
          · exact (hsame hy hz).symm ▸ hlt.le
      · next hlt =>
          subst h
          refine ⟨hparent.2, by omega, y, hy, hleast y (fun z hz => ?_) fun z hz => ?_⟩
          · exact (hsame hx hz).symm ▸ not_lt.mp hlt
          · exact (hsame hy hz).symm ▸ le_refl _
  · next x hx hy =>
      rw [Option.some.injEq] at h
      subst h
      refine ⟨hparent.1, by omega, x, hx, hleast x (fun z hz => ?_) fun z hz => ?_⟩
      · exact (hsame hx hz).symm ▸ le_refl _
      · rw [hy] at hz
        cases hz
  · cases h

/-- A hole without a child is at a leaf. -/
theorem no_children {a : Array α} {i : Nat} (h : child key a i = none) {j : Nat} {z : α}
    (hj : 0 < j) (hp : parent j = i) : a[j]? ≠ some z := by
  intro hz
  have hkid : j = 2 * i + 1 ∨ j = 2 * i + 2 := by
    unfold parent at hp
    omega
  have hsize := size_pos_of_getElem? hz
  have hleft : 2 * i + 1 < a.size := by omega
  unfold child at h
  rw [Array.getElem?_eq_getElem hleft] at h
  split at h
  · cases h
  · cases h
  · next hnone => cases hnone

/-- One move of the sink: the smaller child has passed the hole. -/
theorem Sinking.move {a : Array α} {i c : Nat} {x : α} (h : Sinking key a i) (hx : a[i]? = some x)
    (hc : child key a i = some c) : Sinking key (a.swapIfInBounds i c) c := by
  obtain ⟨hpc, hic, y, hy, hleast⟩ := child_spec hc
  have hswap := getElem?_swapIfInBounds (size_pos_of_getElem? hx) (size_pos_of_getElem? hy)
  have hpi : parent i ≤ i := by
    unfold parent
    omega
  constructor
  · intro j u w hj hpj hu hw
    rw [hswap] at hu hw
    by_cases hji : j = i
    · subst hji
      rw [if_pos rfl, hy, Option.some.injEq] at hu
      rcases Nat.eq_zero_or_pos j with rfl | hpos
      · rw [show parent 0 = 0 from rfl, if_pos rfl, hy, Option.some.injEq] at hw
        exact hw ▸ hu ▸ le_refl _
      · have hlt := parent_lt hpos
        rw [if_neg hlt.ne, if_neg (hlt.trans hic).ne] at hw
        exact hu ▸ h.across c y w hpos hpc hy hw
    · rw [if_neg hji, if_neg hj] at hu
      by_cases hpji : parent j = i
      · rw [if_pos hpji, hy, Option.some.injEq] at hw
        have hpos : 0 < j := by
          rcases Nat.eq_zero_or_pos j with rfl | hpos
          · exact absurd hpji hji
          · exact hpos
        exact hw ▸ hleast j u hpos hpji hu
      · rw [if_neg hpji, if_neg hpj] at hw
        exact h.others j u w hji hpji hu hw
  · intro j u w _ hpj hu hw
    have hji : j ≠ i := by
      rintro rfl
      omega
    have hjc : j ≠ c := by
      rintro rfl
      omega
    rw [hswap] at hu hw
    rw [if_neg hji, if_neg hjc] at hu
    rw [if_pos hpc, hy, Option.some.injEq] at hw
    exact hw ▸ h.others j u y hji (by omega) hu (hpj ▸ hy)

/-- At a leaf nothing is below the hole. -/
theorem hole_of_leaf {a : Array α} {i : Nat} (h : Sinking key a i)
    (hleaf : ∀ j z, 0 < j → parent j = i → a[j]? ≠ some z) : Hole key a i := by
  refine ⟨fun j x y hj hx hy => ?_, h.across⟩
  by_cases hp : parent j = i
  · rcases Nat.eq_zero_or_pos j with rfl | hpos
    · exact absurd hp hj
    · exact absurd hx (hleaf j x hpos hp)
  · exact h.others j x y hj hp hx hy

/-- The sink ends with the hole at a leaf. -/
theorem sink_spec (fuel : Nat) {a : Array α} {i : Nat} (hf : a.size ≤ fuel + i)
    (h : Sinking key a i) :
    Hole key (sink key fuel a i).1 (sink key fuel a i).2 ∧
      (i < a.size → (sink key fuel a i).2 < a.size) := by
  induction fuel generalizing a i with
  | zero =>
      have hout : ∀ j z, 0 < j → parent j = i → a[j]? ≠ some z := by
        intro j z hj hp hz
        have hlt := parent_lt hj
        have hsize := size_pos_of_getElem? hz
        omega
      exact ⟨hole_of_leaf h hout, id⟩
  | succ fuel ih =>
      unfold sink
      cases hc : child key a i with
      | none => exact ⟨hole_of_leaf h fun j z hj hp => no_children hc hj hp, id⟩
      | some c =>
          obtain ⟨hpc, hic, y, hy, -⟩ := child_spec hc
          have hcs := size_pos_of_getElem? hy
          have hx : a[i]? = some a[i] := Array.getElem?_eq_getElem (hic.trans hcs)
          have hsize : (a.swapIfInBounds i c).size = a.size := Array.size_swapIfInBounds
          obtain ⟨h1, h2⟩ := ih (by rw [hsize]; omega) (h.move hx hc)
          exact ⟨h1, fun _ => hsize ▸ h2 (by rw [hsize]; exact hcs)⟩

variable (key) in
theorem sink_perm (fuel : Nat) (a : Array α) (i : Nat) : (sink key fuel a i).1.Perm a := by
  induction fuel generalizing a i with
  | zero => exact Array.Perm.refl _
  | succ fuel ih =>
      unfold sink
      split
      · exact (ih _ _).trans (swapIfInBounds_perm _ _ _)
      · exact Array.Perm.refl _

/-! ## 2. The operations -/

theorem push_ordered {a : Array α} (h : Ordered key a) (x : α) : Ordered key (push key a x) := by
  refine siftUp_ordered _ (Nat.lt_succ_self _) ⟨fun j u w hj hu hw => ?_, fun j u w _ hp hu _ => ?_⟩
  · have hsize := size_pos_of_getElem? hu
    rw [Array.size_push] at hsize
    have hpj : parent j < a.size := by
      unfold parent
      omega
    rw [Array.getElem?_push_lt (by omega)] at hu
    rw [Array.getElem?_push_lt hpj] at hw
    exact h j u w (by rw [← hu]; simp) (by rw [← hw]; simp)
  · have hsize := size_pos_of_getElem? hu
    rw [Array.size_push] at hsize
    unfold parent at hp
    omega

/-- The array `pop` works on: the last entry in the place of the first. -/
theorem pop_start {a : Array α} {x : α} (hx : a[0]? = some x) :
    ((a.swapIfInBounds 0 (a.size - 1)).pop.push x).Perm a := by
  have h0 := size_pos_of_getElem? hx
  have hlast : a.size - 1 < a.size := by omega
  have hsize : (a.swapIfInBounds 0 (a.size - 1)).size = a.size := Array.size_swapIfInBounds
  have e : (a.swapIfInBounds 0 (a.size - 1)).pop.push x = a.swapIfInBounds 0 (a.size - 1) := by
    refine Array.ext_getElem? fun k => ?_
    rw [Array.getElem?_push, Array.size_pop, Array.getElem?_pop, hsize,
      getElem?_swapIfInBounds h0 hlast, hx]
    by_cases hk : k = a.size - 1
    · by_cases hk0 : k = 0
      · rw [if_pos hk, if_pos hk0, ← hk, hk0, hx]
      · rw [if_pos hk, if_neg hk0, if_pos hk]
    · rw [if_neg hk]
      by_cases hlt : k < a.size - 1
      · rw [if_pos hlt]
      · have hge : a.size ≤ k := by omega
        rw [if_neg hlt, if_neg (by omega), if_neg hk, Array.getElem?_eq_none hge]
  rw [e]
  exact swapIfInBounds_perm a 0 (a.size - 1)

variable (key) in
theorem pop_perm {a : Array α} {x : α} (hx : a[0]? = some x) : ((pop key a).push x).Perm a :=
  (((siftUp_perm key _ _ _).trans (sink_perm key _ _ _)).push x).trans (pop_start hx)

theorem pop_ordered {a : Array α} (h : Ordered key a) : Ordered key (pop key a) := by
  have hsink : Sinking key (a.swapIfInBounds 0 (a.size - 1)).pop 0 := by
    refine ⟨fun j u w hj hpj hu hw => ?_, fun j u w h0 => absurd h0 (Nat.lt_irrefl 0)⟩
    have hsize := size_pos_of_getElem? hu
    rw [Array.size_pop, Array.size_swapIfInBounds] at hsize
    have hpl := parent_lt (Nat.pos_of_ne_zero hj)
    have hlast : a.size - 1 < a.size := by omega
    rw [Array.getElem?_pop, Array.size_swapIfInBounds, if_pos (by omega),
      getElem?_swapIfInBounds (by omega) hlast, if_neg hj, if_neg (by omega)] at hu
    rw [Array.getElem?_pop, Array.size_swapIfInBounds, if_pos (by omega),
      getElem?_swapIfInBounds (by omega) hlast, if_neg hpj, if_neg (by omega)] at hw
    exact h j u w hu hw
  obtain ⟨hhole, hlt⟩ := sink_spec (a.swapIfInBounds 0 (a.size - 1)).pop.size
    (Nat.le_add_right _ _) hsink
  rcases Nat.eq_zero_or_pos (a.swapIfInBounds 0 (a.size - 1)).pop.size with h0 | hpos
  · intro j u w hu
    have hsize := size_pos_of_getElem? hu
    have hperm : (pop key a).Perm (a.swapIfInBounds 0 (a.size - 1)).pop :=
      (siftUp_perm key _ _ _).trans (sink_perm key _ _ _)
    rw [hperm.size_eq, h0] at hsize
    exact absurd hsize (Nat.not_lt_zero j)
  · exact siftUp_ordered _ (hlt hpos) hhole

/-- The root is not after any entry. -/
theorem root_le {a : Array α} (h : Ordered key a) {x : α} (hx : a[0]? = some x) (j : Nat) {y : α}
    (hy : a[j]? = some y) : key x ≤ key y := by
  induction j using Nat.strong_induction_on generalizing y with
  | _ j ih =>
      rcases Nat.eq_zero_or_pos j with rfl | hpos
      · rw [hx, Option.some.injEq] at hy
        exact hy ▸ le_refl _
      · have hpl := parent_lt hpos
        have hsize := size_pos_of_getElem? hy
        have hp : a[parent j]? = some a[parent j] := Array.getElem?_eq_getElem (hpl.trans hsize)
        exact (ih (parent j) hpl hp).trans (h j y _ hy hp)

variable (key)

/-- **The heap of the standard library is a priority queue.** -/
def priorityQueue : PriorityQueue α key where
  Carrier := { a : Array α // Ordered key a }
  elems q := q.1.toList
  empty := ⟨#[], fun j x y hx => by simp at hx⟩
  push q x := ⟨push key q.1 x, push_ordered q.2 x⟩
  top? q := q.1[0]?
  pop q := ⟨pop key q.1, pop_ordered q.2⟩
  elems_empty := rfl
  elems_push q x := by
    have h := Array.perm_iff_toList_perm.mp
      (siftUp_perm key (q.1.size + 1) (q.1.push x) q.1.size)
    rw [Array.toList_push] at h
    exact Multiset.coe_eq_coe.mpr (h.trans (List.perm_append_singleton _ _))
  elems_of_top?_none q h := by
    have h0 : q.1.size ≤ 0 := Array.getElem?_eq_none_iff.mp h
    simpa using h0
  elems_pop q x h := by
    have hp := Array.perm_iff_toList_perm.mp (pop_perm key h)
    rw [Array.toList_push] at hp
    exact Multiset.coe_eq_coe.mpr (hp.symm.trans (List.perm_append_singleton _ _))
  key_top?_le q x h y hy := by
    obtain ⟨j, hj⟩ := List.mem_iff_getElem?.mp (Multiset.mem_coe.mp hy)
    exact root_le q.2 h j (by rw [← hj]; simp)

end Library.BinaryHeap
