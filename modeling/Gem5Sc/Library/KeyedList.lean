/-
  File:      Gem5Sc/Library/KeyedList.lean
  Subject:   Association lists in the order of their keys, as an ordered map iterates over them.

  The order is strict, so a key occurs once and the list is determined by its members
  (`Ascending.eq_of_perm`). What is built by inserting one member after another is therefore
  compared with what is built by sorting (`Ascending.eq_sortByKey`) by counting members only.

  `mapValuesM` runs a computation that may throw on every value, in the order of the keys. Where
  it leaves some members alone, it throws what it throws on the others (`mapValuesM_filter_error`,
  `mapValuesM_filter_ok`).
-/
import Gem5Sc.Library.Fallible
import Mathlib.Order.Lattice
import Mathlib.Data.List.Perm.Basic

namespace Library

universe u v

section Ordered

variable {κ : Type u} {α : Type v} [LinearOrder κ] {l l' : List (κ × α)} {k : κ}

/-- The keys stand in strictly ascending order. -/
def Ascending (l : List (κ × α)) : Prop := l.Pairwise fun a b => a.1 < b.1

/-- A new member goes before the first member with a larger key. -/
def insertKey (l : List (κ × α)) (k : κ) (v : α) : List (κ × α) :=
  l.takeWhile (fun e => e.1 < k) ++ (k, v) :: l.dropWhile (fun e => e.1 < k)

/-- The members in the order of their keys. -/
def sortByKey (l : List (κ × α)) : List (κ × α) := l.mergeSort fun a b => a.1 ≤ b.1

theorem Ascending.filter (h : Ascending l) (p : κ × α → Bool) : Ascending (l.filter p) :=
  List.Pairwise.filter p h

/-- Two members with one key are one member. -/
theorem Ascending.eq_of_key (h : Ascending l) {a b : κ × α} (ha : a ∈ l) (hb : b ∈ l)
    (hab : a.1 = b.1) : a = b := by
  induction l with
  | nil => exact absurd ha List.not_mem_nil
  | cons e l ih =>
      obtain ⟨he, hl⟩ := List.pairwise_cons.mp h
      rcases List.mem_cons.mp ha with rfl | hal
      · rcases List.mem_cons.mp hb with rfl | hbl
        · rfl
        · exact absurd hab (ne_of_lt (he b hbl))
      · rcases List.mem_cons.mp hb with rfl | hbl
        · exact absurd hab.symm (ne_of_lt (he a hal))
        · exact ih hl hal hbl

/-- **An ascending list is determined by its members.** -/
theorem Ascending.eq_of_perm (h : Ascending l) (h' : Ascending l') (hp : l.Perm l') : l = l' :=
  List.Perm.eq_of_pairwise (fun _ _ _ _ hab hba => absurd hab (lt_asymm hba)) h h' hp

theorem sortByKey_perm (l : List (κ × α)) : (sortByKey l).Perm l := List.mergeSort_perm l _

theorem sortByKey_pairwise (l : List (κ × α)) :
    (sortByKey l).Pairwise fun a b => decide (a.1 ≤ b.1) = true :=
  List.pairwise_mergeSort (by simpa using fun a _ b _ c _ => le_trans)
    (by simpa using fun a _ b _ => le_total a b) l

theorem Ascending.eq_sortByKey (h : Ascending l) (hp : l.Perm l') : l = sortByKey l' := by
  have hle : l.Pairwise fun a b => decide (a.1 ≤ b.1) = true :=
    List.Pairwise.imp (fun hab => decide_eq_true (le_of_lt hab)) h
  refine List.Perm.eq_of_pairwise (fun a b ha hb hab hba => ?_) hle (sortByKey_pairwise l')
    (hp.trans (sortByKey_perm l').symm)
  have hb' : b ∈ l := hp.symm.subset ((sortByKey_perm l').subset hb)
  exact h.eq_of_key ha hb' (le_antisymm (of_decide_eq_true hab) (of_decide_eq_true hba))

theorem ascending_sortByKey (h : l.Pairwise fun a b => a.1 ≠ b.1) : Ascending (sortByKey l) := by
  have hne : (sortByKey l).Pairwise fun a b => a.1 ≠ b.1 :=
    h.perm (sortByKey_perm l).symm fun hxy => hxy.symm
  exact ((sortByKey_pairwise l).and hne).imp fun hab =>
    lt_of_le_of_ne (of_decide_eq_true hab.1) hab.2

/-- Only the keys matter. -/
theorem Ascending.of_keys {β : Type*} {l₂ : List (κ × β)} (h : Ascending l)
    (hk : l₂.map Prod.fst = l.map Prod.fst) : Ascending l₂ := by
  have h1 : (l.map Prod.fst).Pairwise (· < ·) := List.pairwise_map.mpr h
  rw [← hk] at h1
  exact List.pairwise_map.mp h1

theorem insertKey_perm (l : List (κ × α)) (k : κ) (v : α) :
    (insertKey l k v).Perm ((k, v) :: l) := by
  unfold insertKey
  refine List.perm_middle.trans (List.Perm.cons _ ?_)
  rw [List.takeWhile_append_dropWhile]

theorem ascending_insertKey (h : Ascending l) (hk : ∀ e ∈ l, e.1 ≠ k) (v : α) :
    Ascending (insertKey l k v) := by
  unfold insertKey
  induction l with
  | nil => exact List.pairwise_singleton _ _
  | cons e l ih =>
      obtain ⟨he, hl⟩ := List.pairwise_cons.mp h
      have hne : e.1 ≠ k := hk e List.mem_cons_self
      by_cases hlt : e.1 < k
      · rw [List.takeWhile_cons_of_pos (by simpa using hlt),
          List.dropWhile_cons_of_pos (by simpa using hlt)]
        refine List.pairwise_cons.mpr ⟨fun x hx => ?_,
          ih hl fun e he => hk e (List.mem_cons_of_mem _ he)⟩
        rcases List.mem_cons.mp ((insertKey_perm l k v).subset hx) with rfl | hx
        · exact hlt
        · exact he x hx
      · have hgt : k < e.1 := lt_of_le_of_ne (not_lt.mp hlt) (Ne.symm hne)
        rw [List.takeWhile_cons_of_neg (by simpa using hlt),
          List.dropWhile_cons_of_neg (by simpa using hlt)]
        refine List.pairwise_cons.mpr ⟨fun x hx => ?_, h⟩
        rcases List.mem_cons.mp hx with rfl | hx
        · exact hgt
        · exact lt_trans hgt (he x hx)

theorem lookup_isNone_iff : (l.lookup k).isNone = true ↔ ∀ e ∈ l, e.1 ≠ k := by
  rw [Option.isNone_iff_eq_none, List.lookup_eq_none_iff]
  refine forall₂_congr fun e _ => ?_
  simp [ne_comm]

theorem Ascending.lookup_eq (h : Ascending l) {e : κ × α} (he : e ∈ l) :
    l.lookup e.1 = some e.2 := by
  induction l with
  | nil => exact absurd he List.not_mem_nil
  | cons x l ih =>
      obtain ⟨hx, hl⟩ := List.pairwise_cons.mp h
      rcases List.mem_cons.mp he with rfl | he
      · exact List.lookup_cons_self
      · have hne : (e.1 == x.1) = false := beq_eq_false_iff_ne.mpr (ne_of_gt (hx e he))
        rw [List.lookup_cons, hne]
        exact ih hl he

end Ordered

theorem mem_of_lookup {κ : Type u} {α : Type v} [DecidableEq κ] {l : List (κ × α)} {k : κ} {v : α}
    (h : l.lookup k = some v) : (k, v) ∈ l := by
  induction l with
  | nil => cases h
  | cons e l ih =>
      rw [List.lookup_cons] at h
      by_cases hk : k = e.1
      · subst hk
        rw [beq_self_eq_true] at h
        cases h
        exact List.mem_cons_self
      · rw [beq_eq_false_iff_ne.mpr hk] at h
        exact List.mem_cons_of_mem _ (ih h)

/-- Where keys are distinct, a key has one entry. -/
theorem filter_key_eq_singleton {κ : Type u} {α : Type v} [DecidableEq κ] {l : List (κ × α)}
    (h : (l.map Prod.fst).Nodup) {k : κ} {x : α} (hx : (k, x) ∈ l) :
    (l.filter fun e => e.1 = k) = [(k, x)] := by
  induction l with
  | nil => exact absurd hx List.not_mem_nil
  | cons e l ih =>
      obtain ⟨hnot, hnodup⟩ := List.nodup_cons.mp h
      rcases List.mem_cons.mp hx with rfl | hx
      · have hrest : (l.filter fun e => e.1 = k) = [] := by
          refine List.filter_eq_nil_iff.mpr fun e' he' hk => hnot ?_
          exact List.mem_map.mpr ⟨e', he', of_decide_eq_true hk⟩
        rw [List.filter_cons_of_pos (by simp), hrest]
      · rw [List.filter_cons_of_neg, ih hnodup hx]
        intro hk
        rw [of_decide_eq_true hk] at hnot
        exact hnot (List.mem_map.mpr ⟨(k, x), hx, rfl⟩)

/-- A key that occurs with one value only. -/
theorem lookup_of_unique {κ : Type u} {α : Type v} [DecidableEq κ] {l : List (κ × α)} {k : κ}
    {v : α} (h : (k, v) ∈ l) (honly : ∀ e ∈ l, e.1 = k → e.2 = v) : l.lookup k = some v := by
  cases hl : l.lookup k with
  | none =>
      have hne := List.lookup_eq_none_iff.mp hl (k, v) h
      simp at hne
  | some w => exact congrArg some (honly (k, w) (mem_of_lookup hl) rfl)

/-! ## Computing with the values -/

section Values

variable {ε : Type u} {κ α β : Type v} {f : α → Except ε β}

/-- `f` on every value, from the first member on. -/
def mapValuesM (f : α → Except ε β) (l : List (κ × α)) : Except ε (List (κ × β)) :=
  l.mapM fun e => do
    let v ← f e.2
    return (e.1, v)

theorem mapValuesM_cons (e : κ × α) (l : List (κ × α)) :
    mapValuesM f (e :: l) =
      f e.2 >>= fun v => mapValuesM f l >>= fun l' => .ok ((e.1, v) :: l') := by
  unfold mapValuesM
  rw [List.mapM_cons]
  cases f e.2 <;> rfl

/-- The keys stay as they are, and every value is the result of its own computation. -/
theorem mapValuesM_ok {l : List (κ × α)} {l' : List (κ × β)} (h : mapValuesM f l = .ok l') :
    l'.map Prod.fst = l.map Prod.fst ∧ (∀ x ∈ l', ∃ e ∈ l, e.1 = x.1 ∧ f e.2 = .ok x.2) ∧
      ∀ e ∈ l, ∃ x ∈ l', x.1 = e.1 ∧ f e.2 = .ok x.2 := by
  induction l generalizing l' with
  | nil =>
      cases h
      exact ⟨rfl, fun _ h => absurd h List.not_mem_nil, fun _ h => absurd h List.not_mem_nil⟩
  | cons e l ih =>
      rw [mapValuesM_cons] at h
      obtain ⟨v, hv, h⟩ := bind_eq_ok.mp h
      obtain ⟨rest, hrest, h⟩ := bind_eq_ok.mp h
      cases h
      obtain ⟨h1, h2, h3⟩ := ih hrest
      refine ⟨by rw [List.map_cons, List.map_cons, h1], fun x hx => ?_, fun y hy => ?_⟩
      · rcases List.mem_cons.mp hx with rfl | hx
        · exact ⟨e, List.mem_cons_self, rfl, hv⟩
        · obtain ⟨y, hy, hxy⟩ := h2 x hx
          exact ⟨y, List.mem_cons_of_mem _ hy, hxy⟩
      · rcases List.mem_cons.mp hy with rfl | hy
        · exact ⟨_, List.mem_cons_self, rfl, hv⟩
        · obtain ⟨x, hx, hxy⟩ := h3 y hy
          exact ⟨x, List.mem_cons_of_mem _ hx, hxy⟩

theorem mapValuesM_congr {f g : α → Except ε β} {l : List (κ × α)}
    (h : ∀ e ∈ l, f e.2 = g e.2) : mapValuesM f l = mapValuesM g l := by
  induction l with
  | nil => rfl
  | cons e l ih =>
      rw [mapValuesM_cons, mapValuesM_cons, h e List.mem_cons_self,
        ih fun x hx => h x (List.mem_cons_of_mem _ hx)]

/-- Where every value is its own result, so is the list. -/
theorem mapValuesM_id {f : α → Except ε α} {l : List (κ × α)} (h : ∀ e ∈ l, f e.2 = .ok e.2) :
    mapValuesM f l = .ok l := by
  induction l with
  | nil => rfl
  | cons e l ih =>
      rw [mapValuesM_cons, h e List.mem_cons_self, ih fun x hx => h x (List.mem_cons_of_mem _ hx)]
      rfl

section Filter

variable {f : α → Except ε α} {p : κ × α → Bool} {l : List (κ × α)}

/-- Members that are their own result do not change what is thrown. -/
theorem mapValuesM_filter_error (hid : ∀ e ∈ l, p e = false → f e.2 = .ok e.2) {x : ε}
    (h : mapValuesM f (l.filter p) = .error x) : mapValuesM f l = .error x := by
  induction l with
  | nil => cases h
  | cons e l ih =>
      have ih := ih fun y hy => hid y (List.mem_cons_of_mem _ hy)
      rw [mapValuesM_cons]
      cases hp : p e with
      | false =>
          rw [List.filter_cons_of_neg (by simp [hp])] at h
          rw [hid e List.mem_cons_self hp, ih h]
          rfl
      | true =>
          rw [List.filter_cons_of_pos hp, mapValuesM_cons] at h
          cases hv : f e.2 with
          | error y =>
              rw [hv] at h
              exact h
          | ok v =>
              cases hrest : mapValuesM f (l.filter p) with
              | error y =>
                  rw [hv, hrest] at h
                  rw [ih (hrest.trans h)]
                  rfl
              | ok rest =>
                  rw [hv, hrest] at h
                  cases h

/-- And they stand as they are among the results of the others. -/
theorem mapValuesM_filter_ok (hid : ∀ e ∈ l, p e = false → f e.2 = .ok e.2)
    {l₁ : List (κ × α)} (h : mapValuesM f (l.filter p) = .ok l₁) :
    ∃ l', mapValuesM f l = .ok l' ∧ l'.Perm (l₁ ++ l.filter fun e => !p e) := by
  induction l generalizing l₁ with
  | nil =>
      cases h
      exact ⟨[], rfl, List.Perm.refl _⟩
  | cons e l ih =>
      have ih := @ih fun y hy => hid y (List.mem_cons_of_mem _ hy)
      rw [mapValuesM_cons]
      cases hp : p e with
      | false =>
          rw [List.filter_cons_of_neg (by simp [hp])] at h
          obtain ⟨l', hl', hperm⟩ := ih h
          rw [hid e List.mem_cons_self hp, hl', List.filter_cons_of_pos (by simp [hp])]
          exact ⟨e :: l', rfl, (hperm.cons e).trans List.perm_middle.symm⟩
      | true =>
          rw [List.filter_cons_of_pos hp, mapValuesM_cons] at h
          obtain ⟨v, hv, h⟩ := bind_eq_ok.mp h
          obtain ⟨rest, hrest, h⟩ := bind_eq_ok.mp h
          cases h
          obtain ⟨l', hl', hperm⟩ := ih hrest
          rw [hv, hl', List.filter_cons_of_neg (by simp [hp])]
          exact ⟨(e.1, v) :: l', rfl, hperm.cons _⟩

end Filter

end Values

end Library
