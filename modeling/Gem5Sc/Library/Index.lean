/-
  File:      Gem5Sc/Library/Index.lean
  Subject:   AN INDEX BESIDE A SEARCH: when a map that is filled from a log finds what a linear
             search over the same entries finds.

  The index keeps the last entry of a key, the search returns the first, and it may go through the
  entries in another order than the one in which they were put in.

  * `isSome_get_fill_iff` -- both know the same keys;
  * `get_fill_eq_search_iff` -- for a key they have the same value exactly when the entry searched
    first and the entry put in last have it.
-/
import Mathlib.Data.List.Perm.Basic

namespace Library

/-! ## 1. The first and the last of a kind -/

section Occurrence

variable {ε : Type*} {p : ε → Prop} {l : List ε} {x : ε}

/-- The first of the list with the property. -/
def First (p : ε → Prop) (l : List ε) (x : ε) : Prop :=
  p x ∧ ∃ before after, l = before ++ x :: after ∧ ∀ y ∈ before, ¬ p y

/-- The last of the list with the property. -/
def Last (p : ε → Prop) (l : List ε) (x : ε) : Prop :=
  p x ∧ ∃ before after, l = before ++ x :: after ∧ ∀ y ∈ after, ¬ p y

theorem find?_eq_some_iff_first [DecidablePred p] :
    l.find? (fun y => decide (p y)) = some x ↔ First p l x := by
  rw [List.find?_eq_some_iff_append, decide_eq_true_iff]
  unfold First
  simp only [Bool.not_eq_true', decide_eq_false_iff_not]

theorem first_reverse_iff : First p l.reverse x ↔ Last p l x := by
  constructor
  · intro ⟨hx, before, after, hl, hbefore⟩
    refine ⟨hx, after.reverse, before.reverse, ?_, fun y hy => hbefore y (List.mem_reverse.mp hy)⟩
    rw [← List.reverse_reverse l, hl, List.reverse_append, List.reverse_cons, List.append_assoc,
      List.singleton_append]
  · intro ⟨hx, before, after, hl, hafter⟩
    refine ⟨hx, after.reverse, before.reverse, ?_, fun y hy => hafter y (List.mem_reverse.mp hy)⟩
    rw [hl, List.reverse_append, List.reverse_cons, List.append_assoc, List.singleton_append]

theorem find?_reverse_eq_some_iff_last [DecidablePred p] :
    l.reverse.find? (fun y => decide (p y)) = some x ↔ Last p l x :=
  find?_eq_some_iff_first.trans first_reverse_iff

end Occurrence

/-! ## 2. The index -/

/-- A map reads what was written last. -/
structure LawfulIndex {ι κ α : Type*} (get : ι → κ → Option α) (put : ι → κ → α → ι) : Prop where
  get_self : ∀ m k v, get (put m k v) k = some v
  get_other : ∀ m k v k', k' ≠ k → get (put m k v) k' = get m k'

section Fill

variable {ι κ α ε : Type*} [DecidableEq κ] {get : ι → κ → Option α} {put : ι → κ → α → ι}
variable {key : ε → κ} {val : ε → α} {m : ι} {k : κ} {log searched : List ε}

/-- The map after the entries of the log have been put in, in their order. -/
def fill (put : ι → κ → α → ι) (key : ε → κ) (val : ε → α) (m : ι) (log : List ε) : ι :=
  log.foldl (fun m e => put m (key e) (val e)) m

/-- **What the index has is the last entry of the log**, or what it had before. -/
theorem get_fill (h : LawfulIndex get put) (m : ι) (log : List ε) (k : κ) :
    get (fill put key val m log) k =
      ((log.reverse.find? fun e => key e = k).map val).or (get m k) := by
  induction log generalizing m with
  | nil => rfl
  | cons e log ih =>
      have hfill : fill put key val m (e :: log) = fill put key val (put m (key e) (val e)) log :=
        rfl
      rw [hfill, ih, List.reverse_cons, List.find?_append]
      cases log.reverse.find? fun e => key e = k with
      | some y => rfl
      | none =>
          by_cases hk : key e = k
          · subst hk
            simp [h.get_self]
          · rw [h.get_other _ _ _ _ (Ne.symm hk)]
            simp [hk]

/-- **The same keys.** -/
theorem isSome_get_fill_iff (h : LawfulIndex get put) (hm : get m k = none)
    (hperm : searched.Perm log) :
    (get (fill put key val m log) k).isSome = true ↔
      (searched.find? fun e => key e = k).isSome = true := by
  rw [get_fill h, hm, Option.or_none, Option.isSome_map, List.find?_isSome, List.find?_isSome]
  refine exists_congr fun e => and_congr_left' ?_
  rw [List.mem_reverse]
  exact hperm.mem_iff.symm

/-- **The same value**: exactly when the entry searched first and the entry put in last have it. -/
theorem get_fill_eq_search_iff (h : LawfulIndex get put) (hm : get m k = none)
    (hperm : searched.Perm log) :
    get (fill put key val m log) k = (searched.find? fun e => key e = k).map val ↔
      ∀ x y, First (key · = k) searched x → Last (key · = k) log y → val x = val y := by
  have hsame : (get (fill put key val m log) k).isSome = true ↔
      (searched.find? fun e => key e = k).isSome = true := isSome_get_fill_iff h hm hperm
  rw [get_fill h, hm, Option.or_none] at hsame ⊢
  rw [Option.isSome_map] at hsame
  constructor
  · intro hvalue x y hx hy
    rw [find?_eq_some_iff_first.mpr hx, find?_reverse_eq_some_iff_last.mpr hy] at hvalue
    exact (Option.some.inj hvalue).symm
  · intro hpaths
    cases hfirst : searched.find? fun e => key e = k with
    | none =>
        rw [hfirst, Option.isSome_none, Bool.false_eq_true, iff_false] at hsame
        rw [Option.not_isSome_iff_eq_none.mp hsame]
    | some x =>
        rw [hfirst, Option.isSome_some, eq_self, iff_true] at hsame
        obtain ⟨y, hlast⟩ := Option.isSome_iff_exists.mp hsame
        rw [hlast, Option.map_some, Option.map_some]
        exact congrArg some (hpaths x y (find?_eq_some_iff_first.mp hfirst)
          (find?_reverse_eq_some_iff_last.mp hlast)).symm

end Fill

end Library
