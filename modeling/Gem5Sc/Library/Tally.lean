/-
  File:      Gem5Sc/Library/Tally.lean
  Subject:   Cells that count in a commutative monoid, and what their sum knows of the events.

  A cell of type `κ` holds a value in a commutative monoid `M`. An event acts on one cell; what
  makes totals independent of where the events land is that every event adds something fixed to
  the value of the cell it hits, whatever that cell has seen before.

  * `Adds value act d` -- `act` adds `d` to the value of every cell;
  * `Adds.id`, `Adds.comp` -- such acts compose;
  * `sum_modify` -- an act on any one cell of a list adds the same `d` to the sum of the list;
  * `map_set_same` -- a new cell with the value of the one it replaces changes no value;
  * `sum_exchange` -- where values can be cancelled: what a new cell takes in or gives away, the
    list takes in or gives away.
-/
import Mathlib.Algebra.BigOperators.Group.List.Basic

namespace Library

variable {κ M : Type*} [AddCommMonoid M] {value : κ → M}

/-- `act` adds `d` to the value of every cell. -/
def Adds (value : κ → M) (act : κ → κ) (d : M) : Prop := ∀ x, value (act x) = value x + d

/-- An act that leaves every value alone adds nothing. -/
theorem Adds.zero {act : κ → κ} (h : ∀ x, value (act x) = value x) : Adds value act 0 := by
  intro x
  rw [h, add_zero]

/-- One act after another adds both contributions. -/
theorem Adds.comp {f g : κ → κ} {d e : M} (hg : Adds value g e) (hf : Adds value f d) :
    Adds value (fun x => g (f x)) (d + e) := by
  intro x
  rw [hg, hf, add_assoc]

/-- A cell is replaced by one with the same value. -/
theorem map_set_same {α β : Type*} (g : α → β) {l : List α} {i : Nat} {x y : α}
    (hi : l[i]? = some y) (hx : g x = g y) : (l.set i x).map g = l.map g := by
  obtain ⟨hlt, rfl⟩ := List.getElem?_eq_some_iff.mp hi
  rw [List.map_set, hx, ← List.map_set, List.set_getElem_self]

/-- An act on one cell, whichever it is, adds its contribution to the sum over all cells. -/
theorem sum_modify {act : κ → κ} {d : M} (h : Adds value act d) {cells : List κ} {i : Nat}
    (hi : i < cells.length) :
    ((cells.modify i act).map value).sum = (cells.map value).sum + d := by
  induction cells generalizing i with
  | nil => exact absurd hi (Nat.not_lt_zero i)
  | cons x cells ih =>
      cases i with
      | zero =>
          simp only [List.modify_zero_cons, List.map_cons, List.sum_cons, h x]
          exact add_right_comm _ _ _
      | succ i =>
          simp only [List.modify_succ_cons, List.map_cons, List.sum_cons,
            ih (Nat.lt_of_succ_lt_succ hi)]
          exact (add_assoc _ _ _).symm

/-- **An exchange with one cell is an exchange with the list.** `a` becomes `a'` by what the new
    cell has more or less than the old one. -/
theorem sum_exchange {N : Type*} [AddCancelCommMonoid N] (value : κ → N) {cells : List κ} {i : Nat}
    {x y : κ} {a a' : N} (hi : i < cells.length)
    (hx : a' + value x = a + value (cells.getD i y)) :
    a' + ((cells.set i x).map value).sum = a + (cells.map value).sum := by
  induction cells generalizing i with
  | nil => exact absurd hi (Nat.not_lt_zero i)
  | cons c cells ih =>
      cases i with
      | zero =>
          rw [List.getD_cons_zero] at hx
          simp only [List.set_cons_zero, List.map_cons, List.sum_cons, ← add_assoc, hx]
      | succ i =>
          rw [List.getD_cons_succ] at hx
          have hrest := ih (Nat.lt_of_succ_lt_succ hi) hx
          simp only [List.set_cons_succ, List.map_cons, List.sum_cons, add_left_comm _ (value c),
            hrest]

end Library
