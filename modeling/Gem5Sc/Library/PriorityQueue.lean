/-
  File:      Gem5Sc/Library/PriorityQueue.lean
  Subject:   What a priority queue promises, whatever structure is behind it.

  `top?` gives an entry with the least key; which of several it is stays open. `elems` says what
  the queue holds, as a multiset: every operation is specified by it, so a proof about a program
  that uses a queue never looks at the carrier. `BinaryHeap.lean` is one implementation.
-/
import Mathlib.Data.Multiset.AddSub
import Mathlib.Data.Multiset.Filter
import Mathlib.Order.Lattice

namespace Library

universe u v

/-- A priority queue of entries of type `α`, least `key` first. -/
structure PriorityQueue (α : Type u) {κ : Type v} [LinearOrder κ] (key : α → κ) where
  Carrier : Type u
  elems : Carrier → Multiset α
  empty : Carrier
  push : Carrier → α → Carrier
  top? : Carrier → Option α
  pop : Carrier → Carrier
  elems_empty : elems empty = 0
  elems_push : ∀ q x, elems (push q x) = x ::ₘ elems q
  elems_of_top?_none : ∀ q, top? q = none → elems q = 0
  elems_pop : ∀ q x, top? q = some x → elems q = x ::ₘ elems (pop q)
  key_top?_le : ∀ q x, top? q = some x → ∀ y ∈ elems q, key x ≤ key y

namespace PriorityQueue

variable {α : Type u} {κ : Type v} [LinearOrder κ] {key : α → κ} (Q : PriorityQueue α key)

theorem mem_of_top? {q : Q.Carrier} {x : α} (h : Q.top? q = some x) : x ∈ Q.elems q := by
  rw [Q.elems_pop q x h]
  exact Multiset.mem_cons_self x _

/-- What is left after a pop is not before what was popped. -/
theorem le_of_mem_pop {q : Q.Carrier} {x y : α} (h : Q.top? q = some x)
    (hy : y ∈ Q.elems (Q.pop q)) : key x ≤ key y := by
  refine Q.key_top?_le q x h y ?_
  rw [Q.elems_pop q x h]
  exact Multiset.mem_cons_of_mem hy

end PriorityQueue

end Library
