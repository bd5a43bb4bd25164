/-
  File:      Gem5Sc/Library/Fuel.lean
  Subject:   COMPUTATIONS WITH FUEL: which end, and what they throw when the fuel runs out.

  A computation takes its fuel as an argument and throws `out` when there is too little. It ends
  when it gives one and the same answer other than `out` for all large amounts of fuel (`Ends`).
  The rules for the sequence and the map ask of each part that it ends where the parts before it
  have succeeded (`Ends.bind`, `Ends.mapM`).
-/
import Gem5Sc.Library.Fallible
import Mathlib.Order.Filter.AtTopBot.Basic
import Mathlib.Order.Filter.Finite

namespace Library

open Filter

/-- What holds with `n + 1` for all large `n`, holds for all large `n`. -/
theorem eventually_succ {P : Nat → Prop} (h : ∀ᶠ n in atTop, P (n + 1)) : ∀ᶠ n in atTop, P n := by
  rw [← map_add_atTop_eq_nat 1]
  exact h

theorem eventually_list {α : Type} {l : List α} {P : Nat → α → Prop}
    (h : ∀ x ∈ l, ∀ᶠ n in atTop, P n x) : ∀ᶠ n in atTop, ∀ x ∈ l, P n x :=
  (eventually_all_finite l.finite_toSet).mpr h

variable {ε α β : Type} {out : ε}

/-- The computation ends, with a result or an exception other than `out`. -/
def Ends (out : ε) (f : Nat → Except ε α) : Prop :=
  ∃ x, x ≠ .error out ∧ ∀ᶠ n in atTop, f n = x

namespace Ends

variable {f : Nat → Except ε α}

theorem of_eventually {a : α} (h : ∀ᶠ n in atTop, f n = .ok a) : Ends out f := by
  refine ⟨.ok a, fun heq => ?_, h⟩
  cases heq

theorem ok {a : α} (h : ∀ n, f n = .ok a) : Ends out f := of_eventually (Eventually.of_forall h)

theorem error {e : ε} (he : e ≠ out) (h : ∀ n, f n = .error e) : Ends out f :=
  ⟨.error e, fun h => he (Except.error.inj h), Eventually.of_forall h⟩

theorem succ (h : Ends out fun n => f (n + 1)) : Ends out f := by
  obtain ⟨x, hx, hf⟩ := h
  exact ⟨x, hx, eventually_succ hf⟩

/-- There is fuel enough. -/
theorem exists_ne (h : Ends out f) : ∃ n, f n ≠ .error out := by
  obtain ⟨x, hx, hf⟩ := h
  obtain ⟨n, hn⟩ := hf.exists
  exact ⟨n, hn ▸ hx⟩

theorem bind {k : Nat → α → Except ε β} (hf : Ends out f)
    (hk : ∀ a, (∃ n, f n = .ok a) → Ends out fun n => k n a) : Ends out fun n => f n >>= k n := by
  obtain ⟨x, hx, hf⟩ := hf
  cases x with
  | error e =>
      refine ⟨.error e, fun h => hx (by cases h; rfl), hf.mono fun n hn => ?_⟩
      dsimp only
      rw [hn]
      rfl
  | ok a =>
      obtain ⟨y, hy, hk⟩ := hk a hf.exists
      refine ⟨y, hy, (hf.and hk).mono fun n hn => ?_⟩
      dsimp only
      rw [hn.1]
      exact hn.2

theorem map (hf : Ends out f) (g : α → β) : Ends out fun n => f n >>= fun a => .ok (g a) :=
  hf.bind fun _ _ => ok fun _ => rfl

theorem mapM {α : Type} {f : Nat → α → Except ε β} {l : List α}
    (h : ∀ a x b, l = a ++ x :: b → (∀ y ∈ a, ∃ n z, f n y = .ok z) → Ends out fun n => f n x) :
    Ends out fun n => l.mapM (f n) := by
  induction l with
  | nil => exact ok fun _ => rfl
  | cons x l ih =>
      simp only [List.mapM_cons]
      refine (h [] x l rfl fun y hy => absurd hy List.not_mem_nil).bind fun z hz => ?_
      refine (ih fun a y b hl ha => ?_).map (z :: ·)
      obtain ⟨n, hn⟩ := hz
      rw [hl] at h
      exact h (x :: a) y b rfl (List.forall_mem_cons.mpr ⟨⟨n, z, hn⟩, ha⟩)

end Ends

/-- A map throws what an element throws, once those before it throw nothing else. -/
theorem mapM_append_cons_error {α : Type} {f : α → Except ε β} {a b : List α} {x : α}
    (ha : ∀ y ∈ a, Throws (· = out) (f y)) (hx : f x = .error out) :
    (a ++ x :: b).mapM f = .error out := by
  rw [List.mapM_append]
  refine bind_eq_error.mpr ?_
  cases hr : a.mapM f with
  | error e => exact Or.inl (congrArg _ (Throws.mapM ha e hr))
  | ok ys =>
      refine Or.inr ⟨ys, rfl, bind_eq_error.mpr (Or.inl ?_)⟩
      rw [List.mapM_cons]
      exact bind_eq_error.mpr (Or.inl hx)

end Library
