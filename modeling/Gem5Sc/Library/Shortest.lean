/-
  File:      Gem5Sc/Library/Shortest.lean
  Subject:   HOW LONG THE SHORTEST WORD OF A LANGUAGE IS, among the words of allowed letters.

  `Short P n L` says that `L` has no word of letters with `P`, or one of at most `n` letters. The
  bound goes through the operations of regular expressions (`Short.mul`, `Short.add`,
  `Short.kstar`), so an expression has a bound by recursion.
-/
import Mathlib.Computability.Language

namespace Library

open scoped Computability

variable {α : Type*} {P : α → Prop} {n m : Nat} {L M : Language α}

/-- No word of letters with `P`, or one of at most `n` letters. -/
def Short (P : α → Prop) (n : Nat) (L : Language α) : Prop :=
  (∃ w ∈ L, ∀ c ∈ w, P c) → ∃ w ∈ L, (∀ c ∈ w, P c) ∧ w.length ≤ n

namespace Short

theorem mono (h : Short P n L) (hle : n ≤ m) : Short P m L := by
  intro hw
  obtain ⟨w, hL, hP, hlen⟩ := h hw
  exact ⟨w, hL, hP, Nat.le_trans hlen hle⟩

/-- A language with the empty word. -/
theorem of_nil_mem (h : [] ∈ L) : Short P 0 L :=
  fun _ => ⟨[], h, fun _ hc => absurd hc List.not_mem_nil, Nat.le_refl 0⟩

theorem kstar : Short P 0 L∗ := of_nil_mem (Language.nil_mem_kstar L)

/-- A language of single letters. -/
theorem of_single (h : ∀ w ∈ L, w.length = 1) : Short P 1 L := by
  intro ⟨w, hL, hP⟩
  exact ⟨w, hL, hP, Nat.le_of_eq (h w hL)⟩

theorem mul (hL : Short P n L) (hM : Short P m M) : Short P (n + m) (L * M) := by
  intro ⟨w, hw, hP⟩
  obtain ⟨a, ha, b, hb, rfl⟩ := Language.mem_mul.mp hw
  obtain ⟨u, hu, hPu, hlu⟩ := hL ⟨a, ha, fun c hc => hP c (List.mem_append_left b hc)⟩
  obtain ⟨v, hv, hPv, hlv⟩ := hM ⟨b, hb, fun c hc => hP c (List.mem_append_right a hc)⟩
  refine ⟨u ++ v, Language.append_mem_mul hu hv, fun c hc => ?_, ?_⟩
  · rcases List.mem_append.mp hc with hc | hc
    · exact hPu c hc
    · exact hPv c hc
  · rw [List.length_append]
    exact Nat.add_le_add hlu hlv

theorem add (hL : Short P n L) (hM : Short P n M) : Short P n (L + M) := by
  rintro ⟨w, hw | hw, hP⟩
  · obtain ⟨u, hu, hPu⟩ := hL ⟨w, hw, hP⟩
    exact ⟨u, Or.inl hu, hPu⟩
  · obtain ⟨u, hu, hPu⟩ := hM ⟨w, hw, hP⟩
    exact ⟨u, Or.inr hu, hPu⟩

end Short

end Library
