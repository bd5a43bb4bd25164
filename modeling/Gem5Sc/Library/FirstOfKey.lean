/-
  File:      Gem5Sc/Library/FirstOfKey.lean
  Subject:   A list gone through with a set of keys: of the elements with one key the first is kept.

  What is kept comes from the list, has different keys, and has every key of the list (`Kept`). So
  the list is kept as a whole exactly when its elements have a key each (`all_kept_iff`), and an
  element that is kept is kept once (`count_kept`).
-/
import Mathlib.Data.List.Nodup

namespace Library

variable {α κ : Type*} [DecidableEq κ] (key : α → κ)

/-- Keeps `x`, unless its key has been seen. -/
def keepFirst (s : List κ × List α) (x : α) : List κ × List α :=
  if s.1.contains (key x) then s else (key x :: s.1, s.2 ++ [x])

/-- The elements of `l` that are kept. -/
def firsts (l : List α) : List α := (l.foldl (keepFirst key) ([], [])).2

/-- What has been kept of `l`, with the keys that have been seen. -/
structure Kept (l : List α) (s : List κ × List α) : Prop where
  seen : ∀ k, k ∈ s.1 ↔ k ∈ s.2.map key
  sub : ∀ x ∈ s.2, x ∈ l
  nodup : (s.2.map key).Nodup
  covers : ∀ x ∈ l, key x ∈ s.2.map key

variable {key} {l : List α}

theorem Kept.step {s : List κ × List α} (h : Kept key l s) (x : α) :
    Kept key (l ++ [x]) (keepFirst key s x) := by
  unfold keepFirst
  split
  · next hc =>
      have hx : key x ∈ s.2.map key := (h.seen _).mp (List.contains_iff_mem.mp hc)
      refine ⟨h.seen, fun y hy => List.mem_append_left _ (h.sub y hy), h.nodup, fun y hy => ?_⟩
      rcases List.mem_append.mp hy with hy | hy
      · exact h.covers y hy
      · rw [List.mem_singleton.mp hy]
        exact hx
  · next hc =>
      have hx : key x ∉ s.2.map key := fun hm =>
        hc (List.contains_iff_mem.mpr ((h.seen _).mpr hm))
      refine ⟨fun k => ?_, fun y hy => ?_, ?_, fun y hy => ?_⟩
      · rw [List.mem_cons, h.seen, List.map_append, List.mem_append, List.map_singleton,
          List.mem_singleton, or_comm]
      · rcases List.mem_append.mp hy with hy | hy
        · exact List.mem_append_left _ (h.sub y hy)
        · exact List.mem_append_right _ hy
      · rw [List.map_append, List.map_singleton, List.nodup_append]
        refine ⟨h.nodup, List.nodup_singleton _, fun a ha b hb => ?_⟩
        rintro rfl
        rw [List.mem_singleton.mp hb] at ha
        exact hx ha
      · rw [List.map_append, List.mem_append]
        rcases List.mem_append.mp hy with hy | hy
        · exact Or.inl (h.covers y hy)
        · exact Or.inr (List.mem_map_of_mem hy)

theorem kept_foldl (key : α → κ) (l : List α) : Kept key l (l.foldl (keepFirst key) ([], [])) := by
  have hrun : ∀ (rest seen : List α) (s : List κ × List α), Kept key seen s →
      Kept key (seen ++ rest) (rest.foldl (keepFirst key) s) := by
    intro rest
    induction rest with
    | nil =>
        intro seen s h
        rw [List.append_nil]
        exact h
    | cons x rest ih =>
        intro seen s h
        have hrest := ih (seen ++ [x]) _ (h.step x)
        rw [List.append_assoc] at hrest
        exact hrest
  refine hrun l [] ([], []) ⟨fun k => Iff.rfl, ?_, List.nodup_nil, ?_⟩
  · exact fun x hx => absurd hx List.not_mem_nil
  · exact fun x hx => absurd hx List.not_mem_nil

/-- **All elements are kept** exactly when different elements have different keys. -/
theorem all_kept_iff (key : α → κ) (l : List α) :
    (∀ x ∈ l, x ∈ firsts key l) ↔ ∀ x ∈ l, ∀ y ∈ l, key x = key y → x = y := by
  have hkept := kept_foldl key l
  refine ⟨fun h x hx y hy heq => ?_, fun h x hx => ?_⟩
  · exact List.inj_on_of_nodup_map hkept.nodup (h x hx) (h y hy) heq
  · obtain ⟨y, hy, heq⟩ := List.mem_map.mp (hkept.covers x hx)
    have hxy := h y (hkept.sub y hy) x hx heq
    exact hxy ▸ hy

theorem count_kept [BEq α] [LawfulBEq α] {x : α} (h : x ∈ firsts key l) :
    (firsts key l).count x = 1 :=
  List.count_eq_one_of_mem (kept_foldl key l).nodup.of_map h

end Library
