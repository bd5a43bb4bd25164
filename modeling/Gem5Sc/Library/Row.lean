/-
  File:      Gem5Sc/Library/Row.lean
  Subject:   ROWS OF TERMS: the words that a row of single letters and runs stands for.

  A term is one letter that passes a test, or a run, possibly empty, of letters that pass it. A row
  of terms stands for the words that can be cut into one piece for each term (`Row.Matches`).

  * `Row.accepts` -- the test by recursion, and `accepts_iff`;
  * `Matches.congr` -- two rows whose tests agree on the letters of a word agree on the word;
  * `Matches.exists_mem` -- a letter that passes the test of a single is in every word;
  * `Row.singles`, `Matches.length_le`, `Matches.of_singles`, `Matches.singles` -- a word has a
    letter for each single, and a word of no more letters than that has nothing in the runs.
-/
import Mathlib.Data.List.Forall2

namespace Library

variable {α : Type*}

inductive Term (α : Type*) where
  | one (q : α → Bool)
  | many (q : α → Bool)

namespace Row

/-- The word can be cut into one piece for each term. -/
def Matches : List (Term α) → List α → Prop
  | [], w => w = []
  | .one q :: ts, w => ∃ c v, w = c :: v ∧ q c = true ∧ Matches ts v
  | .many q :: ts, w => ∃ u v, w = u ++ v ∧ (∀ c ∈ u, q c = true) ∧ Matches ts v

/-! ## 1. The test by recursion -/

/-- A run of letters that pass `q`, and then what `rest` accepts. -/
def run (q : α → Bool) (rest : List α → Bool) : List α → Bool
  | [] => rest []
  | c :: w => rest (c :: w) || (q c && run q rest w)

def accepts : List (Term α) → List α → Bool
  | [], w => w.isEmpty
  | .one _ :: _, [] => false
  | .one q :: ts, c :: w => q c && accepts ts w
  | .many q :: ts, w => run q (accepts ts) w

theorem run_iff {q : α → Bool} {rest : List α → Bool} {w : List α} :
    run q rest w = true ↔ ∃ u v, w = u ++ v ∧ (∀ c ∈ u, q c = true) ∧ rest v = true := by
  induction w with
  | nil =>
      refine ⟨fun h => ⟨[], [], rfl, fun _ h => absurd h List.not_mem_nil, h⟩, ?_⟩
      rintro ⟨u, v, hw, -, hv⟩
      obtain ⟨-, rfl⟩ := List.append_eq_nil_iff.mp hw.symm
      exact hv
  | cons c w ih =>
      rw [run, Bool.or_eq_true, Bool.and_eq_true, ih]
      constructor
      · rintro (h | ⟨hc, u, v, rfl, hu, hv⟩)
        · exact ⟨[], c :: w, rfl, fun _ h => absurd h List.not_mem_nil, h⟩
        · exact ⟨c :: u, v, rfl, List.forall_mem_cons.mpr ⟨hc, hu⟩, hv⟩
      · intro ⟨u, v, hw, hu, hv⟩
        cases u with
        | nil =>
            rw [hw]
            exact Or.inl hv
        | cons d u =>
            obtain ⟨rfl, rfl⟩ := List.cons.inj hw
            exact Or.inr ⟨hu _ List.mem_cons_self, u, v, rfl,
              fun x hx => hu x (List.mem_cons_of_mem _ hx), hv⟩

theorem accepts_iff {ts : List (Term α)} {w : List α} :
    accepts ts w = true ↔ Matches ts w := by
  induction ts generalizing w with
  | nil => exact List.isEmpty_iff
  | cons t ts ih =>
      cases t with
      | one q =>
          cases w with
          | nil =>
              refine ⟨fun h => Bool.noConfusion h, ?_⟩
              rintro ⟨c, v, hw, -⟩
              cases hw
          | cons c w =>
              rw [accepts, Bool.and_eq_true, ih]
              refine ⟨fun h => ⟨c, w, rfl, h.1, h.2⟩, ?_⟩
              intro ⟨d, v, hw, hd, hv⟩
              obtain ⟨rfl, rfl⟩ := List.cons.inj hw
              exact ⟨hd, hv⟩
      | many q =>
          rw [accepts, run_iff]
          exact exists_congr fun u => exists_congr fun v => and_congr_right fun _ =>
            and_congr_right fun _ => ih

/-! ## 2. Rows that agree -/

/-- Two terms of one kind whose tests agree on the letters with `P`. -/
inductive Agree (P : α → Prop) : Term α → Term α → Prop where
  | one {q q' : α → Bool} (h : ∀ c, P c → q c = q' c) : Agree P (.one q) (.one q')
  | many {q q' : α → Bool} (h : ∀ c, P c → q c = q' c) : Agree P (.many q) (.many q')

theorem Matches.congr {P : α → Prop} {ts us : List (Term α)}
    (h : List.Forall₂ (Agree P) ts us) {w : List α} (hw : ∀ c ∈ w, P c) :
    Matches ts w ↔ Matches us w := by
  induction h generalizing w with
  | nil => exact Iff.rfl
  | cons ht _ ih =>
      cases ht with
      | one hq =>
          refine exists_congr fun c => exists_congr fun v => and_congr_right fun hcv => ?_
          subst hcv
          rw [hq c (hw c List.mem_cons_self), ih fun d hd => hw d (List.mem_cons_of_mem c hd)]
      | many hq =>
          refine exists_congr fun u => exists_congr fun v => and_congr_right fun huv => ?_
          subst huv
          rw [ih fun d hd => hw d (List.mem_append_right u hd)]
          refine and_congr_left fun _ => forall₂_congr fun c hc => ?_
          rw [hq c (hw c (List.mem_append_left v hc))]

/-! ## 3. The singles -/

theorem Matches.exists_mem {ts : List (Term α)} {w : List α} (h : Matches ts w) {q : α → Bool}
    (hq : Term.one q ∈ ts) : ∃ c ∈ w, q c = true := by
  induction ts generalizing w with
  | nil => exact absurd hq List.not_mem_nil
  | cons t ts ih =>
      cases t with
      | one q' =>
          obtain ⟨c, v, rfl, hc, hv⟩ := h
          rcases List.mem_cons.mp hq with heq | hmem
          · cases heq
            exact ⟨c, List.mem_cons_self, hc⟩
          · obtain ⟨d, hd, hqd⟩ := ih hv hmem
            exact ⟨d, List.mem_cons_of_mem c hd, hqd⟩
      | many q' =>
          obtain ⟨u, v, rfl, -, hv⟩ := h
          rcases List.mem_cons.mp hq with heq | hmem
          · cases heq
          · obtain ⟨d, hd, hqd⟩ := ih hv hmem
            exact ⟨d, List.mem_append_right u hd, hqd⟩

/-- The tests of the singles. -/
def singles : List (Term α) → List (α → Bool)
  | [] => []
  | .one q :: ts => q :: singles ts
  | .many _ :: ts => singles ts

theorem Matches.length_le {ts : List (Term α)} {w : List α} (h : Matches ts w) :
    (singles ts).length ≤ w.length := by
  induction ts generalizing w with
  | nil => exact Nat.zero_le _
  | cons t ts ih =>
      cases t with
      | one q =>
          obtain ⟨c, v, rfl, -, hv⟩ := h
          exact Nat.succ_le_succ (ih hv)
      | many q =>
          obtain ⟨u, v, rfl, -, hv⟩ := h
          rw [List.length_append]
          exact Nat.le_trans (ih hv) (Nat.le_add_left _ _)

/-- A shortest word. -/
theorem Matches.of_singles {ts : List (Term α)} {w : List α}
    (h : List.Forall₂ (fun q c => q c = true) (singles ts) w) : Matches ts w := by
  induction ts generalizing w with
  | nil => exact List.forall₂_nil_left_iff.mp h
  | cons t ts ih =>
      cases t with
      | one q =>
          cases h with
          | cons hc hv => exact ⟨_, _, rfl, hc, ih hv⟩
      | many q => exact ⟨[], w, rfl, fun _ h => absurd h List.not_mem_nil, ih h⟩

theorem Matches.singles {ts : List (Term α)} {w : List α} (h : Matches ts w)
    (hlen : w.length ≤ (singles ts).length) :
    List.Forall₂ (fun q c => q c = true) (singles ts) w := by
  induction ts generalizing w with
  | nil =>
      cases h
      exact .nil
  | cons t ts ih =>
      cases t with
      | one q =>
          obtain ⟨c, v, rfl, hc, hv⟩ := h
          exact .cons hc (ih hv (Nat.le_of_succ_le_succ hlen))
      | many q =>
          obtain ⟨u, v, rfl, -, hv⟩ := h
          have hle := hv.length_le
          have hlen' : u.length + v.length ≤ (Row.singles ts).length := by
            rw [← List.length_append]
            exact hlen
          have hu : u = [] := List.eq_nil_of_length_eq_zero (by omega)
          subst hu
          exact ih hv hlen

end Row

end Library
