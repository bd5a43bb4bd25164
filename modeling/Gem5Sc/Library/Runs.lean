/-
  File:      Gem5Sc/Library/Runs.lean
  Subject:   Runs of a deterministic step function: what holds in every state of a run, and
             which condition on the steps is the exact reason for it.

  A system is given by `step : σ → α → σ`; all nondeterminism sits in the label `α`, so a run is
  a list of labels and the state it reaches is `run step s as`.

  * `Everywhere step P s as` -- `P` holds in every state the run visits, start and end included;
  * `Along step C s as` -- every step of the run meets `C` in the state it is taken from, and
    `count step C s as` how many of them do; `along_iff_forall` for a `C` that no step changes;
  * `run_invariant`, `everywhere_of_invariant` -- the invariant rule;
  * `everywhere_of_along` -- the same rule for runs whose steps all meet a condition;
  * `everywhere_iff_along` -- where a step outside `C` breaks `P` at once, `C` along the run is
    not only enough for `P` but also necessary;
  * `count_eq_zero`, `count_le_one` -- what a step can never do, or only once;
  * `Token` -- what is made once and taken once, by exactly one step (`Token.once`);
  * `reached_of_turns` -- a goal that is `k` turns away is reached when more than `k` turns have
    been taken, whatever happens between them; `count_pos_of_turns` for a goal that is left again;
  * `everywhere_iff_end` -- where no step restores `P`, the state at the end decides;
  * `everywhere_simulation`, `along_simulation`, `run_simulation` -- runs of one system as runs of
    another;
  * `view_run` -- runs that look the same to one who sees part of the state and of the steps;
  * `collect_invariant` -- the invariant rule for a state and what has been collected on the way;
  * `queue_run` -- what every step puts in at the end or takes out at the front, a run does.
-/
import Mathlib.Data.List.Basic

namespace Library

variable {σ α : Type*} (step : σ → α → σ)

/-- The state a run reaches. -/
def run (s : σ) (as : List α) : σ := as.foldl step s

/-- `P` holds in every state the run visits. -/
def Everywhere (P : σ → Prop) : σ → List α → Prop
  | s, [] => P s
  | s, a :: as => P s ∧ Everywhere P (step s a) as

/-- Every step of the run meets `C` in the state it is taken from. -/
def Along (C : σ → α → Prop) : σ → List α → Prop
  | _, [] => True
  | s, a :: as => C s a ∧ Along C (step s a) as

/-- How many steps of the run meet `C`. -/
def count (C : σ → α → Bool) : σ → List α → Nat
  | _, [] => 0
  | s, a :: as => (C s a).toNat + count C (step s a) as

/-- What the steps of the run contribute, in their order. -/
def collect {β : Type*} (f : σ → α → List β) : σ → List α → List β
  | _, [] => []
  | s, a :: as => f s a ++ collect f (step s a) as

variable {step} {P I : σ → Prop} {C : σ → α → Prop}

/-- The states a run visits are the states its prefixes reach. -/
theorem everywhere_iff_prefix {s : σ} {as : List α} :
    Everywhere step P s as ↔ ∀ bs, bs <+: as → P (run step s bs) := by
  induction as generalizing s with
  | nil =>
      refine ⟨fun h bs hb => ?_, fun h => h [] (List.prefix_refl _)⟩
      rw [List.prefix_nil.mp hb]
      exact h
  | cons a as ih =>
      refine ⟨fun h bs hb => ?_, fun h => ⟨h [] List.nil_prefix, ih.mpr fun bs hb => ?_⟩⟩
      · cases bs with
        | nil => exact h.1
        | cons b bs =>
            obtain ⟨rfl, hbs⟩ := List.cons_prefix_cons.mp hb
            exact ih.mp h.2 bs hbs
      · exact h (a :: bs) (List.cons_prefix_cons.mpr ⟨rfl, hb⟩)

/-- **The invariant rule.** -/
theorem run_invariant {s : σ} (h0 : I s) (hstep : ∀ s a, I s → I (step s a)) (as : List α) :
    I (run step s as) := by
  induction as generalizing s with
  | nil => exact h0
  | cons a as ih => exact ih (hstep s a h0)

/-- **The invariant rule for runs whose steps all meet `C`.** -/
theorem everywhere_of_along {s : σ} {as : List α} (h0 : I s) (hP : ∀ s, I s → P s)
    (hstep : ∀ s a, I s → C s a → I (step s a)) (hC : Along step C s as) :
    Everywhere step P s as := by
  induction as generalizing s with
  | nil => exact hP s h0
  | cons a as ih => exact ⟨hP s h0, ih (hstep s a h0 hC.1) hC.2⟩

/-- **Never again.** Nothing brings the dead back to life, and no step in `C` leaves the system
    alive: a run that ends alive has had none. -/
theorem count_eq_zero {D : σ → Prop} {C : σ → α → Bool} (hI : ∀ s a, I s → I (step s a))
    (hdead : ∀ s a, I s → D s → D (step s a)) (hC : ∀ s a, I s → C s a = true → D (step s a))
    {s : σ} (hs : I s) {as : List α} (hend : ¬ D (run step s as)) : count step C s as = 0 := by
  have hlast : ∀ (as : List α) (s : σ), I s → D s → D (run step s as) := by
    intro as
    induction as with
    | nil => exact fun _ _ hd => hd
    | cons a as ih => exact fun s hs hd => ih (step s a) (hI s a hs) (hdead s a hs hd)
  induction as generalizing s with
  | nil => rfl
  | cons a as ih =>
      have hno : C s a = false :=
        Bool.eq_false_iff.mpr fun h => hend (hlast as _ (hI s a hs) (hC s a hs h))
      rw [count, hno, ih (hI s a hs) hend]
      rfl

/-- **At most once.** A step in `C` finds the system alive and leaves it dead, and nothing brings it
    back to life: at most one step of a run is in `C`. -/
theorem count_le_one {D : σ → Prop} {C : σ → α → Bool} (hI : ∀ s a, I s → I (step s a))
    (hdead : ∀ s a, I s → D s → D (step s a))
    (hC : ∀ s a, I s → C s a = true → ¬ D s ∧ D (step s a)) {s : σ} (hs : I s) (as : List α) :
    count step C s as ≤ 1 := by
  have hzero : ∀ (as : List α) (s : σ), I s → D s → count step C s as = 0 := by
    intro as
    induction as with
    | nil => exact fun _ _ _ => rfl
    | cons a as ih =>
        intro s hs hd
        have hno : C s a = false := Bool.eq_false_iff.mpr fun h => (hC s a hs h).1 hd
        rw [count, hno, ih (step s a) (hI s a hs) (hdead s a hs hd)]
        rfl
  induction as generalizing s with
  | nil => exact Nat.zero_le 1
  | cons a as ih =>
      rw [count]
      cases h : C s a with
      | true => rw [hzero as (step s a) (hI s a hs) (hC s a hs h).2]; exact Nat.le_refl 1
      | false => rw [Bool.toNat_false, Nat.zero_add]; exact ih (hI s a hs)

/-- The steps of two runs, one after the other. -/
theorem count_append (C : σ → α → Bool) (s : σ) (as bs : List α) :
    count step C s (as ++ bs) = count step C s as + count step C (run step s as) bs := by
  induction as generalizing s with
  | nil => simp [count, run]
  | cons a as ih =>
      rw [List.cons_append, count, count, ih (step s a), Nat.add_assoc]
      rfl

/-- **A token.** Once made (`B`) it is there (`A`) until a step in `C` takes it, and then it is gone
    for good. -/
structure Token (step : σ → α → σ) (I B A : σ → Prop) (C : σ → α → Bool) : Prop where
  invariant : ∀ s a, I s → I (step s a)
  made : ∀ s, I s → A s → B s
  made_step : ∀ s a, I s → B s → B (step s a)
  there : ∀ s a, I s → B (step s a) → B s ∨ A (step s a)
  kept : ∀ s a, I s → A s → C s a = false → A (step s a)
  taken : ∀ s a, I s → C s a = true → A s ∧ ¬ A (step s a)
  gone : ∀ s a, I s → B s → ¬ A s → ¬ A (step s a)

namespace Token

variable {B A : σ → Prop} {C : σ → α → Bool}

theorem count_of_gone (ht : Token step I B A C) {s : σ} (hs : I s) (hB : B s) (hA : ¬ A s)
    (as : List α) : ¬ A (run step s as) ∧ count step C s as = 0 := by
  induction as generalizing s with
  | nil => exact ⟨hA, rfl⟩
  | cons a as ih =>
      have hno : C s a = false := Bool.eq_false_iff.mpr fun h => hA (ht.taken s a hs h).1
      obtain ⟨hend, hcount⟩ := ih (ht.invariant s a hs) (ht.made_step s a hs hB)
        (ht.gone s a hs hB hA)
      refine ⟨hend, ?_⟩
      rw [count, hno, hcount]
      rfl

theorem count_of_there (ht : Token step I B A C) {s : σ} (hs : I s) (hA : A s) (as : List α) :
    (A (run step s as) ∧ count step C s as = 0) ∨
      (¬ A (run step s as) ∧ count step C s as = 1) := by
  induction as generalizing s with
  | nil => exact Or.inl ⟨hA, rfl⟩
  | cons a as ih =>
      have hs' := ht.invariant s a hs
      rw [count]
      cases h : C s a with
      | true =>
          obtain ⟨hend, hcount⟩ := ht.count_of_gone hs'
            (ht.made_step s a hs (ht.made s hs hA)) (ht.taken s a hs h).2 as
          exact Or.inr ⟨hend, by rw [hcount]; rfl⟩
      | false =>
          rw [Bool.toNat_false, Nat.zero_add]
          exact ih hs' (ht.kept s a hs hA h)

/-- **A token is taken exactly once, unless it is still there.** -/
theorem once (ht : Token step I B A C) {s : σ} (hs : I s) (hnew : ¬ B s) {as : List α}
    (hend : B (run step s as)) :
    (A (run step s as) ∧ count step C s as = 0) ∨
      (¬ A (run step s as) ∧ count step C s as = 1) := by
  induction as generalizing s with
  | nil => exact absurd hend hnew
  | cons a as ih =>
      have hs' := ht.invariant s a hs
      have hno : C s a = false :=
        Bool.eq_false_iff.mpr fun h => hnew (ht.made s hs (ht.taken s a hs h).1)
      rw [count, hno, Bool.toNat_false, Nat.zero_add]
      by_cases hB : B (step s a)
      · exact ht.count_of_there hs' ((ht.there s a hs hB).resolve_left hnew) as
      · exact ih hs' hB hend

end Token

/-- **Turns.** In a state `W k` the goal is at most `k + 1` turns away: a turn brings it nearer, and
    no other step takes it farther. Then more than `k` turns reach it. -/
theorem reached_of_turns {G : σ → Prop} {W : Nat → σ → Prop} {turn : α → Bool}
    (hI : ∀ s a, I s → I (step s a)) (hG : ∀ s a, I s → G s → G (step s a))
    (hwait : ∀ k s a, I s → W k s → turn a = false → W k (step s a))
    (hturn : ∀ k s a, I s → W k s → turn a = true →
      G (step s a) ∨ ∃ k', k = k' + 1 ∧ W k' (step s a)) {k : Nat} {s : σ} (hs : I s) (hw : W k s)
    {as : List α} (hk : k < as.countP turn) : G (run step s as) := by
  induction as generalizing k s with
  | nil => exact absurd hk (Nat.not_lt_zero k)
  | cons a as ih =>
      cases ha : turn a with
      | false =>
          rw [List.countP_cons_of_neg (by simp [ha])] at hk
          exact ih (hI s a hs) (hwait k s a hs hw ha) hk
      | true =>
          rw [List.countP_cons_of_pos ha] at hk
          rcases hturn k s a hs hw ha with hgoal | ⟨k', rfl, hw'⟩
          · have hall : I (run step (step s a) as) ∧ G (run step (step s a) as) :=
              run_invariant (I := fun s => I s ∧ G s) ⟨hI s a hs, hgoal⟩
                (fun s a h => ⟨hI s a h.1, hG s a h.1 h.2⟩) as
            exact hall.2
          · exact ih (hI s a hs) hw' (Nat.lt_of_succ_lt_succ hk)

/-- **Turns, and then a step in `C`.** The turns lead to `A`, and only a step in `C` leads out of
    it: a run with more than `k` turns that does not end in `A` has had one. -/
theorem count_pos_of_turns {A : σ → Prop} {W : Nat → σ → Prop} {turn : α → Bool}
    {C : σ → α → Bool} (hI : ∀ s a, I s → I (step s a))
    (hA : ∀ s a, I s → A s → C s a = false → A (step s a))
    (hwait : ∀ k s a, I s → W k s → turn a = false → W k (step s a))
    (hturn : ∀ k s a, I s → W k s → turn a = true →
      A (step s a) ∨ ∃ k', k = k' + 1 ∧ W k' (step s a)) {k : Nat} {s : σ} (hs : I s) (hw : W k s)
    {as : List α} (hk : k < as.countP turn) (hend : ¬ A (run step s as)) :
    0 < count step C s as := by
  have hout : ∀ (as : List α) (s : σ), I s → A s → ¬ A (run step s as) → 0 < count step C s as := by
    intro as
    induction as with
    | nil => exact fun s _ h hend => absurd h hend
    | cons a as ih =>
        intro s hs h hend
        rw [count]
        cases hC : C s a with
        | true => exact Nat.lt_of_lt_of_le Nat.zero_lt_one (Nat.le_add_right _ _)
        | false => simpa using ih (step s a) (hI s a hs) (hA s a hs h hC) hend
  induction as generalizing k s with
  | nil => exact absurd hk (Nat.not_lt_zero k)
  | cons a as ih =>
      refine Nat.lt_of_lt_of_le ?_ (Nat.le_add_left _ _)
      cases ha : turn a with
      | false =>
          rw [List.countP_cons_of_neg (by simp [ha])] at hk
          exact ih (hI s a hs) (hwait k s a hs hw ha) hk hend
      | true =>
          rw [List.countP_cons_of_pos ha] at hk
          rcases hturn k s a hs hw ha with h | ⟨k', rfl, hw'⟩
          · exact hout as _ (hI s a hs) h hend
          · exact ih (hI s a hs) hw' (Nat.lt_of_succ_lt_succ hk) hend

/-- The invariant rule, for every state of the run. -/
theorem everywhere_of_invariant {s : σ} (h0 : I s) (hP : ∀ s, I s → P s)
    (hstep : ∀ s a, I s → I (step s a)) (as : List α) : Everywhere step P s as :=
  everywhere_iff_prefix.mpr fun bs _ => hP _ (run_invariant h0 hstep bs)

/-- What every step meets, every run meets. -/
theorem along_of_forall (h : ∀ s a, C s a) (s : σ) (as : List α) : Along step C s as := by
  induction as generalizing s with
  | nil => exact trivial
  | cons a as ih => exact ⟨h s a, ih (step s a)⟩

/-- A condition that no step changes is one on the steps alone. -/
theorem along_iff_forall (h : ∀ s a b, C (step s a) b ↔ C s b) {s : σ} {as : List α} :
    Along step C s as ↔ ∀ a ∈ as, C s a := by
  induction as generalizing s with
  | nil => exact iff_of_true trivial fun _ ha => absurd ha List.not_mem_nil
  | cons a as ih =>
      have hrest : Along step C (step s a) as ↔ ∀ b ∈ as, C s b :=
        ih.trans (forall₂_congr fun b _ => h s a b)
      exact (and_congr_right fun _ => hrest).trans List.forall_mem_cons.symm

/-- What holds everywhere holds at the start. -/
theorem Everywhere.start {s : σ} {as : List α} (h : Everywhere step P s as) : P s := by
  cases as with
  | nil => exact h
  | cons a as => exact h.1

/-- What a step never restores is settled by the state at the end. -/
theorem everywhere_iff_end (hback : ∀ s a, P (step s a) → P s) {s : σ} {as : List α} :
    Everywhere step P s as ↔ P (run step s as) := by
  induction as generalizing s with
  | nil => exact Iff.rfl
  | cons a as ih =>
      refine ⟨fun h => ih.mp h.2, fun h => ?_⟩
      have hrest : Everywhere step P (step s a) as := ih.mpr h
      exact ⟨hback s a hrest.start, hrest⟩

/-- **Simulation.** Where `abs` maps the steps of one system to those of another, what holds of the
    images in every state of a run is what holds in every state of the image of the run. -/
theorem everywhere_simulation {τ β : Type*} {step' : τ → β → τ} {P' : τ → Prop} (abs : σ → τ)
    (label : α → β) (hsim : ∀ s a, abs (step s a) = step' (abs s) (label a)) (s : σ)
    (as : List α) : Everywhere step (fun s => P' (abs s)) s as ↔
      Everywhere step' P' (abs s) (as.map label) := by
  induction as generalizing s with
  | nil => exact Iff.rfl
  | cons a as ih =>
      have hrest := ih (step s a)
      rw [hsim] at hrest
      exact and_congr_right fun _ => hrest

/-- The same for the conditions on its steps. -/
theorem along_simulation {τ β : Type*} {step' : τ → β → τ} {C' : τ → β → Prop} (abs : σ → τ)
    (label : α → β) (hsim : ∀ s a, abs (step s a) = step' (abs s) (label a)) (s : σ)
    (as : List α) : Along step (fun s a => C' (abs s) (label a)) s as ↔
      Along step' C' (abs s) (as.map label) := by
  induction as generalizing s with
  | nil => exact Iff.rfl
  | cons a as ih =>
      have hrest := ih (step s a)
      rw [hsim] at hrest
      exact and_congr_right fun _ => hrest

/-- And the state at the end. -/
theorem run_simulation {τ β : Type*} {step' : τ → β → τ} (abs : σ → τ) (label : α → β)
    (hsim : ∀ s a, abs (step s a) = step' (abs s) (label a)) (s : σ) (as : List α) :
    abs (run step s as) = run step' (abs s) (as.map label) := by
  induction as generalizing s with
  | nil => rfl
  | cons a as ih =>
      show abs (run step (step s a) as) = run step' (step' (abs s) (label a)) (as.map label)
      rw [ih, hsim]

/-- Steps that cannot be seen change nothing in view. -/
theorem view_run_of_hidden {κ β : Type*} {view : σ → κ} {see : α → Option β}
    (hhide : ∀ s a, see a = none → view (step s a) = view s) {as : List α}
    (has : ∀ a ∈ as, see a = none) (s : σ) : view (run step s as) = view s := by
  induction as generalizing s with
  | nil => rfl
  | cons a as ih =>
      calc view (run step (step s a) as) = view (step s a) :=
            ih (fun b hb => has b (List.mem_cons_of_mem a hb)) _
        _ = view s := hhide s a (has a List.mem_cons_self)

/-- **Unwinding.** A step that cannot be seen changes nothing in view, and two steps that look the
    same do the same to states that look the same. Then two runs whose steps look the same end in
    states that look the same. -/
theorem view_run {κ β : Type*} {view : σ → κ} {see : α → Option β}
    (hhide : ∀ s a, see a = none → view (step s a) = view s)
    (hsee : ∀ s s' a a', view s' = view s → see a ≠ none → see a' = see a →
      view (step s' a') = view (step s a)) {s s' : σ} (hs : view s' = view s) {as as' : List α}
    (has : as'.filterMap see = as.filterMap see) :
    view (run step s' as') = view (run step s as) := by
  induction as generalizing s s' as' with
  | nil => exact (view_run_of_hidden hhide (List.filterMap_eq_nil_iff.mp has) s').trans hs
  | cons a as ih =>
      cases ha : see a with
      | none =>
          rw [List.filterMap_cons_none ha] at has
          exact ih (hs.trans (hhide s a ha).symm) has
      | some b =>
          rw [List.filterMap_cons_some ha] at has
          obtain ⟨before, a', after, rfl, hbefore, ha', hafter⟩ :=
            List.filterMap_eq_cons_iff.mp has
          have hmid : view (run step s' before) = view s :=
            (view_run_of_hidden hhide hbefore s').trans hs
          have hstep : view (step (run step s' before) a') = view (step s a) :=
            hsee s _ a a' hmid (by simp [ha]) (ha'.trans ha.symm)
          rw [run, List.foldl_append]
          exact ih hstep hafter

/-- **The invariant rule**, for a state and what the steps have contributed. -/
theorem collect_invariant {β : Type*} {f : σ → α → List β} {I : σ → List β → Prop} {s : σ}
    (h0 : I s []) (hstep : ∀ s l a, I s l → I (step s a) (l ++ f s a)) (as : List α) :
    I (run step s as) (collect step f s as) := by
  have hall : ∀ (as : List α) (s : σ) (l : List β), I s l →
      I (run step s as) (l ++ collect step f s as) := by
    intro as
    induction as with
    | nil => exact fun s l h => (List.append_nil l).symm ▸ h
    | cons a as ih =>
        intro s l h
        rw [collect, ← List.append_assoc]
        exact ih (step s a) _ (hstep s l a h)
  exact hall as s [] h0

/-- **A queue.** If every step puts its packets in at the end and takes at most one out at the front,
    then so does every run: the queue holds what has come in, but for as many from the front as
    have been taken. -/
theorem queue_run {β : Type*} {q : σ → List β} {put : σ → α → List β} {got : σ → α → Bool}
    (hstep : ∀ s a, q (step s a) = (q s ++ put s a).drop (got s a).toNat)
    (hgot : ∀ s a, got s a = true → q s ++ put s a ≠ []) (s : σ) (as : List α) :
    q (run step s as) = (q s ++ collect step put s as).drop (count step got s as) := by
  induction as generalizing s with
  | nil => simp [run, collect, count]
  | cons a as ih =>
      have hlen : (got s a).toNat ≤ (q s ++ put s a).length := by
        cases h : got s a with
        | false => exact Nat.zero_le _
        | true => exact List.length_pos_iff.mpr (hgot s a h)
      calc q (run step (step s a) as)
          = (q (step s a) ++ collect step put (step s a) as).drop
              (count step got (step s a) as) := ih _
        _ = ((q s ++ put s a ++ collect step put (step s a) as).drop (got s a).toNat).drop
              (count step got (step s a) as) := by
            rw [hstep, List.drop_append_of_le_length hlen]
        _ = (q s ++ collect step put s (a :: as)).drop (count step got s (a :: as)) := by
            rw [List.drop_drop, collect, count, List.append_assoc]

/-- **The exact condition of a run.** If steps inside `C` keep the invariant and a step outside
    `C` breaks `P` at once, then `P` holds all along a run exactly when every step meets `C`. -/
theorem everywhere_iff_along {s : σ} {as : List α} (h0 : I s) (hP : ∀ s, I s → P s)
    (hstep : ∀ s a, I s → C s a → I (step s a))
    (hbreak : ∀ s a, I s → ¬ C s a → ¬ P (step s a)) :
    Everywhere step P s as ↔ Along step C s as := by
  refine ⟨fun h => ?_, everywhere_of_along h0 hP hstep⟩
  induction as generalizing s with
  | nil => exact trivial
  | cons a as ih =>
      have hC : C s a := by
        by_contra hC
        exact hbreak s a h0 hC h.2.start
      exact ⟨hC, ih (hstep s a h0 hC) h.2⟩

end Library
