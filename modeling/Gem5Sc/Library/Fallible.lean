/-
  File:      Gem5Sc/Library/Fallible.lean
  Subject:   Computations that may throw (`Except`): how a successful run splits into successful
             parts, what a fold of fallible steps keeps, where a run throws and what, and how two
             runs are compared.

  A run throws at the first part that does, with all parts before it successful
  (`foldlM_eq_error_iff`); `Throws p` says of what kind the exceptions are. Two runs are `Related`
  when their results are, if both succeed. The rules for both follow the sequence, the fold and the
  case split, so a program is gone through step by step.
-/
import Mathlib.Data.List.Basic

namespace Library

universe u v w

variable {ε : Type u} {α β σ : Type v}

/-- A sequence succeeds when both parts do. -/
theorem bind_eq_ok {x : Except ε α} {f : α → Except ε β} {b : β} :
    (x >>= f) = .ok b ↔ ∃ a, x = .ok a ∧ f a = .ok b := by
  cases x with
  | error e =>
      refine ⟨fun h => ?_, fun ⟨a, h, _⟩ => ?_⟩
      · cases h
      · cases h
  | ok a =>
      refine ⟨fun h => ⟨a, rfl, h⟩, fun ⟨a', h, hf⟩ => ?_⟩
      cases h
      exact hf

theorem mapM_congr {α β : Type v} {f g : α → Except ε β} {l : List α} (h : ∀ x ∈ l, f x = g x) :
    l.mapM f = l.mapM g := by
  induction l with
  | nil => rfl
  | cons x l ih =>
      rw [List.mapM_cons, List.mapM_cons, h x List.mem_cons_self,
        ih fun y hy => h y (List.mem_cons_of_mem x hy)]

/-- Every result comes from an element. -/
theorem mem_of_mapM_ok {α β : Type v} {f : α → Except ε β} {l : List α} {l' : List β}
    (h : l.mapM f = .ok l') {y : β} (hy : y ∈ l') : ∃ x ∈ l, f x = .ok y := by
  induction l generalizing l' with
  | nil =>
      cases h
      exact absurd hy List.not_mem_nil
  | cons x l ih =>
      rw [List.mapM_cons] at h
      obtain ⟨z, hz, h⟩ := bind_eq_ok.mp h
      obtain ⟨rest, hrest, h⟩ := bind_eq_ok.mp h
      cases h
      rcases List.mem_cons.mp hy with rfl | hy
      · exact ⟨x, List.mem_cons_self, hz⟩
      · obtain ⟨w, hw, hwy⟩ := ih hrest hy
        exact ⟨w, List.mem_cons_of_mem _ hw, hwy⟩

/-- Every element has a result. -/
theorem exists_of_mapM_ok {α β : Type v} {f : α → Except ε β} {l : List α} {l' : List β}
    (h : l.mapM f = .ok l') : ∀ x ∈ l, ∃ y, f x = .ok y := by
  induction l generalizing l' with
  | nil => exact fun x hx => absurd hx List.not_mem_nil
  | cons x l ih =>
      rw [List.mapM_cons] at h
      obtain ⟨z, hz, h⟩ := bind_eq_ok.mp h
      obtain ⟨rest, hrest, -⟩ := bind_eq_ok.mp h
      exact List.forall_mem_cons.mpr ⟨⟨z, hz⟩, ih hrest⟩

/-- What holds of all results holds of the result of every element. -/
theorem forall_mapM_ok {α β : Type v} {f : α → Except ε β} {p : β → Prop} {l : List α}
    {l' : List β} (h : l.mapM f = .ok l') :
    (∀ y ∈ l', p y) ↔ ∀ x ∈ l, ∀ y, f x = .ok y → p y := by
  induction l generalizing l' with
  | nil =>
      cases h
      exact iff_of_true (fun y hy => absurd hy List.not_mem_nil)
        fun x hx => absurd hx List.not_mem_nil
  | cons x l ih =>
      rw [List.mapM_cons] at h
      obtain ⟨z, hz, h⟩ := bind_eq_ok.mp h
      obtain ⟨rest, hrest, h⟩ := bind_eq_ok.mp h
      cases h
      rw [List.forall_mem_cons, List.forall_mem_cons, ih hrest, hz]
      refine and_congr_left fun _ => ⟨fun hp y hy => ?_, fun hp => hp z rfl⟩
      cases hy
      exact hp

/-- Where every element is its own result, so is the list. -/
theorem mapM_id {α : Type v} {f : α → Except ε α} {l : List α} (h : ∀ x ∈ l, f x = .ok x) :
    l.mapM f = .ok l := by
  induction l with
  | nil => rfl
  | cons x l ih =>
      rw [List.mapM_cons, h x List.mem_cons_self, ih fun y hy => h y (List.mem_cons_of_mem x hy)]
      rfl

/-- **The invariant rule of a fold that may throw.** -/
theorem foldlM_invariant {τ : Type w} {I : σ → Prop} {f : σ → τ → Except ε σ} {l : List τ}
    (hf : ∀ s, ∀ x ∈ l, ∀ s', I s → f s x = .ok s' → I s') {s s' : σ} (hs : I s)
    (h : l.foldlM f s = .ok s') : I s' := by
  induction l generalizing s with
  | nil =>
      cases h
      exact hs
  | cons x l ih =>
      rw [List.foldlM_cons] at h
      obtain ⟨s₁, h1, h2⟩ := bind_eq_ok.mp h
      exact ih (fun s y hy => hf s y (List.mem_cons_of_mem x hy))
        (hf s x List.mem_cons_self s₁ hs h1) h2

/-- **The invariant rule for an invariant that speaks of the elements seen.** -/
theorem foldlM_seen {τ : Type w} {I : List τ → σ → Prop} {f : σ → τ → Except ε σ}
    (hf : ∀ seen x s s', I seen s → f s x = .ok s' → I (seen ++ [x]) s') {seen l : List τ}
    {s s' : σ} (hs : I seen s) (h : l.foldlM f s = .ok s') : I (seen ++ l) s' := by
  induction l generalizing seen s with
  | nil =>
      cases h
      rw [List.append_nil]
      exact hs
  | cons x l ih =>
      rw [List.foldlM_cons] at h
      obtain ⟨s₁, h1, h2⟩ := bind_eq_ok.mp h
      have hrest := ih (hf seen x s s₁ hs h1) h2
      rw [List.append_assoc] at hrest
      exact hrest

/-- What one element brings about and all keep. -/
theorem foldlM_established {τ : Type w} {I : σ → Prop} {f : σ → τ → Except ε σ} {l : List τ}
    {x : τ} (hx : x ∈ l) (hget : ∀ s s', f s x = .ok s' → I s')
    (hkeep : ∀ s, ∀ y ∈ l, ∀ s', I s → f s y = .ok s' → I s') {s s' : σ}
    (h : l.foldlM f s = .ok s') : I s' := by
  obtain ⟨before, after, rfl⟩ := List.append_of_mem hx
  rw [List.foldlM_append] at h
  obtain ⟨s₁, -, h⟩ := bind_eq_ok.mp h
  rw [List.foldlM_cons] at h
  obtain ⟨s₂, h2, h⟩ := bind_eq_ok.mp h
  refine foldlM_invariant (fun s y hy => hkeep s y ?_) (hget s₁ s₂ h2) h
  exact List.mem_append_right before (List.mem_cons_of_mem x hy)

/-- A fold whose steps throw nothing but `e`, and one step of which throws in every state. -/
theorem foldlM_eq_error {τ : Type w} {f : σ → τ → Except ε σ} {l : List τ} {e : ε}
    (hall : ∀ x ∈ l, ∀ s e', f s x = .error e' → e' = e) (hone : ∃ x ∈ l, ∀ s, f s x = .error e)
    (s : σ) : l.foldlM f s = .error e := by
  induction l generalizing s with
  | nil =>
      obtain ⟨x, hx, -⟩ := hone
      exact absurd hx List.not_mem_nil
  | cons y l ih =>
      rw [List.foldlM_cons]
      cases hy : f s y with
      | error e' =>
          rw [hall y List.mem_cons_self s e' hy]
          rfl
      | ok t =>
          refine ih (fun x hx => hall x (List.mem_cons_of_mem y hx)) ?_ t
          obtain ⟨x, hx, hthrow⟩ := hone
          rcases List.mem_cons.mp hx with rfl | hx
          · rw [hthrow s] at hy
            cases hy
          · exact ⟨x, hx, hthrow⟩

/-- A fold none of whose steps throws. -/
theorem foldlM_succeeds {τ : Type w} {f : σ → τ → Except ε σ} {l : List τ}
    (h : ∀ x ∈ l, ∀ s, ∃ s', f s x = .ok s') (s : σ) : ∃ s', l.foldlM f s = .ok s' := by
  induction l generalizing s with
  | nil => exact ⟨s, rfl⟩
  | cons y l ih =>
      obtain ⟨t, ht⟩ := h y List.mem_cons_self s
      obtain ⟨s', hs'⟩ := ih (fun x hx => h x (List.mem_cons_of_mem y hx)) t
      refine ⟨s', ?_⟩
      rw [List.foldlM_cons, ht]
      exact hs'

/-- A fold whose steps succeed in every state or in none. -/
theorem foldlM_succeeds_iff {τ : Type w} {p : τ → Prop} {f : σ → τ → Except ε σ} {l : List τ}
    (h : ∀ x ∈ l, ∀ s, (∃ s', f s x = .ok s') ↔ p x) (s : σ) :
    (∃ s', l.foldlM f s = .ok s') ↔ ∀ x ∈ l, p x := by
  induction l generalizing s with
  | nil => exact iff_of_true ⟨s, rfl⟩ fun x hx => absurd hx List.not_mem_nil
  | cons y l ih =>
      have hrest := ih fun x hx => h x (List.mem_cons_of_mem y hx)
      have hy := h y List.mem_cons_self s
      rw [List.forall_mem_cons, List.foldlM_cons]
      refine ⟨fun ⟨s', hs'⟩ => ?_, fun ⟨hpy, hp⟩ => ?_⟩
      · obtain ⟨t, ht, hs'⟩ := bind_eq_ok.mp hs'
        exact ⟨hy.mp ⟨t, ht⟩, (hrest t).mp ⟨s', hs'⟩⟩
      · obtain ⟨t, ht⟩ := hy.mpr hpy
        rw [ht]
        exact (hrest t).mpr hp

/-- A map none of whose steps throws. -/
theorem mapM_succeeds {α β : Type v} {f : α → Except ε β} {l : List α}
    (h : ∀ x ∈ l, ∃ y, f x = .ok y) : ∃ l', l.mapM f = .ok l' := by
  induction l with
  | nil => exact ⟨[], rfl⟩
  | cons x l ih =>
      obtain ⟨y, hy⟩ := h x List.mem_cons_self
      obtain ⟨ys, hys⟩ := ih fun z hz => h z (List.mem_cons_of_mem x hz)
      refine ⟨y :: ys, ?_⟩
      rw [List.mapM_cons, hy, hys]
      rfl

/-! ## Where a computation throws -/

/-- A sequence throws where its first or its second part does. -/
theorem bind_eq_error {x : Except ε α} {f : α → Except ε β} {e : ε} :
    (x >>= f) = .error e ↔ x = .error e ∨ ∃ a, x = .ok a ∧ f a = .error e := by
  cases x with
  | error e' =>
      refine ⟨fun h => Or.inl ?_, ?_⟩
      · cases h
        rfl
      · rintro (h | ⟨a, h, -⟩)
        · cases h
          rfl
        · cases h
  | ok a =>
      refine ⟨fun h => Or.inr ⟨a, rfl, h⟩, ?_⟩
      rintro (h | ⟨a', h, hf⟩)
      · cases h
      · cases h
        exact hf

/-- A fold throws at an element that all elements before it lead to. -/
theorem foldlM_eq_error_iff {τ : Type w} {f : σ → τ → Except ε σ} {l : List τ} {s : σ} {e : ε} :
    l.foldlM f s = .error e ↔ ∃ before x after s', l = before ++ x :: after ∧
      before.foldlM f s = .ok s' ∧ f s' x = .error e := by
  induction l generalizing s with
  | nil =>
      refine ⟨fun h => (nomatch h), ?_⟩
      rintro ⟨before, x, after, s', hl, -⟩
      exact absurd hl.symm (List.append_ne_nil_of_right_ne_nil _ (List.cons_ne_nil x after))
  | cons y l ih =>
      rw [List.foldlM_cons, bind_eq_error]
      constructor
      · rintro (h | ⟨t, ht, h⟩)
        · exact ⟨[], y, l, s, rfl, rfl, h⟩
        · obtain ⟨before, x, after, s', rfl, hb, hx⟩ := ih.mp h
          refine ⟨y :: before, x, after, s', rfl, ?_, hx⟩
          rw [List.foldlM_cons, ht]
          exact hb
      · intro ⟨before, x, after, s', hl, hb, hx⟩
        cases before with
        | nil =>
            cases hl
            cases hb
            exact Or.inl hx
        | cons z before =>
            cases hl
            rw [List.foldlM_cons] at hb
            obtain ⟨t, ht, hb⟩ := bind_eq_ok.mp hb
            exact Or.inr ⟨t, ht, ih.mpr ⟨before, x, after, s', rfl, hb, hx⟩⟩

/-- The same for a map. -/
theorem mapM_eq_error_iff {α β : Type v} {f : α → Except ε β} {l : List α} {e : ε} :
    l.mapM f = .error e ↔ ∃ before x after ys, l = before ++ x :: after ∧
      before.mapM f = .ok ys ∧ f x = .error e := by
  induction l with
  | nil =>
      refine ⟨fun h => (nomatch h), ?_⟩
      rintro ⟨before, x, after, ys, hl, -⟩
      exact absurd hl.symm (List.append_ne_nil_of_right_ne_nil _ (List.cons_ne_nil x after))
  | cons y l ih =>
      rw [List.mapM_cons, bind_eq_error]
      constructor
      · rintro (h | ⟨z, hz, h⟩)
        · exact ⟨[], y, l, [], rfl, rfl, h⟩
        · rcases bind_eq_error.mp h with h | ⟨zs, -, h⟩
          · obtain ⟨before, x, after, ys, rfl, hb, hx⟩ := ih.mp h
            refine ⟨y :: before, x, after, z :: ys, rfl, ?_, hx⟩
            rw [List.mapM_cons, hz, hb]
            rfl
          · cases h
      · intro ⟨before, x, after, ys, hl, hb, hx⟩
        cases before with
        | nil =>
            cases hl
            exact Or.inl hx
        | cons z before =>
            cases hl
            rw [List.mapM_cons] at hb
            obtain ⟨t, ht, hb⟩ := bind_eq_ok.mp hb
            obtain ⟨ts, hts, -⟩ := bind_eq_ok.mp hb
            refine Or.inr ⟨t, ht, bind_eq_error.mpr (Or.inl ?_)⟩
            exact ih.mpr ⟨before, x, after, ts, rfl, hts, hx⟩

/-- Whatever the computation throws satisfies `p`. -/
def Throws (p : ε → Prop) (x : Except ε α) : Prop := ∀ e, x = .error e → p e

section Throws

variable {p : ε → Prop}

theorem Throws.ok (a : α) : Throws p (.ok a : Except ε α) := by
  intro e h
  cases h

theorem Throws.error {e : ε} (h : p e) : Throws p (.error e : Except ε α) := by
  intro e' h'
  cases h'
  exact h

theorem Throws.bind {x : Except ε α} {f : α → Except ε β} (hx : Throws p x)
    (hf : ∀ a, Throws p (f a)) : Throws p (x >>= f) := by
  intro e h
  rcases bind_eq_error.mp h with h | ⟨a, -, h⟩
  · exact hx e h
  · exact hf a e h

theorem Throws.mapM {α β : Type v} {f : α → Except ε β} {l : List α}
    (hf : ∀ x ∈ l, Throws p (f x)) : Throws p (l.mapM f) := by
  intro e h
  obtain ⟨before, x, after, ys, rfl, -, hx⟩ := mapM_eq_error_iff.mp h
  exact hf x (List.mem_append_right before List.mem_cons_self) e hx

theorem Throws.foldlM {τ : Type w} {f : σ → τ → Except ε σ} {l : List τ}
    (hf : ∀ s, ∀ x ∈ l, Throws p (f s x)) (s : σ) : Throws p (l.foldlM f s) := by
  intro e h
  obtain ⟨before, x, after, s', rfl, -, hx⟩ := foldlM_eq_error_iff.mp h
  exact hf s' x (List.mem_append_right before List.mem_cons_self) e hx

/-- Where nothing but `e` is thrown, a map throws it as soon as one element does. -/
theorem mapM_eq_error_of_only {α β : Type v} {f : α → Except ε β} {l : List α} {e : ε}
    (h : ∀ x ∈ l, Throws (· = e) (f x)) : l.mapM f = .error e ↔ ∃ x ∈ l, f x = .error e := by
  refine ⟨fun hl => ?_, ?_⟩
  · obtain ⟨before, x, after, ys, rfl, -, hx⟩ := mapM_eq_error_iff.mp hl
    exact ⟨x, List.mem_append_right before List.mem_cons_self, hx⟩
  · intro ⟨x, hx, hfx⟩
    cases hl : l.mapM f with
    | error e' => rw [Throws.mapM h e' hl]
    | ok ys =>
        obtain ⟨y, hy⟩ := exists_of_mapM_ok hl x hx
        rw [hfx] at hy
        cases hy

end Throws

section Related

variable {α' β' σ' : Type v} {r : α → α' → Prop} {x : Except ε α} {y : Except ε α'}

/-- If both succeed, the results are related. -/
def Related (r : α → α' → Prop) (x : Except ε α) (y : Except ε α') : Prop :=
  ∀ a a', x = .ok a → y = .ok a' → r a a'

theorem Related.ok {a : α} {a' : α'} (h : r a a') :
    Related r (.ok a : Except ε α) (.ok a' : Except ε α') := by
  intro b b' hb hb'
  cases hb
  cases hb'
  exact h

theorem Related.error_left (e : ε) : Related r (.error e : Except ε α) y := by
  intro a a' ha
  cases ha

/-- The rule for a sequence. -/
theorem Related.bind {q : β → β' → Prop} {f : α → Except ε β} {g : α' → Except ε β'}
    (h : Related r x y) (hf : ∀ a a', r a a' → Related q (f a) (g a')) :
    Related q (x >>= f) (y >>= g) := by
  intro b b' hb hb'
  obtain ⟨a, ha, hb⟩ := bind_eq_ok.mp hb
  obtain ⟨a', ha', hb'⟩ := bind_eq_ok.mp hb'
  exact hf a a' (h a a' ha ha') b b' hb hb'

/-- The same, where both begin with the same computation. -/
theorem Related.bind_same {q : β → β' → Prop} (x : Except ε α) {f : α → Except ε β}
    {g : α → Except ε β'} (hf : ∀ a, x = .ok a → Related q (f a) (g a)) :
    Related q (x >>= f) (x >>= g) := by
  intro b b' hb hb'
  obtain ⟨a, ha, hb⟩ := bind_eq_ok.mp hb
  obtain ⟨a', ha', hb'⟩ := bind_eq_ok.mp hb'
  rw [ha, Except.ok.injEq] at ha'
  subst ha'
  exact hf a ha b b' hb hb'

/-- **The rule for two folds over the same list.** -/
theorem Related.foldlM {τ : Type w} {q : σ → σ' → Prop} {f : σ → τ → Except ε σ}
    {g : σ' → τ → Except ε σ'} {l : List τ}
    (hf : ∀ z ∈ l, ∀ s s', q s s' → Related q (f s z) (g s' z)) {s : σ} {s' : σ'} (hs : q s s') :
    Related q (l.foldlM f s) (l.foldlM g s') := by
  induction l generalizing s s' with
  | nil => exact Related.ok hs
  | cons z l ih =>
      rw [List.foldlM_cons, List.foldlM_cons]
      refine (hf z List.mem_cons_self s s' hs).bind fun t t' ht => ?_
      exact ih (fun z hz => hf z (List.mem_cons_of_mem _ hz)) ht

end Related

end Library
