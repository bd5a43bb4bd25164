/-
  File:      Gem5Sc/Library/Requeue.lean
  Subject:   A QUEUE WHOSE REFUSED HEAD GOES TO THE BACK: what it keeps, and when it keeps the
             order.

  Elements arrive at the back; the head is served or refused. Every element belongs to a flow, and
  a flow is to be served in the order of its arrivals.

  * `conserved_run` -- what has arrived has been served or waits, each once;
  * `inOrder_iff_harmless` -- all flows are in order, now and if everything that waits is served,
    exactly when no head was refused with another element of its flow behind it.

  `Aligned` is the invariant: in each flow the arrivals are what was served followed by what waits.
-/
import Gem5Sc.Library.Runs

namespace Library

variable {α φ : Type*}

/-- The queue, with what has arrived and what has been served. -/
structure Requeue (α : Type*) where
  arrived : List α := []
  queue : List α := []
  served : List α := []

namespace Requeue

inductive Act (α : Type*) where
  | arrive (x : α)
  | serve (accepted : Bool)

def step (s : Requeue α) : Act α → Requeue α
  | .arrive x => { s with arrived := s.arrived ++ [x], queue := s.queue ++ [x] }
  | .serve accepted =>
      match s.queue with
      | [] => s
      | x :: rest =>
          if accepted then { s with queue := rest, served := s.served ++ [x] }
          else { s with queue := rest ++ [x] }

/-- Nothing is lost and nothing is served twice. -/
def Conserved (s : Requeue α) : Prop := (s.served ++ s.queue).Perm s.arrived

section Steps

variable {s : Requeue α} {x : α} {rest : List α}

theorem step_serve_nil (hq : s.queue = []) (accepted : Bool) : s.step (.serve accepted) = s := by
  simp only [step, hq]

theorem step_accepted (hq : s.queue = x :: rest) :
    s.step (.serve true) = { s with queue := rest, served := s.served ++ [x] } := by
  simp only [step, hq, if_true]

theorem step_refused (hq : s.queue = x :: rest) :
    s.step (.serve false) = { s with queue := rest ++ [x] } := by
  simp only [step, hq, Bool.false_eq_true, if_false]

theorem conserved_step (h : Conserved s) (a : Act α) : Conserved (s.step a) := by
  unfold Conserved at h ⊢
  cases a with
  | arrive x =>
      show (s.served ++ (s.queue ++ [x])).Perm (s.arrived ++ [x])
      rw [← List.append_assoc]
      exact h.append_right [x]
  | serve accepted =>
      cases hq : s.queue with
      | nil =>
          rw [step_serve_nil hq]
          exact h
      | cons x rest =>
          rw [hq] at h
          cases accepted with
          | true =>
              rw [step_accepted hq]
              show (s.served ++ [x] ++ rest).Perm s.arrived
              rw [List.append_assoc]
              exact h
          | false =>
              rw [step_refused hq]
              exact ((List.perm_append_singleton x rest).append_left s.served).trans h

end Steps

theorem conserved_run (acts : List (Act α)) : Everywhere step Conserved ({} : Requeue α) acts := by
  have hstart : Conserved ({} : Requeue α) := List.Perm.refl []
  exact everywhere_of_invariant hstart (fun _ h => h) (fun _ a h => conserved_step h a) acts

/-! ## 1. Flows -/

section Flows

variable [DecidableEq φ] (flow : α → φ)

/-- The elements of a flow. -/
def ofFlow (f : φ) (l : List α) : List α := l.filter (flow · = f)

/-- What has been served of each flow is what arrived first. -/
def InOrder (s : Requeue α) : Prop := ∀ f, ofFlow flow f s.served <+: ofFlow flow f s.arrived

/-- In each flow: first what was served, then what waits. -/
def Aligned (s : Requeue α) : Prop :=
  ∀ f, ofFlow flow f s.arrived = ofFlow flow f s.served ++ ofFlow flow f s.queue

/-- No head is refused with another element of its flow behind it. -/
def Harmless (s : Requeue α) (a : Act α) : Prop :=
  a = .serve false → ∀ x rest, s.queue = x :: rest → ∀ y ∈ rest, flow y = flow x → y = x

/-- The flows are in order, now and if from now on everything is accepted. -/
def StaysInOrder (s : Requeue α) : Prop :=
  ∀ k, InOrder flow (run step s (List.replicate k (.serve true)))

variable {flow}

theorem ofFlow_append (f : φ) (l k : List α) :
    ofFlow flow f (l ++ k) = ofFlow flow f l ++ ofFlow flow f k := List.filter_append l k

theorem ofFlow_cons (f : φ) (x : α) (l : List α) :
    ofFlow flow f (x :: l) = ofFlow flow f [x] ++ ofFlow flow f l := ofFlow_append f [x] l

/-- A list that may be rotated by one element holds nothing else. -/
theorem all_eq_of_rotated {x : α} {l : List α} (h : l ++ [x] = x :: l) : ∀ y ∈ l, y = x := by
  induction l with
  | nil => exact fun y hy => absurd hy List.not_mem_nil
  | cons z l ih =>
      obtain ⟨hz, hl⟩ := List.cons.inj h
      subst hz
      intro y hy
      rcases List.mem_cons.mp hy with rfl | hy
      · rfl
      · exact ih hl y hy

theorem rotated_of_all_eq {x : α} {l : List α} (h : ∀ y ∈ l, y = x) : l ++ [x] = x :: l := by
  induction l with
  | nil => rfl
  | cons z l ih =>
      obtain rfl := h z List.mem_cons_self
      exact congrArg (z :: ·) (ih fun y hy => h y (List.mem_cons_of_mem z hy))

theorem Aligned.inOrder {s : Requeue α} (h : Aligned flow s) : InOrder flow s :=
  fun f => ⟨ofFlow flow f s.queue, (h f).symm⟩

/-- **A harmless step keeps the flows aligned.** -/
theorem aligned_step {s : Requeue α} (h : Aligned flow s) {a : Act α} (ha : Harmless flow s a) :
    Aligned flow (s.step a) := by
  intro f
  have hf := h f
  cases a with
  | arrive x =>
      show ofFlow flow f (s.arrived ++ [x]) =
        ofFlow flow f s.served ++ ofFlow flow f (s.queue ++ [x])
      rw [ofFlow_append, ofFlow_append, hf, List.append_assoc]
  | serve accepted =>
      cases hq : s.queue with
      | nil =>
          rw [step_serve_nil hq]
          exact hf
      | cons x rest =>
          rw [hq, ofFlow_cons] at hf
          cases accepted with
          | true =>
              rw [step_accepted hq]
              show ofFlow flow f s.arrived = ofFlow flow f (s.served ++ [x]) ++ ofFlow flow f rest
              rw [ofFlow_append, List.append_assoc]
              exact hf
          | false =>
              rw [step_refused hq]
              show ofFlow flow f s.arrived = ofFlow flow f s.served ++ ofFlow flow f (rest ++ [x])
              rw [hf, ofFlow_append]
              congr 1
              by_cases hx : flow x = f
              · -- what waits of the flow of `x` is `x` itself, so the rotation is not seen
                have hone : ofFlow flow f [x] = [x] := by simp [ofFlow, hx]
                rw [hone]
                refine (rotated_of_all_eq fun y hy => ?_).symm
                obtain ⟨hmem, hyf⟩ := List.mem_filter.mp hy
                exact ha rfl x rest hq y hmem ((of_decide_eq_true hyf).trans hx.symm)
              · have hnone : ofFlow flow f [x] = [] := by simp [ofFlow, hx]
                rw [hnone, List.append_nil, List.nil_append]

/-- Accepting is harmless. -/
theorem aligned_drain {s : Requeue α} (h : Aligned flow s) (k : Nat) :
    Aligned flow (run step s (List.replicate k (.serve true))) := by
  induction k generalizing s with
  | zero => exact h
  | succ k ih => exact ih (aligned_step h fun ha => by cases ha)

/-- As many accepted heads as wait empty the queue. -/
theorem run_drain {s : Requeue α} : run step s (List.replicate s.queue.length (.serve true)) =
    { s with queue := [], served := s.served ++ s.queue } := by
  cases s with
  | mk arrived queue served =>
      induction queue generalizing served with
      | nil => simp [run]
      | cons x rest ih =>
          show run step (step ⟨arrived, x :: rest, served⟩ (.serve true))
            (List.replicate rest.length (.serve true)) = _
          rw [step_accepted rfl]
          have hrest := ih (served ++ [x])
          rw [List.append_assoc] at hrest
          exact hrest

/-- **A harmful refusal is seen at the end**: the head is served behind the other element. -/
theorem not_staysInOrder {s : Requeue α} (h : Aligned flow s) {a : Act α}
    (ha : ¬ Harmless flow s a) : ¬ StaysInOrder flow (s.step a) := by
  unfold Harmless at ha
  push Not at ha
  obtain ⟨rfl, x, rest, hq, y, hy, hflow, hne⟩ := ha
  intro hstays
  rw [step_refused hq] at hstays
  have hdrained := hstays (rest ++ [x]).length (flow x)
  rw [run_drain (s := { s with queue := rest ++ [x] })] at hdrained
  have hone : ofFlow flow (flow x) [x] = [x] := by simp [ofFlow]
  have hbefore := h (flow x)
  rw [hq, ofFlow_cons, hone] at hbefore
  have hprefix : ofFlow flow (flow x) (s.served ++ (rest ++ [x])) <+:
      ofFlow flow (flow x) s.arrived := hdrained
  rw [ofFlow_append, ofFlow_append, hone, hbefore] at hprefix
  have hrotated : ofFlow flow (flow x) rest ++ [x] = x :: ofFlow flow (flow x) rest :=
    ((List.prefix_append_right_inj _).mp hprefix).eq_of_length (by simp)
  have hmem : y ∈ ofFlow flow (flow x) rest := List.mem_filter.mpr ⟨hy, decide_eq_true hflow⟩
  exact hne (all_eq_of_rotated hrotated y hmem)

/-- **The order of the flows.** -/
theorem inOrder_iff_harmless (flow : α → φ) (acts : List (Act α)) :
    Everywhere step (StaysInOrder flow) ({} : Requeue α) acts ↔
      Along step (Harmless flow) ({} : Requeue α) acts := by
  refine everywhere_iff_along (I := Aligned flow) (fun f => rfl) ?_ ?_ ?_
  · exact fun s h k => (aligned_drain h k).inOrder
  · exact fun s a h ha => aligned_step h ha
  · exact fun s a h ha => not_staysInOrder h ha

end Flows

end Requeue

end Library
