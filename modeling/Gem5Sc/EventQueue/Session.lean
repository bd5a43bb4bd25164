/-
  File:      Gem5Sc/EventQueue/Session.lean
  Subject:   A SESSION WITH THE SIMULATOR, step by step: code outside the queue acts, `run` is
             called, a round of a running loop processes one event.

  A session also reaches the states in the middle of a run and those of a run that never returns.
  `run_session` connects it to `run`: a run that returns is the call followed by its rounds.
  `step_cases` is what a step can do; every invariant of sessions is derived from it.
-/
import Gem5Sc.EventQueue.Rounds
import Gem5Sc.Library.Runs

namespace Gem5Sc

universe u v

variable {ε : Type u} {σ : Type v} {Q : Library.PriorityQueue (Pending ε) Pending.key}

/-- What code does when it is called: current cycle and state to the new state and the `schedule`
    calls. -/
abbrev Act (ε : Type u) (σ : Type v) := UInt64 → σ → σ × List (ε × UInt64)

/-- What happens next. -/
inductive Move (ε : Type u) (σ : Type v) where
  /-- Code outside the queue runs, between two runs. -/
  | outside (act : Act ε σ)
  /-- `run(n)` is called. -/
  | run (n : UInt64)
  /-- The loop of `run` goes through its condition once. -/
  | round

/-- The simulator between its runs and during them. -/
structure Session (Q : Library.PriorityQueue (Pending ε) Pending.key) (σ : Type v) where
  sim : Sim Q σ
  /-- `end_cycle` of the run in progress. -/
  endCycle : Option UInt64 := none
  /-- The events processed so far. -/
  fired : List (Fired ε) := []

namespace Session

/-- `act` outside the queue. -/
def act (a : Act ε σ) (s : Session Q σ) : Session Q σ :=
  let r := a s.sim.queue.curCycle s.sim.state
  { s with sim := { queue := s.sim.queue.scheduleAll r.2, state := r.1 } }

/-- One event is processed. -/
def fire (process : Process ε σ) (s : Session Q σ) (e : Pending ε) : Session Q σ :=
  let f := s.sim.fire process e
  { s with sim := f.2, fired := s.fired ++ [f.1] }

/-- `cur_cycle = end_cycle`, the end of `run`. -/
def finish (s : Session Q σ) (endCycle : UInt64) : Session Q σ :=
  { s with sim := s.sim.setCycle endCycle, endCycle := none }

def step (process : Process ε σ) (s : Session Q σ) (m : Move ε σ) : Session Q σ :=
  match m, s.endCycle with
  | .outside a, none => s.act a
  | .outside _, some _ => s
  | .run n, none => { s with endCycle := some (s.sim.queue.curCycle + n) }
  | .run _, some _ => s
  | .round, none => s
  | .round, some endCycle =>
      match Q.top? s.sim.queue.queue with
      | none => s.finish endCycle
      | some e => if e.fireTime < endCycle then s.fire process e else s.finish endCycle

/-- The next round processes `e`. -/
structure Due (s : Session Q σ) (e : Pending ε) : Prop where
  top : Q.top? s.sim.queue.queue = some e
  before : ∃ endCycle, s.endCycle = some endCycle ∧ e.fireTime < endCycle

section Step

variable {process : Process ε σ} {s : Session Q σ}

theorem step_due {e : Pending ε} (h : s.Due e) : s.step process .round = s.fire process e := by
  obtain ⟨endCycle, hend, hlt⟩ := h.before
  simp only [step, hend, h.top, if_pos hlt]

theorem step_done {endCycle : UInt64} (hend : s.endCycle = some endCycle)
    (h : Sim.Done endCycle s.sim) : s.step process .round = s.finish endCycle := by
  simp only [step, hend]
  split
  · rfl
  · next e he => rw [if_neg (UInt64.not_lt.mpr (h e he))]

/-- **The ways a step can go.** -/
theorem step_cases (process : Process ε σ) (s : Session Q σ) (m : Move ε σ) :
    s.step process m = s ∨
    (∃ a, m = .outside a ∧ s.endCycle = none ∧ s.step process m = s.act a) ∨
    (∃ n, m = .run n ∧ s.endCycle = none ∧
      s.step process m = { s with endCycle := some (s.sim.queue.curCycle + n) }) ∨
    (∃ e, m = .round ∧ s.Due e ∧ s.step process m = s.fire process e) ∨
    (∃ endCycle, m = .round ∧ s.endCycle = some endCycle ∧ Sim.Done endCycle s.sim ∧
      s.step process m = s.finish endCycle) := by
  cases hend : s.endCycle with
  | none =>
      cases m with
      | outside a => exact Or.inr (Or.inl ⟨a, rfl, rfl, by simp only [step, hend]⟩)
      | run n => exact Or.inr (Or.inr (Or.inl ⟨n, rfl, rfl, by simp only [step, hend]⟩))
      | round => exact Or.inl (by simp only [step, hend])
  | some endCycle =>
      cases m with
      | outside a => exact Or.inl (by simp only [step, hend])
      | run n => exact Or.inl (by simp only [step, hend])
      | round =>
          rcases Sim.done_or_top endCycle s.sim with hd | ⟨e, he, hlt⟩
          · exact Or.inr (Or.inr (Or.inr (Or.inr
              ⟨endCycle, rfl, rfl, hd, step_done hend hd⟩)))
          · have hdue : s.Due e := ⟨he, endCycle, hend, hlt⟩
            exact Or.inr (Or.inr (Or.inr (Or.inl ⟨e, rfl, hdue, step_due hdue⟩)))

end Step

/-- What is pending after `act`. -/
theorem pending_act (a : Act ε σ) (s : Session Q σ) :
    (s.act a).sim.pending = s.sim.pending +
      ((a s.sim.queue.curCycle s.sim.state).2.map
        fun c => ⟨s.sim.queue.curCycle + c.2, c.1⟩ : List (Pending ε)) :=
  EventQueue.pending_scheduleAll _ _

/-! ## 1. The runs of a session -/

section Run

variable {process : Process ε σ}

/-- The rounds of a loop that returns. -/
theorem loop_session {endCycle : UInt64} {fuel : Nat} {s : Session Q σ}
    (hend : s.endCycle = some endCycle) {r : List (Fired ε) × Sim Q σ}
    (h : Sim.loop process endCycle fuel s.sim = some r) :
    ∃ k, Library.run (step process) s (List.replicate k .round) =
      { sim := r.2.setCycle endCycle, endCycle := none, fired := s.fired ++ r.1 } := by
  induction fuel generalizing s r with
  | zero => cases h
  | succ fuel ih =>
      rcases Sim.done_or_top endCycle s.sim with hd | ⟨e, he, hlt⟩
      · rw [Sim.loop_of_done hd, Option.some.injEq] at h
        subst h
        refine ⟨1, ?_⟩
        show s.step process .round = _
        rw [step_done hend hd, List.append_nil]
        rfl
      · rw [Sim.loop_of_top he hlt] at h
        obtain ⟨r', hr, rfl⟩ := Option.map_eq_some_iff.mp h
        obtain ⟨k, hk⟩ := ih (s := s.fire process e) hend hr
        refine ⟨k + 1, ?_⟩
        show Library.run (step process) (s.step process .round) (List.replicate k .round) = _
        rw [step_due ⟨he, endCycle, hend, hlt⟩, hk, fire, List.append_assoc]
        rfl

/-- **A run that returns is a stretch of the session.** -/
theorem run_session {fuel : Nat} {n : UInt64} {s : Session Q σ} (hend : s.endCycle = none)
    {r : List (Fired ε) × Sim Q σ} (h : Sim.run process fuel n s.sim = some r) :
    ∃ k, Library.run (step process) s (.run n :: List.replicate k .round) =
      { sim := r.2, endCycle := none, fired := s.fired ++ r.1 } := by
  obtain ⟨r', hr, rfl⟩ := Option.map_eq_some_iff.mp h
  obtain ⟨k, hk⟩ := loop_session
    (s := { s with endCycle := some (s.sim.queue.curCycle + n) }) rfl hr
  refine ⟨k, ?_⟩
  show Library.run (step process) (s.step process (.run n)) (List.replicate k .round) = _
  rw [show s.step process (.run n) = { s with endCycle := some (s.sim.queue.curCycle + n) } by
    simp only [step, hend]]
  exact hk

end Run

/-! ## 2. The clock -/

/-- No addition to the current cycle wraps in this step. -/
def NoWrap (process : Process ε σ) (s : Session Q σ) : Move ε σ → Prop
  | .outside a => ∀ c ∈ (a s.sim.queue.curCycle s.sim.state).2,
      s.sim.queue.curCycle.toNat + c.2.toNat < 2 ^ 64
  | .run n => s.sim.queue.curCycle.toNat + n.toNat < 2 ^ 64
  | .round => ∀ e, s.Due e → (s.sim.fire process e).1.NoWrap

/-- Nothing is overdue, and a run in progress ends in the future. -/
structure OnTime (s : Session Q σ) : Prop where
  current : s.sim.queue.Current
  ahead : ∀ endCycle, s.endCycle = some endCycle → s.sim.queue.curCycle ≤ endCycle

/-- **The clock never goes back.** -/
theorem onTime_step {process : Process ε σ} {s : Session Q σ} {m : Move ε σ} (h : s.OnTime)
    (hw : NoWrap process s m) :
    (s.step process m).OnTime ∧
      s.sim.queue.curCycle ≤ (s.step process m).sim.queue.curCycle := by
  rcases step_cases process s m with hs | ⟨a, rfl, hend, hs⟩ | ⟨n, rfl, hend, hs⟩ |
    ⟨e, rfl, hdue, hs⟩ | ⟨endCycle, rfl, hend, hd, hs⟩
  · rw [hs]
    exact ⟨h, UInt64.le_refl _⟩
  · have hcycle : (s.act a).sim.queue.curCycle = s.sim.queue.curCycle :=
      EventQueue.scheduleAll_curCycle _ _
    rw [hs]
    refine ⟨⟨fun x hx => ?_, fun endCycle he => ?_⟩, hcycle ▸ UInt64.le_refl _⟩
    · have hx' : x ∈ (s.act a).sim.pending := hx
      rw [pending_act] at hx'
      rw [hcycle]
      rcases Multiset.mem_add.mp hx' with hx' | hx'
      · exact h.current x hx'
      · obtain ⟨c, hc, rfl⟩ := List.mem_map.mp (Multiset.mem_coe.mp hx')
        show s.sim.queue.curCycle ≤ s.sim.queue.curCycle + c.2
        rw [UInt64.le_iff_toNat_le, Sim.toNat_add_of_lt (hw c hc)]
        omega
    · have he' : s.endCycle = some endCycle := he
      rw [hend] at he'
      cases he'
  · rw [hs]
    refine ⟨⟨h.current, fun endCycle he => ?_⟩, UInt64.le_refl _⟩
    obtain rfl := Option.some.inj he
    show s.sim.queue.curCycle ≤ s.sim.queue.curCycle + n
    rw [UInt64.le_iff_toNat_le, Sim.toNat_add_of_lt hw]
    omega
  · obtain ⟨endCycle, hend, hlt⟩ := hdue.before
    have hcycle : (s.fire process e).sim.queue.curCycle = e.fireTime :=
      Sim.fire_curCycle process s.sim e
    rw [hs]
    refine ⟨⟨Sim.current_fire hdue.top (hw e hdue), fun endCycle' he => ?_⟩, ?_⟩
    · have he' : s.endCycle = some endCycle' := he
      rw [hend, Option.some.injEq] at he'
      subst he'
      rw [hcycle]
      exact UInt64.le_of_lt hlt
    · rw [hcycle]
      exact h.current e (Q.mem_of_top? hdue.top)
  · rw [hs]
    refine ⟨⟨fun x hx => hd.le_fireTime hx, fun endCycle' he => ?_⟩, h.ahead endCycle hend⟩
    cases (he : (none : Option UInt64) = some endCycle')

end Session

end Gem5Sc
