/-
  File:      Gem5Sc/EventQueue/Clock.lean
  Subject:   WHEN SIMULATED TIME RUNS BACKWARDS: `schedule` and `run` each add to `cur_cycle`, in
             64 bits and without a guard.

  A `schedule` whose sum wraps gives its event a `fire_time` in the past. A `run` whose sum wraps
  has an end cycle in the past: it processes nothing, and then assigns that end cycle to
  `cur_cycle`. As long as no sum has wrapped nothing pending is overdue (`Session.OnTime`), so each
  wrap shows at once, in the step that makes the sum or in the first round of its run.

  `forward_iff_noSumWraps` is for every sequence of calls from outside, runs and rounds, in which a
  call of `run` goes through the condition of its loop at least once (`calls`).
-/
import Gem5Sc.EventQueue.Session

namespace Gem5Sc

universe u v

variable {ε : Type u} {σ : Type v} {Q : Library.PriorityQueue (Pending ε) Pending.key}

/-- A sum that wraps is less than what was added to. -/
theorem add_lt_of_wraps {a b : UInt64} (h : ¬ a.toNat + b.toNat < 2 ^ 64) : a + b < a := by
  have ha : a.toNat < 2 ^ 64 := a.toNat_lt
  have hb : b.toNat < 2 ^ 64 := b.toNat_lt
  rw [UInt64.lt_iff_toNat_lt, UInt64.toNat_add]
  omega

namespace Session

/-! ## 1. What a step schedules -/

/-- The `schedule` calls of a step, and the cycle in which it makes them. -/
def scheduleCalls (process : Process ε σ) (s : Session Q σ) (m : Move ε σ) :
    UInt64 × List (ε × UInt64) :=
  match m, s.endCycle with
  | .outside a, none => (s.sim.queue.curCycle, (a s.sim.queue.curCycle s.sim.state).2)
  | .round, some endCycle =>
      match Q.top? s.sim.queue.queue with
      | none => (s.sim.queue.curCycle, [])
      | some e =>
          if e.fireTime < endCycle then
            ((s.sim.fire process e).1.cycle, (s.sim.fire process e).1.calls)
          else (s.sim.queue.curCycle, [])
  | _, _ => (s.sim.queue.curCycle, [])

/-- The events a step schedules, with the `fire_time` they are given. -/
def scheduled (process : Process ε σ) (s : Session Q σ) (m : Move ε σ) : List (Pending ε) :=
  (scheduleCalls process s m).2.map fun c => ⟨(scheduleCalls process s m).1 + c.2, c.1⟩

section Calls

variable {process : Process ε σ} {s : Session Q σ}

theorem scheduleCalls_act {a : Act ε σ} (h : s.endCycle = none) :
    scheduleCalls process s (.outside a) =
      (s.sim.queue.curCycle, (a s.sim.queue.curCycle s.sim.state).2) := by
  simp only [scheduleCalls, h]

theorem scheduleCalls_run (process : Process ε σ) (s : Session Q σ) (n : UInt64) :
    scheduleCalls process s (.run n) = (s.sim.queue.curCycle, []) := by
  cases h : s.endCycle <;> rfl

theorem scheduleCalls_due {e : Pending ε} (h : s.Due e) :
    scheduleCalls process s .round =
      ((s.sim.fire process e).1.cycle, (s.sim.fire process e).1.calls) := by
  obtain ⟨endCycle, hend, hlt⟩ := h.before
  simp only [scheduleCalls, hend, h.top, if_pos hlt]

theorem scheduleCalls_done {endCycle : UInt64} (hend : s.endCycle = some endCycle)
    (h : Sim.Done endCycle s.sim) : (scheduleCalls process s .round).2 = [] := by
  simp only [scheduleCalls, hend]
  split
  · rfl
  · next e he => rw [if_neg (UInt64.not_lt.mpr (h e he))]

/-- What a step schedules is what it adds to the queue. -/
theorem pending_step (process : Process ε σ) (s : Session Q σ) (m : Move ε σ) :
    ∃ popped, (s.step process m).sim.pending + popped =
      s.sim.pending + (scheduled process s m : Multiset (Pending ε)) := by
  have hnone : ∀ {m}, (scheduleCalls process s m).2 = [] →
      (s.step process m).sim.pending = s.sim.pending → ∃ popped,
      (s.step process m).sim.pending + popped =
        s.sim.pending + (scheduled process s m : Multiset (Pending ε)) := fun hcalls hp =>
    ⟨0, by simp [scheduled, hcalls, hp]⟩
  cases hend : s.endCycle with
  | none =>
      cases m with
      | outside a =>
          have hs : s.step process (.outside a) = s.act a := by simp only [step, hend]
          exact ⟨0, by rw [hs, pending_act, add_zero, scheduled, scheduleCalls_act hend]⟩
      | run n => exact hnone (scheduleCalls_run process s n ▸ rfl) (by simp only [step, hend])
      | round => exact hnone (by simp only [scheduleCalls, hend]) (by simp only [step, hend])
  | some endCycle =>
      cases m with
      | outside a => exact hnone (by simp only [scheduleCalls, hend]) (by simp only [step, hend])
      | run n => exact hnone (scheduleCalls_run process s n ▸ rfl) (by simp only [step, hend])
      | round =>
          rcases Sim.done_or_top endCycle s.sim with hd | ⟨e, he, hlt⟩
          · exact hnone (scheduleCalls_done hend hd) (by rw [step_done hend hd]; rfl)
          · have hdue : s.Due e := ⟨he, endCycle, hend, hlt⟩
            refine ⟨{e}, ?_⟩
            rw [step_due hdue, scheduled, scheduleCalls_due hdue, Multiset.add_comm,
              Multiset.singleton_add]
            exact Sim.pending_fire he

end Calls

/-! ## 2. Forward -/

/-- **Time does not run backwards** in this step: the clock does not, and nothing is scheduled for
    before the cycle in which it is. -/
structure Forward (process : Process ε σ) (s : Session Q σ) (m : Move ε σ) : Prop where
  clock : s.sim.queue.curCycle ≤ (s.step process m).sim.queue.curCycle
  scheduled : ∀ e ∈ scheduled process s m, (scheduleCalls process s m).1 ≤ e.fireTime

/-- No sum of this step wraps: neither those of its `schedule` calls nor that of a `run`. -/
structure NoSumWraps (process : Process ε σ) (s : Session Q σ) (m : Move ε σ) : Prop where
  schedule : ∀ c ∈ (scheduleCalls process s m).2,
    (scheduleCalls process s m).1.toNat + c.2.toNat < 2 ^ 64
  run : ∀ n, m = .run n → s.endCycle = none → s.sim.queue.curCycle.toNat + n.toNat < 2 ^ 64

section Step

variable {process : Process ε σ} {s : Session Q σ} {m : Move ε σ}

/-- What is scheduled without a wrap is scheduled for later, and only that. -/
theorem scheduled_iff : (∀ e ∈ scheduled process s m, (scheduleCalls process s m).1 ≤ e.fireTime) ↔
    ∀ c ∈ (scheduleCalls process s m).2,
      (scheduleCalls process s m).1.toNat + c.2.toNat < 2 ^ 64 := by
  unfold scheduled
  rw [List.forall_mem_map]
  refine forall₂_congr fun c _ => ⟨fun h => ?_, fun h => ?_⟩
  · by_contra hw
    exact absurd (add_lt_of_wraps hw) (UInt64.not_lt.mpr h)
  · show (scheduleCalls process s m).1 ≤ (scheduleCalls process s m).1 + c.2
    rw [UInt64.le_iff_toNat_le, Sim.toNat_add_of_lt h]
    omega

/-- A step without a wrap goes forward and leaves nothing overdue. -/
theorem onTime_of_noSumWraps (h : s.OnTime) (hw : NoSumWraps process s m) :
    (s.step process m).OnTime ∧ Forward process s m := by
  have hstep : s.step process m = s ∨ NoWrap process s m := by
    cases m with
    | outside a =>
        cases hend : s.endCycle with
        | none =>
            have hsum := hw.schedule
            rw [scheduleCalls_act hend] at hsum
            exact Or.inr hsum
        | some endCycle => exact Or.inl (by simp only [step, hend])
    | run n =>
        cases hend : s.endCycle with
        | none => exact Or.inr (hw.run n rfl hend)
        | some endCycle => exact Or.inl (by simp only [step, hend])
    | round =>
        refine Or.inr fun e hdue => ?_
        have hsum := hw.schedule
        rw [scheduleCalls_due hdue] at hsum
        exact hsum
  rcases hstep with hs | hnw
  · refine ⟨hs.symm ▸ h, ⟨?_, scheduled_iff.mpr hw.schedule⟩⟩
    rw [hs]
    exact UInt64.le_refl _
  · obtain ⟨hon, hle⟩ := onTime_step h hnw
    exact ⟨hon, hle, scheduled_iff.mpr hw.schedule⟩

/-- Any other step than a `run` goes forward exactly when no sum wraps. -/
theorem forward_iff (h : s.OnTime) (hm : ∀ n, m ≠ .run n) :
    Forward process s m ↔ NoSumWraps process s m :=
  ⟨fun hf => ⟨scheduled_iff.mp hf.scheduled, fun n hn => absurd hn (hm n)⟩,
    fun hw => (onTime_of_noSumWraps h hw).2⟩

/-- A `run` with a wrapped sum processes nothing and sets the clock back. -/
theorem not_forward_of_run_wraps {n : UInt64} (h : s.OnTime)
    (hw : ¬ NoSumWraps process s (.run n)) :
    ¬ Forward process (s.step process (.run n)) .round := by
  have hrun : s.endCycle = none ∧ ¬ s.sim.queue.curCycle.toNat + n.toNat < 2 ^ 64 := by
    by_contra hne
    refine hw ⟨fun c hc => ?_, fun n' hn hend => ?_⟩
    · rw [scheduleCalls_run] at hc
      exact absurd hc List.not_mem_nil
    · cases hn
      by_contra hlt
      exact hne ⟨hend, hlt⟩
  obtain ⟨hend, hsum⟩ := hrun
  have hback := add_lt_of_wraps hsum
  have hs : s.step process (.run n) =
      { s with endCycle := some (s.sim.queue.curCycle + n) } := by
    simp only [step, hend]
  have hdone : Sim.Done (s.sim.queue.curCycle + n) s.sim := fun e he =>
    UInt64.le_trans (UInt64.le_of_lt hback) (h.current e (Q.mem_of_top? he))
  intro hf
  rw [hs] at hf
  have hclock := hf.clock
  rw [step_done (s := { s with endCycle := some (s.sim.queue.curCycle + n) }) rfl hdone] at hclock
  exact absurd hback (UInt64.not_lt.mpr hclock)

end Step

/-! ## 3. Every sequence of calls -/

/-- The moves of a sequence of calls and rounds: `run` comes to the condition of its loop. -/
def calls : List (Move ε σ) → List (Move ε σ)
  | [] => []
  | .run n :: ms => .run n :: .round :: calls ms
  | m :: ms => m :: calls ms

/-- The same from any state in which nothing is overdue. -/
theorem forward_iff_of_onTime {process : Process ε σ} {s : Session Q σ} (h : s.OnTime)
    (ms : List (Move ε σ)) :
    Library.Along (step process) (Forward process) s (calls ms) ↔
      Library.Along (step process) (NoSumWraps process) s (calls ms) := by
  have hcons : ∀ (m : Move ε σ) (ms : List (Move ε σ)) (s : Session Q σ), s.OnTime →
      (∀ n, m ≠ .run n) →
      ((s.step process m).OnTime →
        (Library.Along (step process) (Forward process) (s.step process m) ms ↔
          Library.Along (step process) (NoSumWraps process) (s.step process m) ms)) →
      (Library.Along (step process) (Forward process) s (m :: ms) ↔
        Library.Along (step process) (NoSumWraps process) s (m :: ms)) := by
    intro m ms s h hm ih
    have hrest : NoSumWraps process s m → _ := fun hw => ih (onTime_of_noSumWraps h hw).1
    exact (and_congr_left' (forward_iff h hm)).trans (and_congr_right hrest)
  induction ms generalizing s with
  | nil => exact Iff.rfl
  | cons m ms ih =>
      cases m with
      | outside a => exact hcons _ _ s h (fun _ => by simp) ih
      | round => exact hcons _ _ s h (fun _ => by simp) ih
      | run n =>
          by_cases hw : NoSumWraps process s (.run n)
          · obtain ⟨hon, hf⟩ := onTime_of_noSumWraps h hw
            have hround := hcons .round (calls ms) (s.step process (.run n)) hon
              (fun _ => by simp) ih
            exact (and_iff_right hf).trans (hround.trans (and_iff_right hw).symm)
          · exact iff_of_false (fun hf => not_forward_of_run_wraps h hw hf.2.1)
              fun hn => hw hn.1

/-- **WHEN TIME RUNS BACKWARDS.** For every sequence of `schedule` and `run` calls on a new event
    queue, whatever its events do: the clock never goes back and no event is scheduled for the
    past exactly when no sum wraps. -/
theorem forward_iff_noSumWraps (process : Process ε σ) (x : σ) (ms : List (Move ε σ)) :
    Library.Along (step process) (Forward process)
        ({ sim := { state := x } } : Session Q σ) (calls ms) ↔
      Library.Along (step process) (NoSumWraps process)
        ({ sim := { state := x } } : Session Q σ) (calls ms) := by
  refine forward_iff_of_onTime ⟨fun e he => ?_, fun endCycle he => by cases he⟩ ms
  have hempty : (Q.elems Q.empty : Multiset _) = 0 := Q.elems_empty
  exact absurd (hempty ▸ he) (Multiset.notMem_zero e)

/-- Events that do nothing. -/
def inert : Process Unit Unit := fun _ _ x => (x, [])

/-- `run(10)`, then `run(UINT64_MAX)`: the clock goes from 10 to 9. -/
theorem clock_back :
    ¬ Library.Along (step inert) (Forward inert)
      ({ sim := { state := () } } :
        Session (Library.BinaryHeap.priorityQueue (Pending.key (ε := Unit))) Unit)
      (calls [.run 10, .run 0xFFFFFFFFFFFFFFFF]) :=
  fun h => absurd h.2.2.2.1.clock (by decide)

end Session

end Gem5Sc
