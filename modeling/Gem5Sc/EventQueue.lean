/-
  File:      Gem5Sc/EventQueue.lean
  Subject:   The event queue (`event_queue.hh`): `schedule`, `run`, and what a run executes.

  Three things are left open:

  * the events `ε` and the state `σ` of everything else;
  * what `process()` of an event does (`Process`): it sees the current cycle, changes `σ` and
    calls `schedule` some number of times. The cycle stands still while an event is processed, so
    the calls are given as a list, in order;
  * the structure behind `std::priority_queue` (`Q`).

  No event is scheduled again while it is pending (every `schedule` call of the program is given
  a new one), so a queue entry carries its own `fire_time`. Time is `UInt64` and wraps, as in the
  source.
-/
import Gem5Sc.Library.BinaryHeap
import Mathlib.Algebra.Order.Group.Nat
import Mathlib.Data.UInt

namespace Gem5Sc

universe u v

/-- A scheduled `Event` with its `fire_time`. -/
structure Pending (ε : Type u) where
  fireTime : UInt64
  event : ε
  deriving DecidableEq, Repr

/-- What `event_compare` compares. -/
def Pending.key {ε : Type u} (e : Pending ε) : Nat := e.fireTime.toNat

/-- What `process()` does: event, current cycle and state to the new state and the `schedule`
    calls, each an event and a delay. -/
abbrev Process (ε : Type u) (σ : Type v) := ε → UInt64 → σ → σ × List (ε × UInt64)

variable {ε : Type u} {σ : Type v}

/-- `class EventQueue`. -/
structure EventQueue (Q : Library.PriorityQueue (Pending ε) Pending.key) where
  queue : Q.Carrier := Q.empty
  curCycle : UInt64 := 0

namespace EventQueue

variable {Q : Library.PriorityQueue (Pending ε) Pending.key}

/-- `EventQueue::schedule`. -/
def schedule (q : EventQueue Q) (ev : ε) (delay : UInt64) : EventQueue Q :=
  { q with queue := Q.push q.queue ⟨q.curCycle + delay, ev⟩ }

/-- The `schedule` calls of one `process()`. -/
def scheduleAll (q : EventQueue Q) (calls : List (ε × UInt64)) : EventQueue Q :=
  calls.foldl (fun q c => q.schedule c.1 c.2) q

/-- The events in the queue. -/
def pending (q : EventQueue Q) : Multiset (Pending ε) := Q.elems q.queue

/-- Nothing in the queue is overdue. -/
def Current (q : EventQueue Q) : Prop := ∀ e ∈ q.pending, q.curCycle ≤ e.fireTime

@[simp] theorem schedule_curCycle (q : EventQueue Q) (ev : ε) (delay : UInt64) :
    (q.schedule ev delay).curCycle = q.curCycle := rfl

theorem pending_schedule (q : EventQueue Q) (ev : ε) (delay : UInt64) :
    (q.schedule ev delay).pending = ⟨q.curCycle + delay, ev⟩ ::ₘ q.pending :=
  Q.elems_push _ _

theorem scheduleAll_curCycle (q : EventQueue Q) (calls : List (ε × UInt64)) :
    (q.scheduleAll calls).curCycle = q.curCycle := by
  induction calls generalizing q with
  | nil => rfl
  | cons c calls ih => exact ih (q.schedule c.1 c.2)

theorem pending_scheduleAll (q : EventQueue Q) (calls : List (ε × UInt64)) :
    (q.scheduleAll calls).pending =
      q.pending + (calls.map fun c => ⟨q.curCycle + c.2, c.1⟩ : List (Pending ε)) := by
  induction calls generalizing q with
  | nil => simp [scheduleAll]
  | cons c calls ih =>
      show ((q.schedule c.1 c.2).scheduleAll calls).pending = _
      rw [ih, pending_schedule, schedule_curCycle, List.map_cons, ← Multiset.cons_coe,
        Multiset.cons_add, Multiset.add_cons]

end EventQueue

/-- One processed event: the queue entry, `getCurrentCycle()` while it was processed, and its
    `schedule` calls. -/
structure Fired (ε : Type u) where
  entry : Pending ε
  cycle : UInt64
  calls : List (ε × UInt64)
  deriving DecidableEq, Repr

namespace Fired

/-- The events it has added to the queue. -/
def added (f : Fired ε) : List (Pending ε) := f.calls.map fun c => ⟨f.cycle + c.2, c.1⟩

/-- None of its `schedule` calls wraps. -/
def NoWrap (f : Fired ε) : Prop := ∀ c ∈ f.calls, f.cycle.toNat + c.2.toNat < 2 ^ 64

end Fired

/-- The event queue and the state its events work on. -/
structure Sim (Q : Library.PriorityQueue (Pending ε) Pending.key) (σ : Type v) where
  queue : EventQueue Q := {}
  state : σ

namespace Sim

variable {Q : Library.PriorityQueue (Pending ε) Pending.key}

/-- `cur_cycle = c`. -/
def setCycle (s : Sim Q σ) (c : UInt64) : Sim Q σ := { s with queue := { s.queue with curCycle := c } }

/-- The body of the loop of `run`, for the event `e` on top of the queue. -/
def fire (process : Process ε σ) (s : Sim Q σ) (e : Pending ε) : Fired ε × Sim Q σ :=
  let q : EventQueue Q := { queue := Q.pop s.queue.queue, curCycle := e.fireTime }
  let r := process e.event q.curCycle s.state
  ({ entry := e, cycle := q.curCycle, calls := r.2 }, { queue := q.scheduleAll r.2, state := r.1 })

/-- The loop of `run`, with the events it has processed; `none` when it is still running after
    `fuel` rounds. -/
def loop (process : Process ε σ) (endCycle : UInt64) :
    Nat → Sim Q σ → Option (List (Fired ε) × Sim Q σ)
  | 0, _ => none
  | fuel + 1, s =>
      match Q.top? s.queue.queue with
      | none => some ([], s)
      | some e =>
          if e.fireTime < endCycle then
            let f := s.fire process e
            (loop process endCycle fuel f.2).map fun r => (f.1 :: r.1, r.2)
          else some ([], s)

/-- `EventQueue::run`. -/
def run (process : Process ε σ) (fuel : Nat) (numCycles : UInt64) (s : Sim Q σ) :
    Option (List (Fired ε) × Sim Q σ) :=
  let endCycle := s.queue.curCycle + numCycles
  (loop process endCycle fuel s).map fun r => (r.1, r.2.setCycle endCycle)

/-- One `run` after the other. -/
def runs (process : Process ε σ) (fuel : Nat) :
    List UInt64 → Sim Q σ → Option (List (Fired ε) × Sim Q σ)
  | [], s => some ([], s)
  | n :: ns, s =>
      match run process fuel n s with
      | none => none
      | some r => (runs process fuel ns r.2).map fun r' => (r.1 ++ r'.1, r'.2)

/-! ## 1. The two ways a round of the loop can go -/

/-- The loop is over: no event before the end cycle. -/
def Done (endCycle : UInt64) (s : Sim Q σ) : Prop :=
  ∀ e, Q.top? s.queue.queue = some e → endCycle ≤ e.fireTime

section Loop

variable {process : Process ε σ} {endCycle : UInt64} {s : Sim Q σ}

theorem loop_of_done (h : Done endCycle s) (fuel : Nat) :
    loop process endCycle (fuel + 1) s = some ([], s) := by
  unfold loop
  split
  · rfl
  · next e he => rw [if_neg (UInt64.not_lt.mpr (h e he))]

theorem loop_of_top {e : Pending ε} (he : Q.top? s.queue.queue = some e)
    (hlt : e.fireTime < endCycle) (fuel : Nat) :
    loop process endCycle (fuel + 1) s =
      (loop process endCycle fuel (s.fire process e).2).map
        fun r => ((s.fire process e).1 :: r.1, r.2) := by
  rw [loop, he]
  exact if_pos hlt

theorem done_or_top (endCycle : UInt64) (s : Sim Q σ) :
    Done endCycle s ∨ ∃ e, Q.top? s.queue.queue = some e ∧ e.fireTime < endCycle := by
  cases he : Q.top? s.queue.queue with
  | none => exact Or.inl fun e h => by rw [he] at h; cases h
  | some e =>
      by_cases hlt : e.fireTime < endCycle
      · exact Or.inr ⟨e, rfl, hlt⟩
      · refine Or.inl fun e' h => ?_
        rw [he, Option.some.injEq] at h
        exact h ▸ UInt64.not_lt.mp hlt

/-- Extra fuel does not change a result. -/
theorem loop_fuel {fuel : Nat} {r : List (Fired ε) × Sim Q σ}
    (h : loop process endCycle fuel s = some r) : loop process endCycle (fuel + 1) s = some r := by
  induction fuel generalizing s r with
  | zero => cases h
  | succ fuel ih =>
      rcases done_or_top endCycle s with hd | ⟨e, he, hlt⟩
      · rw [loop_of_done hd] at h ⊢
        exact h
      · rw [loop_of_top he hlt] at h ⊢
        obtain ⟨r', hr', rfl⟩ := Option.map_eq_some_iff.mp h
        rw [ih hr']
        rfl

end Loop

/-! ## 2. Invariants of the state -/

section Invariant

variable {process : Process ε σ} {I : σ → Prop}

/-- What every event keeps, a loop keeps. -/
theorem loop_invariant (hI : ∀ ev now x, I x → I (process ev now x).1) {endCycle : UInt64}
    (fuel : Nat) {s s' : Sim Q σ} {tr : List (Fired ε)} (h0 : I s.state)
    (h : loop process endCycle fuel s = some (tr, s')) : I s'.state := by
  induction fuel generalizing s tr with
  | zero => cases h
  | succ fuel ih =>
      rcases done_or_top endCycle s with hd | ⟨e, he, hlt⟩
      · rw [loop_of_done hd, Option.some.injEq, Prod.mk.injEq] at h
        exact h.2 ▸ h0
      · rw [loop_of_top he hlt] at h
        obtain ⟨⟨tr', s''⟩, hr, heq⟩ := Option.map_eq_some_iff.mp h
        obtain ⟨-, rfl⟩ := Prod.mk.inj heq
        exact ih (hI e.event e.fireTime s.state h0) hr

/-- What every event keeps, every sequence of runs keeps. -/
theorem runs_invariant (hI : ∀ ev now x, I x → I (process ev now x).1) (fuel : Nat)
    (ns : List UInt64) {s s' : Sim Q σ} {tr : List (Fired ε)} (h0 : I s.state)
    (h : runs process fuel ns s = some (tr, s')) : I s'.state := by
  induction ns generalizing s tr with
  | nil =>
      rw [runs, Option.some.injEq, Prod.mk.injEq] at h
      exact h.2 ▸ h0
  | cons n ns ih =>
      rw [runs] at h
      split at h
      · cases h
      · next r hr =>
          obtain ⟨⟨tr₁, s₁⟩, h1, heq⟩ := Option.map_eq_some_iff.mp hr
          obtain ⟨⟨tr₂, s₂⟩, h2, heq'⟩ := Option.map_eq_some_iff.mp h
          obtain ⟨-, rfl⟩ := Prod.mk.inj heq'
          have hs₁ : I s₁.state := loop_invariant hI fuel h0 h1
          have hs : I r.2.state := heq ▸ hs₁
          exact ih hs h2

end Invariant

end Sim

end Gem5Sc
