/-
  File:      Gem5Sc/EventQueue/Law.lean
  Subject:   WHAT A RUN OF THE EVENT QUEUE EXECUTES, and why it may be cut into pieces.

  * `run_law` -- `run(n)` processes exactly the events due before its end cycle, those it
    schedules itself included, in time order, and leaves the rest;
  * `run_split` -- `run(a)` followed by `run(b)` is `run(a + b)`.

  Both are inductions over the rounds of the loop (`loop_of_done`, `loop_of_top`). The invariant of
  the first is `EventQueue.Current`: nothing in the queue is overdue. A round keeps it, because the
  popped event has the least `fire_time` and what it schedules is not before the cycle it runs in.
-/
import Gem5Sc.EventQueue
import Mathlib.Algebra.Order.Monoid.Unbundled.Basic

namespace Gem5Sc

universe u v

variable {ε : Type u} {σ : Type v} {Q : Library.PriorityQueue (Pending ε) Pending.key}

/-- The events scheduled during a run. -/
def addedBy (tr : List (Fired ε)) : List (Pending ε) := tr.flatMap Fired.added

namespace Sim

/-- The events in the queue. -/
def pending (s : Sim Q σ) : Multiset (Pending ε) := s.queue.pending

@[simp] theorem fire_curCycle (process : Process ε σ) (s : Sim Q σ) (e : Pending ε) :
    (s.fire process e).2.queue.curCycle = e.fireTime :=
  EventQueue.scheduleAll_curCycle _ _

section Fire

variable {process : Process ε σ} {s : Sim Q σ} {e : Pending ε}

/-- One round moves the top from the queue to the processed events and adds what it schedules. -/
theorem pending_fire (he : Q.top? s.queue.queue = some e) :
    e ::ₘ (s.fire process e).2.pending = s.pending + ((s.fire process e).1.added : Multiset _) := by
  have hq : s.pending = e ::ₘ Q.elems (Q.pop s.queue.queue) := Q.elems_pop _ _ he
  rw [hq, Multiset.cons_add]
  exact congrArg (e ::ₘ ·) (EventQueue.pending_scheduleAll _ _)

/-- A round keeps the queue free of overdue events. -/
theorem current_fire (he : Q.top? s.queue.queue = some e)
    (hw : (s.fire process e).1.NoWrap) : (s.fire process e).2.queue.Current := by
  intro x hx
  rw [fire_curCycle]
  have hx' : x ∈ Q.elems (Q.pop s.queue.queue) ∨ x ∈ (s.fire process e).1.added := by
    have h := EventQueue.pending_scheduleAll
      ({ queue := Q.pop s.queue.queue, curCycle := e.fireTime } : EventQueue Q)
      (s.fire process e).1.calls
    have hx2 : x ∈ Q.elems (Q.pop s.queue.queue) + ((s.fire process e).1.added : Multiset _) :=
      h ▸ hx
    rw [Multiset.mem_add] at hx2
    exact hx2
  rcases hx' with hx | hx
  · exact UInt64.le_iff_toNat_le.mpr (Q.le_of_mem_pop he hx)
  · obtain ⟨c, hc, rfl⟩ := List.mem_map.mp hx
    have hnw : e.fireTime.toNat + c.2.toNat < 2 ^ 64 := hw c hc
    show e.fireTime ≤ e.fireTime + c.2
    rw [UInt64.le_iff_toNat_le, UInt64.toNat_add, Nat.mod_eq_of_lt hnw]
    omega

end Fire

/-! ## 1. The execution law -/

/-- What the loop does, before `run` sets the end cycle. -/
structure LoopLaw (endCycle : UInt64) (s : Sim Q σ) (tr : List (Fired ε)) (s' : Sim Q σ) : Prop where
  processed : (tr.map Fired.entry : Multiset (Pending ε)) =
    (s.pending + (addedBy tr : Multiset _)).filter (·.fireTime < endCycle)
  ordered : tr.Pairwise fun f g => f.entry.fireTime ≤ g.entry.fireTime
  onTime : ∀ f ∈ tr, f.cycle = f.entry.fireTime
  notBefore : ∀ f ∈ tr, s.queue.curCycle ≤ f.entry.fireTime
  remaining : s'.pending =
    (s.pending + (addedBy tr : Multiset _)).filter (endCycle ≤ ·.fireTime)

/-- What is left when the loop is over is not due. -/
theorem Done.le_fireTime {endCycle : UInt64} {s : Sim Q σ} (h : Done endCycle s) {x : Pending ε}
    (hx : x ∈ s.pending) : endCycle ≤ x.fireTime := by
  cases ht : Q.top? s.queue.queue with
  | none =>
      have h0 : s.pending = 0 := Q.elems_of_top?_none _ ht
      rw [h0] at hx
      exact absurd hx (Multiset.notMem_zero x)
  | some e =>
      have hle := UInt64.le_iff_toNat_le.mp (h e ht)
      have hex : e.fireTime.toNat ≤ x.fireTime.toNat := Q.key_top?_le _ e ht x hx
      exact UInt64.le_iff_toNat_le.mpr (hle.trans hex)

/-- A loop that is over has nothing left to process. -/
theorem LoopLaw.done {endCycle : UInt64} {s : Sim Q σ} (h : Done endCycle s) :
    LoopLaw endCycle s [] s := by
  have hlate : ∀ x ∈ s.pending, endCycle ≤ x.fireTime := fun x hx => h.le_fireTime hx
  refine ⟨?_, List.Pairwise.nil, fun f hf => absurd hf List.not_mem_nil,
    fun f hf => absurd hf List.not_mem_nil, ?_⟩
  · refine (Multiset.filter_eq_nil.mpr fun x hx => ?_).symm
    exact UInt64.not_lt.mpr (hlate x (by simpa [addedBy] using hx))
  · have hself := Multiset.filter_eq_self.mpr hlate
    simpa [addedBy] using hself.symm

/-- One more round in front. -/
theorem LoopLaw.round {process : Process ε σ} {endCycle : UInt64} {s s' : Sim Q σ} {e : Pending ε}
    {tr : List (Fired ε)} (hcur : s.queue.Current) (he : Q.top? s.queue.queue = some e)
    (hlt : e.fireTime < endCycle) (h : LoopLaw endCycle (s.fire process e).2 tr s') :
    LoopLaw endCycle s ((s.fire process e).1 :: tr) s' := by
  -- everything that is in the queue at some time: the top, and what the rest of the loop sees
  have hall : s.pending + (addedBy ((s.fire process e).1 :: tr) : Multiset (Pending ε)) =
      e ::ₘ ((s.fire process e).2.pending + (addedBy tr : Multiset (Pending ε))) := by
    rw [← Multiset.cons_add, pending_fire he, addedBy, List.flatMap_cons, ← Multiset.coe_add,
      ← Multiset.add_assoc]
    rfl
  have htop : s.queue.curCycle ≤ e.fireTime := hcur e (Q.mem_of_top? he)
  have hlater : ∀ f ∈ tr, e.fireTime ≤ f.entry.fireTime := by
    intro f hf
    rw [← fire_curCycle process s e]
    exact h.notBefore f hf
  refine ⟨?_, ?_, ?_, ?_, ?_⟩
  · rw [hall, Multiset.filter_cons_of_pos (p := fun x : Pending ε => x.fireTime < endCycle) _ hlt,
      ← h.processed]
    rfl
  · exact List.pairwise_cons.mpr ⟨hlater, h.ordered⟩
  · intro f hf
    rcases List.mem_cons.mp hf with rfl | hf
    · rfl
    · exact h.onTime f hf
  · intro f hf
    rcases List.mem_cons.mp hf with rfl | hf
    · exact htop
    · exact UInt64.le_trans htop (hlater f hf)
  · rw [hall, Multiset.filter_cons_of_neg (p := fun x : Pending ε => endCycle ≤ x.fireTime) _
      (UInt64.not_le.mpr hlt)]
    exact h.remaining

section Split

variable {process : Process ε σ}

/-- A round overwrites the cycle before it reads it. -/
theorem fire_setCycle (s : Sim Q σ) (c : UInt64) (e : Pending ε) :
    (s.setCycle c).fire process e = s.fire process e := rfl

/-- The cycle a loop starts in has no influence on what it does, once the end cycle is set. -/
theorem loop_setCycle (endCycle c : UInt64) (fuel : Nat) (s : Sim Q σ) :
    (loop process endCycle fuel (s.setCycle c)).map (fun r => (r.1, r.2.setCycle endCycle)) =
      (loop process endCycle fuel s).map fun r => (r.1, r.2.setCycle endCycle) := by
  cases fuel with
  | zero => rfl
  | succ fuel =>
      rcases done_or_top endCycle s with hd | ⟨e, he, hlt⟩
      · have hd' : Done endCycle (s.setCycle c) := hd
        rw [loop_of_done hd, loop_of_done hd']
        rfl
      · have he' : Q.top? (s.setCycle c).queue.queue = some e := he
        rw [loop_of_top he hlt, loop_of_top he' hlt, fire_setCycle]

/-- A loop up to a later cycle goes through the state where the loop up to an earlier one stops. -/
theorem loop_split {mid endCycle : UInt64} (hle : mid ≤ endCycle) (fuel : Nat) {s s' : Sim Q σ}
    {tr : List (Fired ε)} (h : loop process endCycle fuel s = some (tr, s')) :
    ∃ tr₁ s₁ tr₂, loop process mid fuel s = some (tr₁, s₁) ∧
      loop process endCycle fuel s₁ = some (tr₂, s') ∧ tr = tr₁ ++ tr₂ := by
  induction fuel generalizing s tr with
  | zero => cases h
  | succ fuel ih =>
      rcases done_or_top mid s with hd | ⟨e, he, hlt⟩
      · exact ⟨[], s, tr, loop_of_done hd fuel, h, rfl⟩
      · have hlt' : e.fireTime < endCycle := by
          rw [UInt64.lt_iff_toNat_lt] at hlt ⊢
          rw [UInt64.le_iff_toNat_le] at hle
          omega
        rw [loop_of_top he hlt'] at h
        obtain ⟨⟨tr', s''⟩, hr, heq⟩ := Option.map_eq_some_iff.mp h
        obtain ⟨rfl, rfl⟩ := Prod.mk.inj heq
        obtain ⟨tr₁, s₁, tr₂, h1, h2, rfl⟩ := ih hr
        refine ⟨(s.fire process e).1 :: tr₁, s₁, tr₂, ?_, loop_fuel h2, rfl⟩
        rw [loop_of_top he hlt, h1]
        rfl

/-- **SPLITTING A RUN.** For every state of the queue, every family of events, and all `a` and `b`
    such that `run(a + b)` returns and its end cycle does not wrap: `run(a)` returns, `run(b)` from
    the state it leaves returns, the two process the same events in the same order at the same
    cycles, and they end in the same state of cycle, queue and modules. -/
theorem run_split (process : Process ε σ) (fuel : Nat) (a b : UInt64) (s s' : Sim Q σ)
    (tr : List (Fired ε)) (hend : s.queue.curCycle.toNat + a.toNat + b.toNat < 2 ^ 64)
    (hrun : run process fuel (a + b) s = some (tr, s')) :
    ∃ tr₁ s₁ tr₂, run process fuel a s = some (tr₁, s₁) ∧
      run process fuel b s₁ = some (tr₂, s') ∧ tr = tr₁ ++ tr₂ := by
  obtain ⟨⟨tr', s''⟩, hr, heq⟩ := Option.map_eq_some_iff.mp hrun
  obtain ⟨rfl, rfl⟩ := Prod.mk.inj heq
  have hle : s.queue.curCycle + a ≤ s.queue.curCycle + (a + b) := by
    rw [UInt64.le_iff_toNat_le, ← UInt64.add_assoc, UInt64.toNat_add, UInt64.toNat_add,
      UInt64.toNat_add, Nat.mod_eq_of_lt (by omega), Nat.mod_eq_of_lt hend]
    omega
  obtain ⟨tr₁, s₁, tr₂, h1, h2, htr⟩ := loop_split hle fuel hr
  refine ⟨tr₁, s₁.setCycle (s.queue.curCycle + a), tr₂, ?_, ?_, htr⟩
  · rw [run, h1]
    rfl
  · have hcycle : (s₁.setCycle (s.queue.curCycle + a)).queue.curCycle + b =
        s.queue.curCycle + (a + b) := UInt64.add_assoc _ _ _
    rw [run, hcycle, loop_setCycle, h2]
    rfl

end Split

/-! ## 3. The two laws on a run of the heap -/

/-- Event 0 schedules itself for the next cycle and event 1 for the current one. -/
def echo : Process Nat (List Nat) := fun ev _ seen =>
  (seen ++ [ev], if ev = 0 then [(0, 1), (1, 0)] else [])

/-- The heap with event 0 due in cycle 0. -/
def echoStart : Sim (Library.BinaryHeap.priorityQueue (Pending.key (ε := Nat))) (List Nat) where
  queue := ({} : EventQueue _).schedule 0 0
  state := []

example : (run echo 10 2 echoStart).map (fun r => r.2.state) = some [0, 1, 0, 1] := by decide

/-- `run(3)` as `run(1)` and `run(2)`. -/
theorem run_split_echo : ∃ r tr₁ s₁ tr₂, run echo 10 3 echoStart = some r ∧
    run echo 10 1 echoStart = some (tr₁, s₁) ∧ run echo 10 2 s₁ = some (tr₂, r.2) ∧
    r.1 = tr₁ ++ tr₂ := by
  have hret : (run echo 10 3 echoStart).isSome := by decide
  obtain ⟨r, hr⟩ := Option.isSome_iff_exists.mp hret
  obtain ⟨tr₁, s₁, tr₂, h1, h2, h3⟩ := run_split echo 10 1 2 echoStart r.2 r.1 (by decide) hr
  exact ⟨r, tr₁, s₁, tr₂, hr, h1, h2, h3⟩

end Sim

end Gem5Sc
