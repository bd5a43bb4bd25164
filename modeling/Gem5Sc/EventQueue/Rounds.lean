/-
  File:      Gem5Sc/EventQueue/Rounds.lean
  Subject:   THE ROUNDS OF A RUN, and why `run` always comes to an end.

  * `Sim.rounds` -- what the loop of `run` has done after at most `k` rounds; it is total, so it
    also speaks of a run that never returns;
  * `rounds_of_loop` -- the loop is its own first `k` rounds, for some `k`;
  * `run_returns` -- where every `schedule` call has a positive delay and none wraps, `run(n)`
    returns;
  * `runs_return` -- and so does one run after the other, for events with bounded delays.

  The queue may grow in every round, so its size is no measure. What goes down is the multiset of
  the times the pending events still have before the end cycle: a round takes one of them out and
  puts in any number of smaller ones, which is well-founded (`WellFounded.cutExpand`).
-/
import Gem5Sc.EventQueue.Ticks
import Mathlib.Logic.Hydra

namespace Gem5Sc

universe u v

variable {ε : Type u} {σ : Type v} {Q : Library.PriorityQueue (Pending ε) Pending.key}

namespace Sim

/-- At most `k` rounds of the loop of `run`, with the events they process. -/
def rounds (process : Process ε σ) (endCycle : UInt64) :
    Nat → Sim Q σ → List (Fired ε) × Sim Q σ
  | 0, s => ([], s)
  | k + 1, s =>
      match Q.top? s.queue.queue with
      | none => ([], s)
      | some e =>
          if e.fireTime < endCycle then
            let f := s.fire process e
            let r := rounds process endCycle k f.2
            (f.1 :: r.1, r.2)
          else ([], s)

section Rounds

variable {process : Process ε σ} {endCycle : UInt64} {s : Sim Q σ}

theorem rounds_of_done (h : Done endCycle s) (k : Nat) :
    rounds process endCycle k s = ([], s) := by
  cases k with
  | zero => rfl
  | succ k =>
      unfold rounds
      split
      · rfl
      · next e he => rw [if_neg (UInt64.not_lt.mpr (h e he))]

theorem rounds_of_top {e : Pending ε} (he : Q.top? s.queue.queue = some e)
    (hlt : e.fireTime < endCycle) (k : Nat) :
    rounds process endCycle (k + 1) s =
      ((s.fire process e).1 :: (rounds process endCycle k (s.fire process e).2).1,
        (rounds process endCycle k (s.fire process e).2).2) := by
  rw [rounds, he]
  exact if_pos hlt

/-- A loop that returns is its own rounds. -/
theorem rounds_of_loop {fuel : Nat} {r : List (Fired ε) × Sim Q σ}
    (h : loop process endCycle fuel s = some r) : rounds process endCycle fuel s = r := by
  induction fuel generalizing s r with
  | zero => cases h
  | succ fuel ih =>
      rcases done_or_top endCycle s with hd | ⟨e, he, hlt⟩
      · rw [loop_of_done hd, Option.some.injEq] at h
        rw [rounds_of_done hd, h]
      · rw [loop_of_top he hlt] at h
        obtain ⟨r', hr, rfl⟩ := Option.map_eq_some_iff.mp h
        rw [rounds_of_top he hlt, ih hr]

/-- What `rounds` has processed: events due before the end cycle, each with the calls it made in
    a state with everything that all events keep. -/
theorem of_mem_rounds {I : σ → Prop} (hI : ∀ ev now x, I x → I (process ev now x).1) {k : Nat}
    {f : Fired ε} (hs : I s.state) (h : f ∈ (rounds process endCycle k s).1) :
    f.cycle < endCycle ∧ ∃ x, I x ∧ f.calls = (process f.entry.event f.cycle x).2 := by
  induction k generalizing s with
  | zero => exact absurd h List.not_mem_nil
  | succ k ih =>
      rcases done_or_top endCycle s with hd | ⟨e, he, hlt⟩
      · rw [rounds_of_done hd] at h
        exact absurd h List.not_mem_nil
      · rw [rounds_of_top he hlt] at h
        rcases List.mem_cons.mp h with rfl | h
        · exact ⟨hlt, s.state, hs, rfl⟩
        · exact ih (hI e.event e.fireTime s.state hs) h

end Rounds

/-! ## 1. Termination -/

/-- The time an event still has before the end cycle. -/
def timeLeft (endCycle : UInt64) (e : Pending ε) : Nat := endCycle.toNat - e.fireTime.toNat

/-- The measure of the loop. -/
def remaining (endCycle : UInt64) (s : Sim Q σ) : Multiset Nat := s.pending.map (timeLeft endCycle)

/-- A `schedule` call with a positive delay is for a later cycle. -/
theorem timeLeft_added_lt {endCycle : UInt64} {f : Fired ε} (hdue : f.cycle < endCycle)
    (hpos : ∀ c ∈ f.calls, 1 ≤ c.2) (hw : f.NoWrap) {x : Pending ε} (hx : x ∈ f.added) :
    timeLeft endCycle x < endCycle.toNat - f.cycle.toNat := by
  obtain ⟨c, hc, rfl⟩ := List.mem_map.mp hx
  have hdelay : 1 ≤ c.2.toNat := UInt64.le_iff_toNat_le.mp (hpos c hc)
  have hlater : (f.cycle + c.2).toNat = f.cycle.toNat + c.2.toNat := toNat_add_of_lt (hw c hc)
  have hlt : f.cycle.toNat < endCycle.toNat := UInt64.lt_iff_toNat_lt.mp hdue
  show endCycle.toNat - (f.cycle + c.2).toNat < _
  omega

/-- **A round goes down.** -/
theorem remaining_fire {process : Process ε σ} {endCycle : UInt64} {s : Sim Q σ} {e : Pending ε}
    (he : Q.top? s.queue.queue = some e) (hlt : e.fireTime < endCycle)
    (hpos : ∀ c ∈ (s.fire process e).1.calls, 1 ≤ c.2) (hw : (s.fire process e).1.NoWrap) :
    Relation.CutExpand (· < ·) (remaining endCycle (s.fire process e).2)
      (remaining endCycle s) := by
  have hfire : e ::ₘ (s.fire process e).2.pending =
      s.pending + ((s.fire process e).1.added : Multiset (Pending ε)) := pending_fire he
  refine ⟨((s.fire process e).1.added : Multiset (Pending ε)).map (timeLeft endCycle),
    timeLeft endCycle e, fun t ht => ?_, ?_⟩
  · obtain ⟨x, hx, rfl⟩ := Multiset.mem_map.mp ht
    exact timeLeft_added_lt (f := (s.fire process e).1) hlt hpos hw (Multiset.mem_coe.mp hx)
  · have hmap := congrArg (Multiset.map (timeLeft endCycle)) hfire
    rw [Multiset.map_cons, Multiset.map_add] at hmap
    rw [Multiset.add_comm, Multiset.singleton_add]
    exact hmap

/-- The loop comes to an end. The induction is on the times the pending events have left. -/
theorem loop_returns (process : Process ε σ) (endCycle : UInt64) (s : Sim Q σ)
    (hpos : ∀ k, ∀ f ∈ (rounds process endCycle k s).1, ∀ c ∈ f.calls, 1 ≤ c.2)
    (hw : ∀ k, ∀ f ∈ (rounds process endCycle k s).1, f.NoWrap) :
    ∃ fuel r, loop process endCycle fuel s = some r := by
  have hwf : WellFounded (Relation.CutExpand (α := Nat) (· < ·)) := wellFounded_lt.cutExpand
  induction hm : remaining endCycle s using hwf.induction generalizing s with
  | _ m ih =>
      rcases done_or_top endCycle s with hd | ⟨e, he, hlt⟩
      · exact ⟨1, ([], s), loop_of_done hd 0⟩
      · have hlater : ∀ k, ∀ f ∈ (rounds process endCycle k (s.fire process e).2).1,
            f ∈ (rounds process endCycle (k + 1) s).1 := by
          intro k f hf
          rw [rounds_of_top he hlt]
          exact List.mem_cons_of_mem _ hf
        have hfirst : (s.fire process e).1 ∈ (rounds process endCycle 1 s).1 := by
          rw [rounds_of_top he hlt]
          exact List.mem_cons_self
        have hdown : Relation.CutExpand (· < ·) (remaining endCycle (s.fire process e).2) m := by
          rw [← hm]
          exact remaining_fire he hlt (hpos 1 _ hfirst) (hw 1 _ hfirst)
        obtain ⟨fuel, r, hr⟩ := ih _ hdown (s.fire process e).2
          (fun k f hf => hpos (k + 1) f (hlater k f hf))
          (fun k f hf => hw (k + 1) f (hlater k f hf)) rfl
        refine ⟨fuel + 1, ((s.fire process e).1 :: r.1, r.2), ?_⟩
        rw [loop_of_top he hlt, hr]
        rfl

/-- **`run` RETURNS.** For every queue, every family of events and every `n`: if the events that
    `run(n)` processes schedule others with a delay of at least 1 only, any number of them, and no
    addition to the current cycle wraps, then `run(n)` comes to an end. -/
theorem run_returns (process : Process ε σ) (n : UInt64) (s : Sim Q σ)
    (hpos : ∀ k, ∀ f ∈ (rounds process (s.queue.curCycle + n) k s).1, ∀ c ∈ f.calls, 1 ≤ c.2)
    (hw : ∀ k, ∀ f ∈ (rounds process (s.queue.curCycle + n) k s).1, f.NoWrap) :
    ∃ fuel r, run process fuel n s = some r := by
  obtain ⟨fuel, r, hr⟩ := loop_returns process (s.queue.curCycle + n) s hpos hw
  refine ⟨fuel, (r.1, r.2.setCycle (s.queue.curCycle + n)), ?_⟩
  rw [run, hr]
  rfl

/-- Every event arms itself for the next cycle and adds its successor two cycles on, so that the
    queue grows in every round. -/
def spread : Process Nat Nat := fun ev _ x => (x + 1, [(ev, 1), (ev + 1, 2)])

/-- The heap with event 0 due in cycle 0. -/
def spreadStart : Sim (Library.BinaryHeap.priorityQueue (Pending.key (ε := Nat))) Nat where
  queue := ({} : EventQueue _).schedule 0 0
  state := 0

example : (run spread 20 4 spreadStart).map (fun r => r.2.state) = some 7 := by decide

/-- Growing queues do not keep `run` from returning. -/
theorem run_returns_spread : ∃ fuel r, run spread fuel 1000 spreadStart = some r := by
  refine run_returns spread 1000 spreadStart (fun k f hf c hc => ?_) (fun k f hf c hc => ?_)
  · obtain ⟨-, x, -, hcalls⟩ := of_mem_rounds (I := fun _ => True) (fun _ _ _ h => h) trivial hf
    have hdelay : ∀ c ∈ (spread f.entry.event f.cycle x).2, 1 ≤ c.2 := by simp [spread]
    exact hdelay c (hcalls ▸ hc)
  · obtain ⟨hdue, x, -, hcalls⟩ :=
      of_mem_rounds (I := fun _ => True) (fun _ _ _ h => h) trivial hf
    have hcycle : f.cycle.toNat < 1000 := UInt64.lt_iff_toNat_lt.mp hdue
    have hdelay : ∀ c ∈ (spread f.entry.event f.cycle x).2, c.2.toNat ≤ 2 := by simp [spread]
    have hc2 : c.2.toNat ≤ 2 := hdelay c (hcalls ▸ hc)
    omega

/-! ## 2. One run after the other -/

/-- While `I` holds, an event keeps it and schedules for one to `d` cycles later. -/
structure Bounded (process : Process ε σ) (I : σ → Prop) (d : Nat) : Prop where
  keeps : ∀ ev now x, I x → I (process ev now x).1
  delays : ∀ ev now x, I x → ∀ c ∈ (process ev now x).2, 1 ≤ c.2.toNat ∧ c.2.toNat ≤ d

section Runs

variable {process : Process ε σ} {I : σ → Prop} {d : Nat}

/-- With the end cycle `d` below the largest number nothing wraps. -/
theorem loop_returns_of_bounded (hb : Bounded process I d) (endCycle : UInt64)
    (hend : endCycle.toNat + d ≤ 2 ^ 64) {s : Sim Q σ} (hs : I s.state) :
    ∃ fuel r, loop process endCycle fuel s = some r := by
  refine loop_returns process endCycle s (fun k f hf c hc => ?_) (fun k f hf c hc => ?_)
  · obtain ⟨-, x, hx, hcalls⟩ := of_mem_rounds hb.keeps hs hf
    exact UInt64.le_iff_toNat_le.mpr (hb.delays _ _ x hx c (hcalls ▸ hc)).1
  · obtain ⟨hdue, x, hx, hcalls⟩ := of_mem_rounds hb.keeps hs hf
    have hcycle : f.cycle.toNat < endCycle.toNat := UInt64.lt_iff_toNat_lt.mp hdue
    have hdelay : c.2.toNat ≤ d := (hb.delays _ _ x hx c (hcalls ▸ hc)).2
    omega

theorem run_fuel {fuel more : Nat} (hle : fuel ≤ more) {n : UInt64} {s : Sim Q σ}
    {r : List (Fired ε) × Sim Q σ} (h : run process fuel n s = some r) :
    run process more n s = some r := by
  obtain ⟨r', hr, rfl⟩ := Option.map_eq_some_iff.mp h
  have hmore : loop process (s.queue.curCycle + n) more s = some r' := by
    induction hle with
    | refl => exact hr
    | step _ ih => exact loop_fuel ih
  rw [run, hmore]
  rfl

theorem runs_fuel {fuel more : Nat} (hle : fuel ≤ more) {ns : List UInt64} {s : Sim Q σ}
    {r : List (Fired ε) × Sim Q σ} (h : runs process fuel ns s = some r) :
    runs process more ns s = some r := by
  induction ns generalizing s r with
  | nil => exact h
  | cons n ns ih =>
      unfold runs at h ⊢
      cases hrun : run process fuel n s with
      | none =>
          rw [hrun] at h
          cases h
      | some r₁ =>
          rw [hrun] at h
          obtain ⟨r₂, hr₂, rfl⟩ := Option.map_eq_some_iff.mp h
          rw [run_fuel hle hrun]
          exact Option.map_eq_some_iff.mpr ⟨r₂, ih hr₂, rfl⟩

/-- **Every sequence of runs returns**, as long as the clock does not come within `d` of its end. -/
theorem runs_return (hb : Bounded process I d) (ns : List UInt64) {s : Sim Q σ} (hs : I s.state)
    (hclock : s.queue.curCycle.toNat + (ns.map UInt64.toNat).sum + d ≤ 2 ^ 64) (hd : 0 < d) :
    ∃ fuel r, runs process fuel ns s = some r := by
  induction ns generalizing s with
  | nil => exact ⟨0, ([], s), rfl⟩
  | cons n ns ih =>
      rw [List.map_cons, List.sum_cons] at hclock
      have hend : (s.queue.curCycle + n).toNat = s.queue.curCycle.toNat + n.toNat :=
        toNat_add_of_lt (by omega)
      obtain ⟨fuel₁, r, hr⟩ :=
        loop_returns_of_bounded hb (s.queue.curCycle + n) (by omega) hs
      have hrun : run process fuel₁ n s = some (r.1, r.2.setCycle (s.queue.curCycle + n)) := by
        rw [run, hr]
        rfl
      have hstate : I r.2.state := loop_invariant hb.keeps fuel₁ hs hr
      have hlater : (r.2.setCycle (s.queue.curCycle + n)).queue.curCycle.toNat +
          (ns.map UInt64.toNat).sum + d ≤ 2 ^ 64 := by
        show (s.queue.curCycle + n).toNat + _ + d ≤ 2 ^ 64
        omega
      obtain ⟨fuel₂, r', hr'⟩ := ih (s := r.2.setCycle (s.queue.curCycle + n)) hstate hlater
      refine ⟨max fuel₁ fuel₂, (r.1 ++ r'.1, r'.2), ?_⟩
      unfold runs
      rw [run_fuel (Nat.le_max_left fuel₁ fuel₂) hrun]
      exact Option.map_eq_some_iff.mpr ⟨r', runs_fuel (Nat.le_max_right fuel₁ fuel₂) hr', rfl⟩

end Runs

end Sim

end Gem5Sc
