/-
  File:      Gem5Sc/Simulation/Returns.lean
  Subject:   THE SIMULATION RETURNS, for every system of modules.

  The events of a simulation never die out: a `TickEvent` arms itself for the next cycle. But
  nothing is scheduled for the cycle that is being processed. The calls an event makes are for the
  next cycle (`processEvent_calls`), so every sequence of runs ends (`Sim.runs_return`).
-/
import Gem5Sc.EventQueue.Rounds
import Gem5Sc.Simulation.Frame

namespace Gem5Sc.Fabric

theorem frame_calls : Frame fun f => ∀ c ∈ f.calls, c.2 = 1 where
  inst _ _ _ h := h
  schedule f a e h c hc := by
    rcases List.mem_append.mp hc with hc | hc
    · exact h c hc
    · rw [List.mem_singleton.mp hc]
  note _ _ _ _ h := h

/-- **Every `schedule` call of an event is for the next cycle.** -/
theorem processEvent_calls (ev : SimEvent) (now : UInt64) (w : Heap × Fabric)
    (hw : w.2.calls = []) : ∀ c ∈ (processEvent ev now w).2, c.2 = 1 := by
  have hnone : ∀ c ∈ w.2.calls, c.2 = 1 := by
    rw [hw]
    exact fun c hc => absurd hc List.not_mem_nil
  cases ev with
  | tick a =>
      intro c hc
      rcases List.mem_append.mp hc with hc | hc
      · exact tickModule_keeps frame_calls w hnone c hc
      · rw [List.mem_singleton.mp hc]
  | lambda a e => exact runLambda_keeps frame_calls e w hnone

theorem bounded_processEvent :
    Sim.Bounded processEvent (fun w : Heap × Fabric => w.2.calls = []) 1 where
  keeps ev now w hw := by
    cases ev <;> rfl
  delays ev now w hw c hc := by
    rw [processEvent_calls ev now w hw c hc]
    exact ⟨Nat.le_refl 1, Nat.le_refl 1⟩

/-- **THE SIMULATION RETURNS.** For every system of modules with any ports, pairs, packets and
    random numbers, any modules started in any order and every sequence of runs that leaves the
    64 bits of the clock: all runs return. -/
theorem simulation_returns (Q : Library.PriorityQueue (Pending SimEvent) Pending.key) (h : Heap)
    (insts : List Instance) (downPair upPair : Nat → Nat → Option (Nat × Nat))
    (draw : Nat → Draw) (order : List Nat) (ns : List UInt64)
    (hclock : (ns.map UInt64.toNat).sum < 2 ^ 64) :
    ∃ fuel r, Sim.runs processEvent fuel ns (start Q h insts downPair upPair draw order) =
      some r := by
  have hzero : (start Q h insts downPair upPair draw order).queue.curCycle.toNat = 0 :=
    congrArg UInt64.toNat (EventQueue.scheduleAll_curCycle _ _)
  refine Sim.runs_return bounded_processEvent ns rfl ?_ Nat.one_pos
  omega

end Gem5Sc.Fabric
