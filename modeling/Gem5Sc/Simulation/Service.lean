/-
  File:      Gem5Sc/Simulation/Service.lean
  Subject:   WHETHER THE PORTS ARE SERVICED, on every run of the whole simulation.

  A request leaves an input channel, and a queued packet an output channel, only in the `tick` of
  the port. These are written down in `Fabric.log`. No module ticks a port (`Module.tick_keeps`)
  and no event but a module's own does anything, so the log of every run is empty (`log_runs`),
  and a module whose channels hold something when it is ticked has not been serviced
  (`serviced_iff_idle`).
-/
import Gem5Sc.Simulation.Frame

namespace Gem5Sc.Fabric

/-- In the cycle of the tick each head of an input channel was offered exactly once, and each
    head of an output channel was tried exactly once. -/
structure Serviced (log : List Service) (t : TickRecord) : Prop where
  offered : ∀ x ∈ t.inputs, log.count (.offer t.cycle t.obj x.1 x.2) = 1
  tried : ∀ x ∈ t.outputs, log.count (.attempt t.cycle t.obj x.1 x.2) = 1

/-- The channels of the module were empty. -/
def Idle (t : TickRecord) : Prop := t.inputs = [] ∧ t.outputs = []

/-! ## 1. Nothing is written to the log -/

theorem frame_log (l : List Service) : Frame fun f => f.log = l where
  inst _ _ _ h := h
  schedule _ _ _ h := h
  note _ _ _ _ h := h

theorem processEvent_log {l : List Service} (ev : SimEvent) (now : UInt64) (w : Heap × Fabric)
    (hw : w.2.log = l) : (processEvent ev now w).1.2.log = l := by
  cases ev with
  | tick a => exact tickModule_keeps (frame_log l) w hw
  | lambda a e => exact runLambda_keeps (frame_log l) e w hw

variable (Q : Library.PriorityQueue (Pending SimEvent) Pending.key)

/-- **No port is ever ticked**, on any run of any system. -/
theorem log_runs (h : Heap) (insts : List Instance)
    (downPair upPair : Nat → Nat → Option (Nat × Nat)) (draw : Nat → Draw) (order : List Nat)
    (fuel : Nat) (ns : List UInt64) {tr : List (Fired SimEvent)} {s' : Sim Q (Heap × Fabric)}
    (hrun : Sim.runs processEvent fuel ns (start Q h insts downPair upPair draw order) =
      some (tr, s')) : s'.state.2.log = [] :=
  Sim.runs_invariant (I := fun w : Heap × Fabric => w.2.log = [])
    (fun ev now w hw => processEvent_log ev now w hw) fuel ns rfl hrun

/-- With an empty log only an idle module is serviced. -/
theorem serviced_nil_iff (t : TickRecord) : Serviced [] t ↔ Idle t := by
  refine ⟨fun h => ⟨?_, ?_⟩, fun h => ⟨fun x hx => ?_, fun x hx => ?_⟩⟩
  · refine List.eq_nil_iff_forall_not_mem.mpr fun x hx => ?_
    exact absurd (h.offered x hx) (by simp)
  · refine List.eq_nil_iff_forall_not_mem.mpr fun x hx => ?_
    exact absurd (h.tried x hx) (by simp)
  · rw [h.1] at hx
    exact absurd hx List.not_mem_nil
  · rw [h.2] at hx
    exact absurd hx List.not_mem_nil

/-- **PORTS AND TICKS.** For every system of modules with any ports, pairs and random numbers, in
    which any modules have been started with `initiate_tick`, and every sequence of runs: a tick
    of a module finds its ports serviced in that cycle if and only if all its channels were
    empty. -/
theorem serviced_iff_idle (h : Heap) (insts : List Instance)
    (downPair upPair : Nat → Nat → Option (Nat × Nat)) (draw : Nat → Draw) (order : List Nat)
    (fuel : Nat) (ns : List UInt64) (tr : List (Fired SimEvent)) (s' : Sim Q (Heap × Fabric))
    (hrun : Sim.runs processEvent fuel ns (start Q h insts downPair upPair draw order) =
      some (tr, s')) :
    ∀ t ∈ s'.state.2.ticked, Serviced s'.state.2.log t ↔ Idle t := by
  intro t _
  rw [log_runs Q h insts downPair upPair draw order fuel ns hrun]
  exact serviced_nil_iff t

/-! ## 2. A CPU and a memory -/

/-- One channel of four slots from the CPU to the memory. -/
def cpuMem : List Instance :=
  [{ name := "cpu", mod := .cpu {}, down := [DownstreamPort.create 0 [4] [] "mem"] },
   { name := "mem", mod := .memory, up := [UpstreamPort.create 0 [4] [] "cpu"] }]

/-- The CPU and the memory started, every random number zero. -/
def cpuMemStart : Sim (Library.BinaryHeap.priorityQueue (Pending.key (ε := SimEvent)))
    (Heap × Fabric) :=
  start _ {} cpuMem (fun a i => if a = 0 ∧ i = 0 then some (1, 0) else none)
    (fun a j => if a = 1 ∧ j = 0 then some (0, 0) else none) (fun _ => default) [0, 1]

theorem cpuMem_serviced_iff_idle : ∃ r, Sim.runs processEvent 10 [3] cpuMemStart = some r ∧
    ∀ t ∈ r.2.state.2.ticked, Serviced r.2.state.2.log t ↔ Idle t := by
  have hret : (Sim.runs processEvent 10 [3] cpuMemStart).isSome := by decide
  obtain ⟨r, hr⟩ := Option.isSome_iff_exists.mp hret
  exact ⟨r, hr, serviced_iff_idle _ _ _ _ _ _ _ 10 [3] r.1 r.2 hr⟩

/-- In cycle 1 the CPU sends a request, in cycle 2 the memory is ticked with it in its input
    channel, and nobody offers it. -/
theorem cpuMem_not_serviced : ∃ r, Sim.runs processEvent 10 [3] cpuMemStart = some r ∧
    ∃ t ∈ r.2.state.2.ticked, t.cycle = 2 ∧ ¬ Serviced r.2.state.2.log t := by
  refine ⟨(Sim.runs processEvent 10 [3] cpuMemStart).get (by decide), (Option.some_get _).symm,
    { cycle := 2, obj := 1, inputs := [(0, 0)], outputs := [] }, by decide, rfl, fun h => ?_⟩
  exact absurd (h.offered (0, 0) (List.mem_singleton_self _)) (by decide)

end Gem5Sc.Fabric
