/-
  File:      Gem5Sc/Program.lean
  Subject:   THE PROGRAM: `main`, from the command line to the end of the simulation.

  `main` loads `configs/base.json`, whatever the command line says, builds the system, starts the
  ticks, writes the topology and runs for 10000 cycles. Three things meet here. `instantiateAll`
  takes the name of a file, `main` hands it what a file holds (`instantiateAll_file`). No code
  fills the member `instances` whose objects `startAllTicks` starts (`startAllTicks_nil`). And
  `dumpToDot` reads an object. So `main` throws, unless the file holds nothing but the name of a
  configuration and the topology cannot be written; and then nothing happens in the 10000 cycles
  (`main_ok_iff`).
-/
import Gem5Sc.ModuleFactory.Resolved
import Gem5Sc.Modules.Dispatch
import Gem5Sc.Topology.Completion

namespace Gem5Sc

open Double (lit)

/-- `REGISTER_OBJECT` and `REGISTER_MODULE`. No constructor creates a port. -/
def registered : Registries where
  objects := registerObject.map fun e => (e.1, {})
  modules := [("CpuCluster", {})]

/-- The process when `main` has registered its types. -/
def World.launched : World := { registries := registered }

/-- The member `layout` of an object, which the construction sets to integers. -/
def World.layoutOf {F : Type} [Double F] (w : World) (o : ObjId) : F × F :=
  let l := (w.objects[o]?).elim (-1, -1) SimObject.layout
  (lit l.1, lit l.2)

namespace Program

/-- How `main` can end otherwise. -/
inductive Failure where
  /-- Exit code 1. -/
  | usage
  | config (e : ConfigError)
  | dump (e : DumpError)
  /-- The simulation is still running after so many events. -/
  | running
  deriving DecidableEq, Repr

/-- What is there when `main` returns 0. -/
structure Finished (Q : Library.PriorityQueue (Pending ObjId) Pending.key) (F : Type) where
  world : World
  dot : List (DotStatement F)
  fired : List (Fired ObjId)
  queue : EventQueue Q

variable {Q : Library.PriorityQueue (Pending ObjId) Pending.key}
  {F : Type} [Add F] [Sub F] [Mul F] [Div F] [Double F]

/-- `main`. `process` is what the tick of an object does, and `opens` says whether `topology.dot`
    can be opened. -/
def main (P : Platform) (H : HashOrder) (opens : Bool) (process : Process ObjId World) (fuel : Nat)
    (argc : Nat) : Except Failure (Finished Q F) :=
  if argc < 2 then .error .usage
  else do
    let config ← (JsonIncluder.loadAndInclude P.files fuel "configs/base.json").mapError .config
    let factory := World.launched.newFactory
    let w ← (instantiateAll (P.own fuel) fuel factory.1 config factory.2).mapError .config
    let eq : EventQueue Q := w.startAllTicks factory.1 {}
    let dot ← (TopologyDumper.dumpToDot H w (Wiring.wire w.constructions) w.layoutOf factory.1
      config opens).mapError .dump
    match Sim.run process fuel 10000 { queue := eq, state := w } with
    | none => .error .running
    | some r => return { world := r.2.state, dot := dot, fired := r.1, queue := r.2.queue }

/-! ## 1. What each step of `main` comes to -/

theorem top?_empty : Q.top? Q.empty = none := by
  cases h : Q.top? Q.empty with
  | none => rfl
  | some e =>
      have hmem := Q.mem_of_top? h
      rw [Q.elems_empty] at hmem
      exact absurd hmem (Multiset.notMem_zero e)

/-- **No tick is started**, in no world that a program gets to. -/
theorem startAllTicks_nil {w : World} (hw : w.NoInstances) (f : FactoryId) (q : EventQueue Q) :
    w.startAllTicks f q = q := by
  rw [World.startAllTicks, World.instances_eq_nil hw]
  rfl

/-- **Nothing is processed when nothing waits.** -/
theorem run_empty {σ : Type} (process : Process ObjId σ) (fuel : Nat) (n : UInt64) (x : σ) :
    Sim.run (Q := Q) process (fuel + 1) n { state := x } =
      some ([], { queue := { curCycle := n }, state := x }) := by
  have hdone : Sim.Done (Q := Q) (0 + n) { state := x } := fun e he => by
    rw [show Q.top? _ = none from top?_empty] at he
    cases he
  rw [Sim.run, show (({ state := x } : Sim Q σ).queue.curCycle + n) = 0 + n from rfl,
    Sim.loop_of_done hdone]
  simp [Sim.setCycle]

/-- A configuration that is a string has no members to look up. -/
theorem dumpToDot_str {H : HashOrder} {w : World} {wires : Wiring AnyPort} {layout : ObjId → F × F}
    {f : FactoryId} {s : String} {opens : Bool} {dot : List (DotStatement F)} :
    TopologyDumper.dumpToDot H w wires layout f (.str s) opens = .ok dot ↔
      opens = false ∧ dot = [] := by
  cases opens with
  | false =>
      refine ⟨fun h => ?_, fun h => ?_⟩
      · cases h
        exact ⟨rfl, rfl⟩
      · rw [h.2]
        rfl
  | true =>
      refine ⟨fun h => ?_, fun h => ?_⟩
      · cases h
      · cases h.1

/-! ## 2. When `main` returns -/

/-- **THE PROGRAM SIMULATES NOTHING.** Whatever the files, the plugins, the module classes and the
    event queue: `main` returns 0 exactly when it has an argument, `topology.dot` cannot be opened,
    `configs/base.json` comes to a string, and this is the name of a configuration that can be
    built. Then no event has been processed, none waits, and the cycle is 10000. -/
theorem main_ok_iff (P : Platform) (H : HashOrder) (opens : Bool) (process : Process ObjId World)
    (fuel argc : Nat) (r : Finished Q F) :
    main P H opens process fuel argc = .ok r ↔
      2 ≤ argc ∧ opens = false ∧ (∃ name,
        JsonIncluder.loadAndInclude P.files fuel "configs/base.json" = .ok (.str name) ∧
        instantiateAll (P.own fuel) fuel 0 (.str name) World.launched.newFactory.2 =
          .ok r.world) ∧
      r.dot = [] ∧ r.fired = [] ∧ r.queue = { curCycle := 10000 } := by
  have hnone : World.launched.newFactory.2.NoInstances :=
    World.noInstances_newFactory fun l hl => absurd hl List.not_mem_nil
  refine ⟨fun h => ?_, fun ⟨hargc, hopens, ⟨name, hload, hbuild⟩, hdot, hfired, hqueue⟩ => ?_⟩
  · unfold main at h
    split at h
    · cases h
    · next hargc =>
        obtain ⟨config, hload, h⟩ := Library.bind_eq_ok.mp h
        obtain ⟨w, hbuild, h⟩ := Library.bind_eq_ok.mp h
        obtain ⟨dot, hdump, h⟩ := Library.bind_eq_ok.mp h
        rw [TopologyDumper.mapError_ok_iff] at hload hbuild hdump
        obtain ⟨name, rfl⟩ := instantiateAll_file hbuild
        obtain ⟨hopens, rfl⟩ := dumpToDot_str.mp hdump
        have hw : w.NoInstances := World.stable_noInstances.instantiateAll hnone hbuild
        rw [startAllTicks_nil hw] at h
        cases fuel with
        | zero => cases hbuild
        | succ fuel =>
            rw [run_empty] at h
            cases h
            exact ⟨Nat.le_of_not_lt hargc, hopens, ⟨name, hload, hbuild⟩, rfl, rfl, rfl⟩
  · obtain ⟨w, dot, fired, queue⟩ := r
    obtain rfl : dot = [] := hdot
    obtain rfl : fired = [] := hfired
    obtain rfl : queue = { curCycle := 10000 } := hqueue
    have hw : w.NoInstances := World.stable_noInstances.instantiateAll hnone hbuild
    have hdump : TopologyDumper.dumpToDot H w (Wiring.wire w.constructions) (w.layoutOf (F := F)) 0
        (.str name) opens = .ok [] := dumpToDot_str.mpr ⟨hopens, rfl⟩
    cases fuel with
    | zero => cases hbuild
    | succ fuel =>
        unfold main
        rw [if_neg (Nat.not_lt.mpr hargc), hload]
        show ((instantiateAll (P.own (fuel + 1)) (fuel + 1) 0 (.str name)
          World.launched.newFactory.2).mapError Failure.config).bind _ = _
        rw [hbuild]
        show ((TopologyDumper.dumpToDot H w (Wiring.wire w.constructions) w.layoutOf 0 (.str name)
          opens).mapError Failure.dump).bind _ = _
        rw [hdump, startAllTicks_nil hw]
        show (match Sim.run (Q := Q) process (fuel + 1) 10000 { state := w } with
          | none => Except.error Failure.running
          | some r => Except.ok (⟨r.2.state, [], r.1, r.2.queue⟩ : Finished Q F)) = _
        rw [run_empty]

/-- A directory in which it returns. -/
def nameOnly : Platform := Platform.ofFiles [("configs/base.json", .str "one.json"),
  ("one.json", .obj [("modules", .arr [.obj [("name", .str "cpu0"), ("type", .str "CPUSim")]])])]

example : JsonIncluder.loadAndInclude nameOnly.files 8 "configs/base.json" =
    .ok (.str "one.json") := rfl

example : (instantiateAll (nameOnly.own 8) 8 0 (.str "one.json")
    World.launched.newFactory.2).toOption.isSome = true := by decide

end Program

end Gem5Sc
