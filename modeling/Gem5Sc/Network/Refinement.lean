/-
  File:      Gem5Sc/Network/Refinement.lean
  Subject:   THE SIMULATION IS ONE RUN OF THE NETWORK.

  The event queue picks one of the orders that the network allows. `Sim.network` forgets the queue
  but for the `LambdaEvent`s in it; processing an event is then a step of the network
  (`fire_network`), and a sequence of runs is a run (`runs_network`). What holds in every order of
  events holds in the simulation.
-/
import Gem5Sc.EventQueue.Law
import Gem5Sc.Network.Custody
import Gem5Sc.Network.Storage

namespace Gem5Sc

variable {Q : Library.PriorityQueue (Pending SimEvent) Pending.key}

/-- The `LambdaEvent`s among the events of a queue. -/
def lambdasOf (s : Multiset (Pending SimEvent)) : Multiset (Nat × Deferred) :=
  s.filterMap fun e => e.event.lambda?

/-- What has happened to the network. -/
def Fired.action (f : Fired SimEvent) : Network.Action :=
  match f.entry.event with
  | .tick a => .tick f.cycle a
  | .lambda a e => .fire f.cycle a e

namespace Sim

/-- The network of a simulation. -/
def network (s : Sim Q (Heap × Fabric)) : Network where
  heap := s.state.1
  fabric := s.state.2
  pending := lambdasOf s.pending

/-- What an event adds to the queue. -/
theorem lambdasOf_scheduleAll (q : EventQueue Q) (calls : List (SimEvent × UInt64)) :
    lambdasOf (q.scheduleAll calls).pending =
      lambdasOf q.pending + (Fabric.lambdas calls : Multiset (Nat × Deferred)) := by
  rw [lambdasOf, EventQueue.pending_scheduleAll, Multiset.filterMap_add]
  congr 1
  rw [Multiset.filterMap_coe, List.filterMap_map]
  rfl

/-- **A round of the loop is a step of the network.** -/
theorem fire_network {s : Sim Q (Heap × Fabric)} {e : Pending SimEvent}
    (he : Q.top? s.queue.queue = some e) :
    (s.fire Fabric.processEvent e).2.network =
      s.network.step (s.fire Fabric.processEvent e).1.action := by
  obtain ⟨t, ev⟩ := e
  have hpop : s.pending = ⟨t, ev⟩ ::ₘ Q.elems (Q.pop s.queue.queue) := Q.elems_pop _ _ he
  have hadd := lambdasOf_scheduleAll ({ queue := Q.pop s.queue.queue, curCycle := t } : EventQueue Q)
    (Fabric.processEvent ev t s.state).2
  cases ev with
  | tick a =>
      have hrest : lambdasOf s.pending = lambdasOf (Q.elems (Q.pop s.queue.queue)) := by
        rw [hpop]
        exact Multiset.filterMap_cons_none _ _ rfl
      have hcalls : Fabric.lambdas (Fabric.processEvent (.tick a) t s.state).2 =
          Fabric.lambdas (Fabric.tickModule t a s.state).2.calls := by
        simp [Fabric.lambdas, Fabric.processEvent, Fabric.takeCalls, SimEvent.lambda?]
      rw [hcalls] at hadd
      exact congrArg (Network.mk _ _) (hadd.trans (congrArg (· + _) hrest.symm))
  | lambda a e =>
      have hrest : lambdasOf s.pending = (a, e) ::ₘ lambdasOf (Q.elems (Q.pop s.queue.queue)) := by
        rw [hpop]
        exact Multiset.filterMap_cons_some _ _ _ rfl
      have hmem : (a, e) ∈ s.network.pending := by
        show (a, e) ∈ lambdasOf s.pending
        rw [hrest]
        exact Multiset.mem_cons_self _ _
      have herase : s.network.pending.erase (a, e) = lambdasOf (Q.elems (Q.pop s.queue.queue)) := by
        show (lambdasOf s.pending).erase (a, e) = _
        rw [hrest, Multiset.erase_cons_head]
      show _ = s.network.step (.fire t a e)
      rw [Network.step, if_pos hmem, herase]
      exact congrArg (Network.mk _ _) hadd

theorem loop_network {endCycle : UInt64} (fuel : Nat) {s s' : Sim Q (Heap × Fabric)}
    {tr : List (Fired SimEvent)}
    (h : loop Fabric.processEvent endCycle fuel s = some (tr, s')) :
    s'.network = Library.run Network.step s.network (tr.map Fired.action) := by
  induction fuel generalizing s tr with
  | zero => cases h
  | succ fuel ih =>
      rcases done_or_top endCycle s with hd | ⟨e, he, hlt⟩
      · rw [loop_of_done hd, Option.some.injEq, Prod.mk.injEq] at h
        obtain ⟨rfl, rfl⟩ := h
        rfl
      · rw [loop_of_top he hlt] at h
        obtain ⟨⟨tr', s''⟩, hr, heq⟩ := Option.map_eq_some_iff.mp h
        obtain ⟨rfl, rfl⟩ := Prod.mk.inj heq
        rw [ih hr, fire_network he]
        rfl

/-- **Runs of the simulation are runs of the network.** -/
theorem runs_network {fuel : Nat} (ns : List UInt64) {s s' : Sim Q (Heap × Fabric)}
    {tr : List (Fired SimEvent)} (h : runs Fabric.processEvent fuel ns s = some (tr, s')) :
    s'.network = Library.run Network.step s.network (tr.map Fired.action) := by
  induction ns generalizing s tr with
  | nil =>
      obtain ⟨rfl, rfl⟩ := Prod.mk.inj (Option.some.inj h)
      rfl
  | cons n ns ih =>
      rw [runs] at h
      split at h
      · cases h
      · next r hr =>
          obtain ⟨⟨tr₂, s₂⟩, h₂, heq⟩ := Option.map_eq_some_iff.mp h
          obtain ⟨rfl, rfl⟩ := Prod.mk.inj heq
          obtain ⟨⟨tr₁, s₁⟩, h₁, rfl⟩ := Option.map_eq_some_iff.mp hr
          have hfirst := loop_network fuel h₁
          have hrest := ih h₂
          rw [List.map_append, Library.run, List.foldl_append]
          rw [hrest]
          exact congrArg (fun n => Library.run Network.step n (tr₂.map Fired.action)) hfirst

/-- The three modules in a row, all started. -/
def chainStart : Sim (Library.BinaryHeap.priorityQueue (Pending.key (ε := SimEvent)))
    (Heap × Fabric) :=
  Fabric.start _ {} Fabric.chain.insts Fabric.chain.downPair Fabric.chain.upPair Fabric.chain.draw
    [0, 1, 2]

theorem runs_network_chain : ∃ r, runs Fabric.processEvent 10 [2, 2] chainStart = some r ∧
    r.2.network = Library.run Network.step chainStart.network (r.1.map Fired.action) := by
  have hret : (runs Fabric.processEvent 10 [2, 2] chainStart).isSome := by decide
  obtain ⟨r, hr⟩ := Option.isSome_iff_exists.mp hret
  exact ⟨r, hr, runs_network [2, 2] hr⟩

end Sim

end Gem5Sc
