/-
  File:      Gem5Sc/Network/Standstill.lean
  Subject:   THE SIMULATION FILLS UP AND STANDS STILL.

  No module ticks its ports, so a tick of a module is a chain of turns (`module_tick_turns`), and no
  turn takes a request out of an input channel or makes a response. The queue never holds anything
  but `TickEvent`s (`loop_idle`): what has been accepted stays where it is, and no more than fits
  into the channels is ever accepted.
-/
import Gem5Sc.Network.Refinement

namespace Gem5Sc

/-! ## 1. Turns only add -/

/-- No `LambdaEvent` waits, and nothing but requests has been issued. -/
structure Config.Idle (c : Config) : Prop where
  scheduled : c.net.scheduled = 0
  request : ∀ p < c.net.heap.nextPacket, (c.net.heap.packet p).isRequest = true

theorem Config.Idle.pending {c : Config} (hc : c.Idle) : c.Pending := fun a j p he => by
  rw [hc.scheduled] at he
  exact absurd he (Multiset.notMem_zero _)

/-- What has been issued before is a request as before. -/
theorem Heap.Keeps.requests {h h' : Heap} (hk : h.Keeps h') (hnext : h'.nextPacket = h.nextPacket)
    (hreq : ∀ p < h.nextPacket, (h.packet p).isRequest = true) :
    ∀ p < h'.nextPacket, (h'.packet p).isRequest = true := fun p hp => by
  rw [hnext] at hp
  exact (hk.field Packet.isRequest (fun _ _ => rfl) hp).trans (hreq p hp)

theorem Turn.idle {c c' : Config} (ht : Turn c c') (hc : c.Idle) : c'.Idle := by
  cases ht with
  | carry h =>
      have hkept := Carries.carried (.single h)
      refine ⟨?_, hkept.heap.requests ?_ hc.request⟩
      · rw [Network.scheduled, hkept.pending, hkept.calls]
        exact hc.scheduled
      · cases h with
        | heap hh => exact hh.nextPacket
        | up _ _ => rfl
        | down _ _ => rfl
  | note hf hcalls hpairs =>
      refine ⟨?_, hc.request⟩
      rw [Network.scheduled_mk, hcalls]
      exact hc.scheduled
  | @issue n hand t pkt b hreq horig hvc =>
      refine ⟨hc.scheduled, fun p hp => ?_⟩
      rcases Nat.lt_succ_iff_lt_or_eq.mp hp with hp | rfl
      · exact ((Heap.newRequest_keeps n.heap t pkt).field Packet.isRequest (fun _ _ => rfl) hp).trans
          (hc.request p hp)
      · exact (congrArg Packet.isRequest (Heap.newRequest_packet_self n.heap t pkt)).trans hreq
  | forward hm hb => exact ⟨hc.scheduled, hc.request⟩
  | track hm hlt hp haddr => exact ⟨hc.scheduled, hc.request⟩
  | generator hm => exact ⟨hc.scheduled, hc.request⟩

/-- **Turns keep the silence and let go of no request.** -/
theorem Turns.idle {c c' : Config} (ht : Turns c c') (hc : c.Idle) :
    c'.Idle ∧ c.requests ≤ c'.requests := by
  induction ht with
  | refl => exact ⟨hc, le_refl _⟩
  | tail _ h ih =>
      refine ⟨h.idle ih.1, ih.2.trans ?_⟩
      rcases h.requests ih.1.pending with hsame | ⟨hmade, -⟩
      · exact hsame.ge
      · rw [hmade]
        exact Multiset.le_cons_self _ _

/-! ## 2. Ticks -/

namespace Network

/-- Between two events. -/
def Idle (n : Network) : Prop := (Config.mk n 0).Idle

theorem Idle.pending_eq {n : Network} (hn : n.Idle) : n.pending = 0 :=
  Multiset.eq_zero_of_forall_notMem fun e he =>
    absurd (hn.scheduled ▸ Multiset.mem_add.mpr (Or.inl he) : e ∈ (0 : Multiset _))
      (Multiset.notMem_zero e)

/-- **A tick of a module.** -/
theorem Idle.tick {n : Network} (hn : n.Idle) (ht : n.Typed) (now : UInt64) (a : Nat) :
    (n.step (.tick now a)).Idle ∧ n.requests ≤ (n.step (.tick now a)).requests := by
  have hturns := (tickModule_turns n 0 now (ht.unqueued a)).idle hn
  rw [bare_requests, bare_requests] at hturns
  refine ⟨⟨(settle_scheduled _).trans hturns.1.scheduled, hturns.1.request⟩, ?_⟩
  rw [step, settle_requests]
  exact hturns.2

theorem idle_start {f : Fabric} (hf : f.Fresh) : (start f).Idle where
  scheduled := by
    show 0 + (Fabric.lambdas f.calls : Multiset (Nat × Deferred)) = 0
    rw [hf.calls]
    rfl
  request p hp := absurd hp (Nat.not_lt_zero p)

end Network

/-! ## 3. The simulation -/

variable {Q : Library.PriorityQueue (Pending SimEvent) Pending.key}

namespace Sim

/-- What a stretch of the simulation does to an idle system. -/
structure Standstill (room : Nat) (s : Sim Q (Heap × Fabric)) (tr : List (Fired SimEvent))
    (s' : Sim Q (Heap × Fabric)) : Prop where
  /-- Only modules are ticked. -/
  ticks : ∀ f ∈ tr, ∃ a, f.entry.event = .tick a
  idle : s'.network.Idle
  bounded : s'.network.Bounded room
  /-- What is accepted stays. -/
  kept : s.network.requests ≤ s'.network.requests

theorem loop_standstill {room : Nat} {endCycle : UInt64} (fuel : Nat) {s s' : Sim Q (Heap × Fabric)}
    {tr : List (Fired SimEvent)} (hi : s.network.Idle) (hb : s.network.Bounded room)
    (h : loop Fabric.processEvent endCycle fuel s = some (tr, s')) :
    Standstill room s tr s' := by
  induction fuel generalizing s tr with
  | zero => cases h
  | succ fuel ih =>
      rcases done_or_top endCycle s with hd | ⟨⟨t, ev⟩, he, hlt⟩
      · rw [loop_of_done hd, Option.some.injEq, Prod.mk.injEq] at h
        obtain ⟨rfl, rfl⟩ := h
        exact ⟨fun f hf => absurd hf List.not_mem_nil, hi, hb, le_refl _⟩
      · rw [loop_of_top he hlt] at h
        obtain ⟨⟨tr', s''⟩, hr, heq⟩ := Option.map_eq_some_iff.mp h
        obtain ⟨rfl, rfl⟩ := Prod.mk.inj heq
        have hfire := fire_network he
        cases ev with
        | tick a =>
            have hnext : (s.fire Fabric.processEvent ⟨t, .tick a⟩).2.network =
                s.network.step (.tick t a) := hfire
            obtain ⟨hidle, hkept⟩ := hi.tick hb.typed t a
            have hrest := ih (hnext ▸ hidle) (hnext ▸ hb.step (.tick t a)) hr
            refine ⟨fun f hf => ?_, hrest.idle, hrest.bounded, hkept.trans (hnext ▸ hrest.kept)⟩
            rcases List.mem_cons.mp hf with rfl | hf
            · exact ⟨a, rfl⟩
            · exact hrest.ticks f hf
        | lambda a e =>
            -- a `LambdaEvent` in the queue waits in the network
            have hmem : (a, e) ∈ s.network.pending :=
              (Multiset.mem_filterMap _ _).mpr ⟨⟨t, .lambda a e⟩, Q.mem_of_top? he, rfl⟩
            rw [hi.pending_eq] at hmem
            exact absurd hmem (Multiset.notMem_zero _)

theorem runs_standstill {room fuel : Nat} (ns : List UInt64) {s s' : Sim Q (Heap × Fabric)}
    {tr : List (Fired SimEvent)} (hi : s.network.Idle) (hb : s.network.Bounded room)
    (h : runs Fabric.processEvent fuel ns s = some (tr, s')) :
    Standstill room s tr s' := by
  induction ns generalizing s tr with
  | nil =>
      obtain ⟨rfl, rfl⟩ := Prod.mk.inj (Option.some.inj h)
      exact ⟨fun f hf => absurd hf List.not_mem_nil, hi, hb, le_refl _⟩
  | cons n ns ih =>
      rw [runs] at h
      split at h
      · cases h
      · next r hr =>
          obtain ⟨⟨tr₂, s₂⟩, h₂, heq⟩ := Option.map_eq_some_iff.mp h
          obtain ⟨rfl, rfl⟩ := Prod.mk.inj heq
          obtain ⟨⟨tr₁, s₁⟩, h₁, rfl⟩ := Option.map_eq_some_iff.mp hr
          have hfirst := loop_standstill fuel hi hb h₁
          have hrest := ih (s := s₁.setCycle (s.queue.curCycle + n)) hfirst.idle hfirst.bounded h₂
          refine ⟨fun f hf => ?_, hrest.idle, hrest.bounded, hfirst.kept.trans hrest.kept⟩
          rcases List.mem_append.mp hf with hf | hf
          · exact hfirst.ticks f hf
          · exact hrest.ticks f hf

variable (insts : List Instance) (downPair upPair : Nat → Nat → Option (Nat × Nat))
  (draw : Nat → Draw) (order : List Nat)

/-- The network before the first run. -/
theorem network_start : (Fabric.start Q {} insts downPair upPair draw order).network =
    Network.start { insts := insts, downPair := downPair, upPair := upPair, draw := draw } := by
  refine congrArg (Network.mk _ _) ?_
  show lambdasOf (({} : EventQueue Q).scheduleAll (order.map fun a => (.tick a, 1))).pending = 0
  have hempty : lambdasOf ({} : EventQueue Q).pending = 0 := by
    rw [EventQueue.pending, Q.elems_empty]
    rfl
  have hcalls : Fabric.lambdas (order.map fun a => (SimEvent.tick a, (1 : UInt64))) = [] := by
    simp [Fabric.lambdas, SimEvent.lambda?]
  rw [lambdasOf_scheduleAll, hempty, hcalls]
  rfl

/-- **THE SIMULATION STANDS STILL.** For every system of new modules, any modules started in any
    order, and any sequence of runs that returns, continued by any other: every event is the tick of
    a module, every packet ever issued is a request, no accepted request ever leaves the network,
    and no more requests are ever accepted than fit into the channels and miss buffers. -/
theorem simulation_standstill (hf : ∀ x ∈ insts, x.Fresh) (fuel : Nat) (ns ms : List UInt64)
    (s s' : Sim Q (Heap × Fabric)) (tr tr' : List (Fired SimEvent))
    (h : runs Fabric.processEvent fuel ns
      (Fabric.start Q {} insts downPair upPair draw order) = some (tr, s))
    (h' : runs Fabric.processEvent fuel ms s = some (tr', s')) :
    (∀ e ∈ tr ++ tr', ∃ a, e.entry.event = .tick a) ∧
      (∀ p < s'.state.1.nextPacket, (s'.state.1.packet p).isRequest = true) ∧
      s.network.requests ≤ s'.network.requests ∧
      s'.network.requests.card ≤ (insts.map Instance.room).sum := by
  have hfresh : Fabric.Fresh
      { insts := insts, downPair := downPair, upPair := upPair, draw := draw } := ⟨hf, rfl⟩
  have hstart := network_start (Q := Q) insts downPair upPair draw order
  have hfirst := runs_standstill ns (hstart ▸ Network.idle_start hfresh)
    (hstart ▸ Network.bounded_start hfresh) h
  have hrest := runs_standstill ms hfirst.idle hfirst.bounded h'
  refine ⟨fun e he => ?_, hrest.idle.request, hrest.kept, ?_⟩
  · rcases List.mem_append.mp he with he | he
    · exact hfirst.ticks e he
    · exact hrest.ticks e he
  · have hcard := hrest.bounded.stored.card hrest.bounded.typed.unqueued
    rw [hrest.bounded.room_eq] at hcard
    have howed : s'.network.requests = s'.network.fabric.held := by
      rw [Network.requests, show s'.network.scheduled = 0 from hrest.idle.scheduled]
      exact add_zero _
    rw [howed]
    exact hcard

theorem simulation_standstill_chain : ∃ r r', runs Fabric.processEvent 10 [3] chainStart = some r ∧
    runs Fabric.processEvent 10 [2] r.2 = some r' ∧
    r.2.network.requests ≤ r'.2.network.requests ∧ r'.2.network.requests.card ≤ 12 := by
  have hret : ((runs Fabric.processEvent 10 [3] chainStart).bind fun r =>
      runs Fabric.processEvent 10 [2] r.2).isSome := by decide
  obtain ⟨r', hr'⟩ := Option.isSome_iff_exists.mp hret
  obtain ⟨r, hr, hr'⟩ := Option.bind_eq_some_iff.mp hr'
  have hall := simulation_standstill _ _ _ _ _ Fabric.chain_fresh.insts 10 [3] [2] r.2 r'.2 r.1 r'.1
    hr hr'
  exact ⟨r, r', hr, hr', hall.2.2.1, hall.2.2.2⟩

end Sim

end Gem5Sc
