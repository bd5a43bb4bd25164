/-
  File:      Gem5Sc/Network/SmallSteps.lean
  Subject:   THE SMALL STEPS OF AN EVENT: the few things the code of an event does to the network.

  While an event runs, a request may be at no place: it is in the hand of the code. A `Config` is a
  network with the requests in hand, and a `SmallStep` is one thing the code does: it takes a
  request out of a channel or puts it into one, keeps it, answers it, issues a new one. Every event
  is a chain of small steps (`Network/Events.lean`), so an invariant is proved once for each kind of
  small step.

  * `Rewrites`, `Queues` -- a row of channels against another, with what the hand gives and takes; no
    packet leaves an output channel;
  * `Carry` -- small steps that pass a request on without a module; they do not see the modules
    (`Carry.setMod`);
  * `Turn` -- what the tick of a module does: it never answers, and it takes nothing in;
  * `Work` -- what the code of any event does;
  * `SmallStep` -- all small steps: a pending event gets its turn, code runs, the event is over.
-/
import Gem5Sc.Modules.Issued
import Gem5Sc.Network
import Mathlib.Logic.Relation

namespace Gem5Sc

/-! ## 1. Rows of channels -/

/-- A row of channels is rewritten: no capacity changes, no channel takes more than it may, what a
    channel takes in has its number, and the hand and the row together hold what they have held. -/
structure Rewrites (h : Heap) (cs cs' : List Channel) (hand hand' : Multiset PacketId) : Prop where
  capacity : cs'.map Channel.capacity = cs.map Channel.capacity
  room : ∀ v, (cs'.getD v default).buffer.length ≤
    max (cs.getD v default).buffer.length (cs.getD v default).capacity
  channel : ∀ v, ∀ p ∈ (cs'.getD v default).buffer,
    p ∈ (cs.getD v default).buffer ∨ (h.packet p).vcId = v
  balance : hand' + Channel.held cs' = hand + Channel.held cs

namespace Rewrites

variable {h : Heap} {cs cs' : List Channel} {hand hand' : Multiset PacketId}

theorem of_eq (hcs : cs' = cs) : Rewrites h cs cs' hand hand := by
  subst hcs
  exact ⟨rfl, fun _ => Nat.le_max_left _ _, fun _ _ hp => Or.inl hp, rfl⟩

/-- One channel gets another buffer. -/
theorem set {v : Nat} {buf : List PacketId} (hv : v < cs.length)
    (hroom : buf.length ≤ max (cs.getD v default).buffer.length (cs.getD v default).capacity)
    (hvc : ∀ p ∈ buf, p ∈ (cs.getD v default).buffer ∨ (h.packet p).vcId = v)
    (hbal : hand' + (buf : Multiset PacketId) =
      hand + ((cs.getD v default).buffer : Multiset PacketId)) :
    Rewrites h cs (cs.set v ⟨buf, (cs.getD v default).capacity⟩) hand hand' where
  capacity := by
    have hget : cs[v]? = some (cs.getD v default) := by simp [hv]
    exact Library.map_set_same Channel.capacity hget rfl
  room w := by
    by_cases hw : v = w
    · subst hw
      simpa [hv] using hroom
    · simp [hw]
  channel w p hp := by
    by_cases hw : v = w
    · subst hw
      exact hvc p (by simpa [hv] using hp)
    · exact Or.inl (by simpa [hw] using hp)
  balance := Library.sum_exchange _ hv hbal

/-- A packet of the hand goes to the end of the channel of its number. -/
theorem push {v : Nat} {p : PacketId} (hv : v < cs.length)
    (hroom : (cs.getD v default).buffer.length < (cs.getD v default).capacity)
    (hvc : (h.packet p).vcId = v) :
    Rewrites h cs
      (cs.set v ⟨(cs.getD v default).buffer ++ [p], (cs.getD v default).capacity⟩)
      (p ::ₘ hand) hand := by
  refine set hv ?_ (fun r hr => ?_) ?_
  · rw [List.length_append, List.length_singleton]
    omega
  · rcases List.mem_append.mp hr with hr | hr
    · exact Or.inl hr
    · rw [List.mem_singleton.mp hr]
      exact Or.inr hvc
  · rw [← Multiset.coe_add, Multiset.coe_singleton, ← add_assoc, add_comm, Multiset.cons_add,
      Multiset.singleton_add]

/-- The head of a channel is taken into the hand. -/
theorem pop {v : Nat} {p : PacketId} {rest : List PacketId} (hv : v < cs.length)
    (hb : (cs.getD v default).buffer = p :: rest) :
    Rewrites h cs (cs.set v ⟨rest, (cs.getD v default).capacity⟩) hand (p ::ₘ hand) := by
  refine set hv ?_ (fun r hr => Or.inl ?_) ?_
  · rw [hb, List.length_cons]
    omega
  · rw [hb]
    exact List.mem_cons_of_mem p hr
  · rw [hb, ← Multiset.cons_coe, Multiset.cons_add, Multiset.add_cons]

/-- The head of a channel goes to its end. -/
theorem rotate {v : Nat} {p : PacketId} {rest : List PacketId} (hv : v < cs.length)
    (hb : (cs.getD v default).buffer = p :: rest) :
    Rewrites h cs (cs.set v ⟨rest ++ [p], (cs.getD v default).capacity⟩) hand hand := by
  refine set hv ?_ (fun r hr => Or.inl ?_) ?_
  · simp only [hb, List.length_append, List.length_cons, List.length_nil]
    omega
  · rw [hb]
    exact List.perm_append_singleton p rest |>.mem_iff.mp hr
  · rw [hb, Multiset.coe_eq_coe.mpr (List.perm_append_singleton p rest)]

end Rewrites

/-- A row of output channels is rewritten: no packet leaves its channel. -/
structure Queues (h : Heap) (cs cs' : List Channel) (hand hand' : Multiset PacketId) : Prop
    extends Rewrites h cs cs' hand hand' where
  kept : ∀ v, ((cs.getD v default).buffer : Multiset PacketId) ≤ (cs'.getD v default).buffer

namespace Queues

variable {h : Heap} {cs cs' : List Channel} {hand : Multiset PacketId}

theorem of_eq (hcs : cs' = cs) : Queues h cs cs' hand hand :=
  ⟨.of_eq hcs, fun _ => hcs ▸ le_refl _⟩

theorem kept_set {v : Nat} {buf : List PacketId} {capacity : Nat} (hv : v < cs.length)
    (hle : ((cs.getD v default).buffer : Multiset PacketId) ≤ buf) (w : Nat) :
    ((cs.getD w default).buffer : Multiset PacketId) ≤
      ((cs.set v ⟨buf, capacity⟩).getD w default).buffer := by
  by_cases hw : v = w
  · subst hw
    simpa [hv] using hle
  · simp [hw]

theorem push {v : Nat} {p : PacketId} (hv : v < cs.length)
    (hroom : (cs.getD v default).buffer.length < (cs.getD v default).capacity)
    (hvc : (h.packet p).vcId = v) :
    Queues h cs (cs.set v ⟨(cs.getD v default).buffer ++ [p], (cs.getD v default).capacity⟩)
      (p ::ₘ hand) hand := by
  refine ⟨.push hv hroom hvc, kept_set hv ?_⟩
  rw [← Multiset.coe_add]
  exact Multiset.le_add_right _ _

theorem rotate {v : Nat} {p : PacketId} {rest : List PacketId} (hv : v < cs.length)
    (hb : (cs.getD v default).buffer = p :: rest) :
    Queues h cs (cs.set v ⟨rest ++ [p], (cs.getD v default).capacity⟩) hand hand := by
  refine ⟨.rotate hv hb, kept_set hv ?_⟩
  rw [hb]
  exact (Multiset.coe_eq_coe.mpr (List.perm_append_singleton p rest)).ge

end Queues

/-! ## 2. The small steps -/

/-- A network and the requests in the hand of the code that runs. -/
structure Config where
  net : Network
  hand : Multiset PacketId

namespace Config

/-- Every request, at whatever place. -/
def requests (c : Config) : Multiset PacketId := c.hand + c.net.requests

/-- A write to a module. -/
def setMod (c : Config) (a : Nat) (m : Module) : Config :=
  { c with net := { c.net with fabric := c.net.fabric.setMod a m } }

end Config

/-- The contents of an instance: no names and no counters. -/
def Instance.contents (x : Instance) : Module × List (List Channel) × List (List Channel) :=
  (x.mod, x.up.map UpstreamPort.channels, x.down.map DownstreamPort.channels)

/-- A packet is passed on by the ports. -/
inductive Carry : Config → Config → Prop where
  | heap {n : Network} {hand : Multiset PacketId} {h : Heap} (ht : n.heap.Touch h) :
      Carry ⟨n, hand⟩ ⟨{ n with heap := h }, hand⟩
  | up {n : Network} {hand hand' : Multiset PacketId} {a j : Nat} {u u' : UpstreamPort}
      (hu : (n.fabric.inst a).up[j]? = some u)
      (hw : Rewrites n.heap u.channels u'.channels hand hand') :
      Carry ⟨n, hand⟩ ⟨{ n with fabric := n.fabric.setUp a j u' }, hand'⟩
  | down {n : Network} {hand hand' : Multiset PacketId} {a i : Nat} {d d' : DownstreamPort}
      (hd : (n.fabric.inst a).down[i]? = some d)
      (hw : Queues n.heap d.channels d'.channels hand hand') :
      Carry ⟨n, hand⟩ ⟨{ n with fabric := n.fabric.setDown a i d' }, hand'⟩

/-- A chain of them. -/
abbrev Carries : Config → Config → Prop := Relation.ReflTransGen Carry

/-- The ports do not see the modules. -/
theorem Carry.setMod {c c' : Config} (hc : Carry c c') (a : Nat) (m : Module) :
    Carry (c.setMod a m) (c'.setMod a m) := by
  cases hc with
  | heap ht => exact Carry.heap ht
  | up hu hw =>
      simp only [Config.setMod, Fabric.setMod_setUp_comm]
      exact Carry.up (by rw [Fabric.up_setMod]; exact hu) hw
  | down hd hw =>
      simp only [Config.setMod, Fabric.setMod_setDown_comm]
      exact Carry.down (by rw [Fabric.down_setMod]; exact hd) hw

theorem Carries.setMod {c c' : Config} (hc : Carries c c') (a : Nat) (m : Module) :
    Carries (c.setMod a m) (c'.setMod a m) := by
  induction hc with
  | refl => exact .refl
  | tail _ h ih => exact ih.tail (h.setMod a m)

/-- Nor do they write to a field of a packet other than `dst_cycle`. -/
theorem Carries.field {c c' : Config} (hc : Carries c c') {α : Type} (field : Packet → α)
    (hfield : ∀ pkt cycle, field { pkt with dstCycle := cycle } = field pkt) (p : PacketId) :
    field (c'.net.heap.packet p) = field (c.net.heap.packet p) := by
  induction hc with
  | refl => rfl
  | tail _ h ih =>
      rw [← ih]
      cases h with
      | heap ht => exact ht.field field hfield p
      | up hu hw => rfl
      | down hd hw => rfl

/-- A `Deferred` answers the same request, whatever the ports do. -/
theorem Heap.Touch.request {h h' : Heap} (ht : h.Touch h') (e : Deferred) :
    e.request h' = e.request h := by
  cases e with
  | respond j resp => exact ht.field Packet.originalReq (fun _ _ => rfl) resp
  | tryForward => rfl

/-- **The ports lose no request and make none.** -/
theorem Carry.requests {c c' : Config} (hc : Carry c c') : c'.requests = c.requests := by
  cases hc with
  | heap ht =>
      show _ + (_ + owed _ _) = _ + (_ + owed _ _)
      rw [owed_congr fun e _ => ht.request e.2]
      rfl
  | up hu hw =>
      have hbal := Fabric.held_setUp hu hw.balance
      show _ + (_ + owed _ _) = _ + (_ + owed _ _)
      rw [← add_assoc, ← add_assoc, hbal]
      rfl
  | down hd hw =>
      have hbal := Fabric.held_setDown hd hw.balance
      show _ + (_ + owed _ _) = _ + (_ + owed _ _)
      rw [← add_assoc, ← add_assoc, hbal]
      rfl

/-- What a chain of carries leaves alone. -/
structure Config.Carried (c c' : Config) : Prop where
  mod : ∀ a, (c'.net.fabric.inst a).mod = (c.net.fabric.inst a).mod
  length : c'.net.fabric.insts.length = c.net.fabric.insts.length
  calls : c'.net.fabric.calls = c.net.fabric.calls
  pending : c'.net.pending = c.net.pending
  heap : c.net.heap.Keeps c'.net.heap
  requests : c'.requests = c.requests

theorem Carries.carried {c c' : Config} (hc : Carries c c') : c.Carried c' := by
  induction hc with
  | refl => exact ⟨fun _ => rfl, rfl, rfl, rfl, .refl _, rfl⟩
  | tail _ h ih =>
      have hreq := h.requests.trans ih.requests
      cases h with
      | heap ht =>
          exact ⟨ih.mod, ih.length, ih.calls, ih.pending, ih.heap.trans ht.keeps, hreq⟩
      | up hu hw =>
          refine ⟨fun a => ?_, ?_, ih.calls, ih.pending, ih.heap, hreq⟩
          · rw [← ih.mod a]
            exact Fabric.mod_setUp _ _ _ _ _
          · rw [← ih.length]
            exact List.length_set
      | down hd hw =>
          refine ⟨fun a => ?_, ?_, ih.calls, ih.pending, ih.heap, hreq⟩
          · rw [← ih.mod a]
            exact Fabric.mod_setDown _ _ _ _ _
          · rw [← ih.length]
            exact List.length_set

/-- **What the tick of a module does.** -/
inductive Turn : Config → Config → Prop where
  | carry {c c' : Config} (hc : Carry c c') : Turn c c'
  /-- Statistics, records and the like. -/
  | note {n : Network} {hand : Multiset PacketId} {f : Fabric}
      (hf : f.insts.map Instance.contents = n.fabric.insts.map Instance.contents)
      (hcalls : f.calls = n.fabric.calls)
      (hpairs : f.downPair = n.fabric.downPair ∧ f.upPair = n.fabric.upPair) :
      Turn ⟨n, hand⟩ ⟨{ n with fabric := f }, hand⟩
  /-- A new request, which the code may keep in hand or not. -/
  | issue {n : Network} {hand : Multiset PacketId} (t : Payload) (pkt : Packet) (b : Bool)
      (hreq : pkt.isRequest = true) (horig : pkt.originalReq = none) (hvc : pkt.vcId = 0) :
      Turn ⟨n, hand⟩ ⟨{ n with heap := (n.heap.newRequest t pkt).2 },
        (if b then {n.heap.nextPacket} else 0) + hand⟩
  /-- A cache takes its oldest miss. -/
  | forward {n : Network} {hand : Multiset PacketId} {a : Nat} {m : CacheSim} {p : PacketId}
      {rest : List PacketId} (hm : (n.fabric.inst a).mod = .cache m)
      (hb : m.reqBuffer = p :: rest) :
      Turn ⟨n, hand⟩
        ⟨{ n with fabric := n.fabric.setMod a (.cache { m with reqBuffer := rest }) },
          p ::ₘ hand⟩
  /-- A CPU notes a request that has been sent. -/
  | track {n : Network} {hand : Multiset PacketId} {a : Nat} {m : CPUSim} {p : PacketId}
      (hm : (n.fabric.inst a).mod = .cpu m) (hlt : m.inflightReqs.length < 4)
      (hp : p ∈ (Config.mk n hand).requests) (haddr : n.heap.address p = m.nextAddr) :
      Turn ⟨n, hand⟩
        ⟨{ n with fabric := n.fabric.setMod a
                    (.cpu { m.insert m.nextAddr p with nextAddr := m.nextAddr + 4 }) }, hand⟩
  | generator {n : Network} {hand : Multiset PacketId} {a : Nat} {m m' : TrafficGenerator}
      (hm : (n.fabric.inst a).mod = .trafficGen m) :
      Turn ⟨n, hand⟩ ⟨{ n with fabric := n.fabric.setMod a (.trafficGen m') }, hand⟩

/-- **What the code of an event does.** -/
inductive Work : Config → Config → Prop where
  | turn {c c' : Config} (ht : Turn c c') : Work c c'
  /-- `tryForward` is scheduled. -/
  | arm {n : Network} {hand : Multiset PacketId} (a : Nat) (delay : UInt64) :
      Work ⟨n, hand⟩ ⟨{ n with fabric := n.fabric.schedule a .tryForward delay }, hand⟩
  /-- A cache keeps a miss. -/
  | keep {n : Network} {hand : Multiset PacketId} {a : Nat} {m : CacheSim} {p : PacketId}
      (hm : (n.fabric.inst a).mod = .cache m) (hroom : m.full = false) :
      Work ⟨n, p ::ₘ hand⟩
        ⟨{ n with fabric := n.fabric.setMod a
                    (.cache { m with reqBuffer := m.reqBuffer ++ [p] }) }, hand⟩
  /-- A CPU strikes an address off. -/
  | untrack {n : Network} {hand : Multiset PacketId} {a : Nat} {m : CPUSim}
      (hm : (n.fabric.inst a).mod = .cpu m) (addr : UInt64) :
      Work ⟨n, hand⟩ ⟨{ n with fabric := n.fabric.setMod a (.cpu (m.erase addr)) }, hand⟩
  /-- A response to a request in hand, on the channel of some packet. -/
  | answer {n : Network} {hand : Multiset PacketId} {req p : PacketId} {a : Nat} (j : Nat)
      (now delay : UInt64) (hm : (n.fabric.inst a).mod.Responds) (hp : p < n.heap.nextPacket) :
      Work ⟨n, req ::ₘ hand⟩
        ⟨{ n with heap := (n.heap.newResp now req (n.heap.packet p).vcId).2
                  fabric := n.fabric.schedule a (.respond j n.heap.nextPacket) delay }, hand⟩
  /-- An answered request is let go. -/
  | finish {n : Network} {hand : Multiset PacketId} {r : PacketId} (hr : n.heap.Answered r) :
      Work ⟨n, r ::ₘ hand⟩ ⟨n, hand⟩

/-- **One small step.** -/
inductive SmallStep : Config → Config → Prop where
  | work {c c' : Config} (hw : Work c c') : SmallStep c c'
  | settle {n : Network} {hand : Multiset PacketId} : SmallStep ⟨n, hand⟩ ⟨n.settle, hand⟩
  /-- A `LambdaEvent` gets its turn; the request it answers is in the hand of the code. -/
  | fire {n : Network} {hand : Multiset PacketId} {a : Nat} {e : Deferred}
      (he : (a, e) ∈ n.pending) :
      SmallStep ⟨n, hand⟩ ⟨{ n with pending := n.pending.erase (a, e) },
        owed n.heap {(a, e)} + hand⟩

theorem Work.carry {c c' : Config} (hc : Carry c c') : Work c c' := .turn (.carry hc)

theorem Work.note {n : Network} {hand : Multiset PacketId} {f : Fabric}
    (hf : f.insts.map Instance.contents = n.fabric.insts.map Instance.contents)
    (hcalls : f.calls = n.fabric.calls)
    (hpairs : f.downPair = n.fabric.downPair ∧ f.upPair = n.fabric.upPair) :
    Work ⟨n, hand⟩ ⟨{ n with fabric := f }, hand⟩ :=
  .turn (.note hf hcalls hpairs)

/-- Chains of turns, of what code does, and of small steps. -/
abbrev Turns : Config → Config → Prop := Relation.ReflTransGen Turn

abbrev Works : Config → Config → Prop := Relation.ReflTransGen Work

abbrev SmallSteps : Config → Config → Prop := Relation.ReflTransGen SmallStep

theorem Carries.turns {c c' : Config} (hc : Carries c c') : Turns c c' := by
  induction hc with
  | refl => exact .refl
  | tail _ h ih => exact ih.tail (.carry h)

theorem Turns.works {c c' : Config} (ht : Turns c c') : Works c c' := by
  induction ht with
  | refl => exact .refl
  | tail _ h ih => exact ih.tail (.turn h)

theorem Carries.works {c c' : Config} (hc : Carries c c') : Works c c' := hc.turns.works

theorem Works.smallSteps {c c' : Config} (hw : Works c c') : SmallSteps c c' := by
  induction hw with
  | refl => exact .refl
  | tail _ h ih => exact ih.tail (.work h)

/-! ## 3. The plan -/

/-- The pairs, and how many ports each module has. -/
def Fabric.plan (f : Fabric) :
    (Nat → Nat → Option (Nat × Nat)) × (Nat → Nat → Option (Nat × Nat)) × List (Nat × Nat) :=
  (f.downPair, f.upPair, f.insts.map fun x => (x.up.length, x.down.length))

theorem Fabric.plan_setInst {f : Fabric} {a : Nat} {x : Instance}
    (hup : x.up.length = (f.inst a).up.length) (hdown : x.down.length = (f.inst a).down.length) :
    (f.setInst a x).plan = f.plan := by
  have hmap := Fabric.map_setInst f a (x := x) (fun x : Instance => (x.up.length, x.down.length))
    (Prod.ext hup hdown)
  exact congrArg (fun l => (f.downPair, f.upPair, l)) hmap

theorem Fabric.plan_setMod (f : Fabric) (a : Nat) (m : Module) : (f.setMod a m).plan = f.plan :=
  Fabric.plan_setInst rfl rfl

/-- The contents know the number of ports. -/
theorem Fabric.plan_contents {f f' : Fabric}
    (hf : f'.insts.map Instance.contents = f.insts.map Instance.contents)
    (hpairs : f'.downPair = f.downPair ∧ f'.upPair = f.upPair) : f'.plan = f.plan := by
  have hcount : (fun x : Instance => (x.up.length, x.down.length)) =
      (fun x : Module × List (List Channel) × List (List Channel) =>
        (x.2.1.length, x.2.2.length)) ∘ Instance.contents := by
    funext x
    simp only [Function.comp, Instance.contents, List.length_map]
  simp only [plan, hpairs.1, hpairs.2, hcount, ← List.map_map, hf]

theorem SmallStep.plan {c c' : Config} (hm : SmallStep c c') :
    c'.net.fabric.plan = c.net.fabric.plan := by
  cases hm with
  | work hw =>
      cases hw with
      | turn ht =>
          cases ht with
          | carry hc =>
              cases hc with
              | heap hh => rfl
              | up hu hw => exact Fabric.plan_setInst List.length_set rfl
              | down hd hw => exact Fabric.plan_setInst rfl List.length_set
          | note hf hcalls hpairs => exact Fabric.plan_contents hf hpairs
          | issue t pkt b hreq horig hvc => rfl
          | forward hm hb => exact Fabric.plan_setMod _ _ _
          | track hm hlt hp haddr => exact Fabric.plan_setMod _ _ _
          | generator hm => exact Fabric.plan_setMod _ _ _
      | keep hm hroom => exact Fabric.plan_setMod _ _ _
      | untrack hm addr => exact Fabric.plan_setMod _ _ _
      | _ => rfl
  | _ => rfl

theorem SmallSteps.plan {c c' : Config} (hm : SmallSteps c c') :
    c'.net.fabric.plan = c.net.fabric.plan := by
  induction hm with
  | refl => rfl
  | tail _ h ih => exact h.plan.trans ih

/-- What the plan says. -/
theorem Fabric.of_plan {f f' : Fabric} (h : f'.plan = f.plan) :
    (f'.downPair = f.downPair ∧ f'.upPair = f.upPair) ∧
      ∀ a, (f'.inst a).up.length = (f.inst a).up.length ∧
        (f'.inst a).down.length = (f.inst a).down.length := by
  obtain ⟨hdown, hrest⟩ := Prod.mk.inj h
  obtain ⟨hup, hcount⟩ := Prod.mk.inj hrest
  have hget : ∀ (g : Fabric) (a : Nat), ((g.inst a).up.length, (g.inst a).down.length) =
      ((g.insts.map fun x => (x.up.length, x.down.length))[a]?).getD
        ((default : Instance).up.length, (default : Instance).down.length) := by
    intro g a
    rw [List.getElem?_map, Option.getD_map]
    exact congrArg (fun x : Instance => (x.up.length, x.down.length)) List.getD_eq_getElem?_getD
  refine ⟨⟨hdown, hup⟩, fun a => Prod.mk.inj ?_⟩
  rw [hget f', hget f, hcount]

end Gem5Sc
