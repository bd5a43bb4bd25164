/-
  File:      Gem5Sc/Modules/Lifetime.lean
  Subject:   WHAT IS STILL ALIVE WHEN A RESPONSE IS DELIVERED: any number of CPUs, caches and
             memories that pass requests and responses on, over one heap.

  A module sends through real `DownstreamPort`s. What is behind them is reduced to the requests
  that wait there (`waiting`): any module may be offered any of them at any time through any port,
  and keeps it waiting when it refuses, as a port does. Pending events run in any order, and a
  response may be delivered to any CPU or cache. Of the cycle stamps of a request, which nothing
  here reads, only the one it is created with is kept.

  A memory, and a cache that hits, schedule a response that shares the payload of the request and
  points back at it, and delete the request at once. A full cache deletes what it refuses, and so
  do both ports on the way of a send; the cache that has sent it keeps it and sends it again. So:

  * every response is delivered after the release of what it points to;
  * `lifetime_iff_harmless` -- a run is clean exactly when it delivers no response and no request
    comes, once it has been released, to where it is answered, refused or dropped.
-/
import Gem5Sc.Modules
import Gem5Sc.Library.Runs
import Mathlib.Data.List.GetD
import Mathlib.Data.List.Nodup
import Mathlib.Logic.Function.Iterate

namespace Gem5Sc

/-- A module that takes requests; a MemorySim has no state, so one stands for all. -/
inductive Node where
  | memory
  | cache (i : Nat)
  deriving DecidableEq, Repr

/-- A module that takes responses, a cache through one of its downstream ports. -/
inductive Receiver where
  | cpu (i : Nat)
  | cache (i : Nat) (port : Nat)
  deriving DecidableEq, Repr

/-- A response as it is handed to `sendResp`, with the heap of that moment. -/
structure Delivery where
  resp : PacketId
  heap : Heap

/-- Its payload, its `original_req` and the payload of that request have not been released. -/
structure Delivery.Alive (d : Delivery) : Prop where
  payload : ∀ q, (d.heap.packet d.resp).payload = some q → q ∉ d.heap.releasedPayloads
  request : ∀ r, (d.heap.packet d.resp).originalReq = some r → r ∉ d.heap.released
  requestPayload : ∀ r, (d.heap.packet d.resp).originalReq = some r →
    ∀ q, (d.heap.packet r).payload = some q → q ∉ d.heap.releasedPayloads

/-- The other end of the port that a request is sent through. -/
inductive FarEnd where
  /-- An `UpstreamPort` that takes it. -/
  | takes
  /-- One that refuses it, and deletes it. -/
  | refuses
  /-- A null `pair`. -/
  | unbound
  deriving DecidableEq, Repr

/-- What a `DownstreamPort` is created with. -/
structure PortSpec where
  outSizes : List Nat
  priorities : List Nat := []
  label : String := ""

/-- The modules and what is between them. -/
structure Exchange where
  cpus : Nat → CPUSim := fun _ => {}
  caches : Nat → CacheSim := fun _ => {}
  /-- The downstream ports of each module. -/
  ports : Node → List DownstreamPort := fun _ => []
  /-- The requests behind the ports. -/
  waiting : List PacketId := []
  /-- The scheduled `LambdaEvent`s, each with its module. -/
  pending : List (Node × Deferred) := []
  deliveries : List Delivery := []
  /-- The other end, for the next `sendReq`. -/
  far : FarEnd := .takes

/-- `other->recv(pkt)`. -/
def FarEnd.peer : FarEnd → Peer Exchange
  | .takes => some fun p w => (true, (w.1, { w.2 with waiting := w.2.waiting ++ [p] }))
  | .refuses => some fun p w => (false, (w.1.delete p, w.2))
  | .unbound => none

namespace Exchange

/-- `getDownstreamPorts()[j]`. -/
def port (x : Exchange) (node : Node) (j : Nat) : DownstreamPort := (x.ports node).getD j default

def setPort (x : Exchange) (node : Node) (j : Nat) (d : DownstreamPort) : Exchange :=
  { x with ports := Function.update x.ports node ((x.ports node).set j d) }

/-- `getDownstreamPorts()[j]->sendReq(pkt)`. -/
def sendReq (node : Node) (j : Nat) (p : PacketId) (w : Heap × Exchange) :
    Bool × (Heap × Exchange) :=
  let r := (w.2.port node j).sendReq w.2.far.peer p w
  (r.1, (r.2.2.1, r.2.2.2.setPort node j r.2.1))

/-- The surroundings of a module with `m` upstream ports and its downstream ports in `x`. -/
def context (m : Nat) (node : Node) (now : UInt64) (x : Exchange) : Context Exchange where
  now := now
  upstream := m
  downstream := (x.ports node).length
  sendReq := sendReq node
  sendResp _ _ w := (true, w)
  tickUpstream _ w := w
  tickDownstream _ w := w
  schedule e _ x := { x with pending := x.pending ++ [(node, e)] }

inductive Action where
  /-- A new request. -/
  | issue (t : Payload) (isWrite : Bool) (vcId : Int) (now : UInt64)
  /-- The `k`-th waiting request is offered through `port`. -/
  | offer (k : Nat) (node : Node) (port : Nat) (now : UInt64)
  | tick (i : Nat) (far : FarEnd) (now : UInt64)
  /-- The round for channel `v` of `DownstreamPort::tick`. -/
  | flush (node : Node) (port v : Nat) (far : FarEnd)
  /-- The `k`-th pending event runs; a response goes to the receiver. -/
  | fire (k : Nat) (far : FarEnd) (dest : Receiver) (now : UInt64)

variable (m : Nat → Nat)

/-- `handleUpstreamRequest` of the module. -/
def handleRequest (node : Node) (p : PacketId) (port : Nat) (now : UInt64) (w : Heap × Exchange) :
    Bool × (Heap × Exchange) :=
  match node with
  | .memory => MemorySim.handleUpstreamRequest (context 0 .memory now w.2) p port w
  | .cache i =>
      let r := (w.2.caches i).handleUpstreamRequest (context (m i) (.cache i) now w.2) p port w
      (r.1, (r.2.2.1, { r.2.2.2 with caches := Function.update r.2.2.2.caches i r.2.1 }))

/-- `tryForward` of cache `i`. -/
def forward (i : Nat) (now : UInt64) (w : Heap × Exchange) : Heap × Exchange :=
  let r := (w.2.caches i).tryForward (context (m i) (.cache i) now w.2) w
  (r.2.2.1, { r.2.2.2 with caches := Function.update r.2.2.2.caches i r.2.1 })

/-- `sendResp`, as far as the receiver: `recv` sets `dst_cycle`, the owner handles the response. -/
def deliver (dest : Receiver) (now : UInt64) (p : PacketId) (w : Heap × Exchange) :
    Heap × Exchange :=
  let x : Exchange := { w.2 with deliveries := w.2.deliveries ++ [{ resp := p, heap := w.1 }] }
  let h := w.1.setDstCycle p now
  match dest with
  | .cpu i =>
      let r := (x.cpus i).handleDownstreamResponse p (h, x)
      (r.2.2.1, { r.2.2.2 with cpus := Function.update r.2.2.2.cpus i r.2.1 })
  | .cache i port =>
      let r := (x.caches i).handleDownstreamResponse (context (m i) (.cache i) now x) p port (h, x)
      (r.2.2.1, { r.2.2.2 with caches := Function.update r.2.2.2.caches i r.2.1 })

def step (w : Heap × Exchange) : Action → Heap × Exchange
  | .issue t isWrite vcId now =>
      let x := w.1.newRequest t
        { srcCycle := now, type := if isWrite then .reqWrite else .reqRead, vcId := vcId }
      (x.2, { w.2 with waiting := w.2.waiting ++ [x.1] })
  | .offer k node port now =>
      match w.2.waiting[k]? with
      | none => w
      | some p =>
          let r := handleRequest m node p port now w
          if r.1 then (r.2.1, { r.2.2 with waiting := r.2.2.waiting.eraseIdx k }) else r.2
  | .tick i far now => forward m i now (w.1, { w.2 with far := far })
  | .flush node port v far =>
      let r := (w.2.port node port).trySend far.peer v w
      (r.2.2.1, r.2.2.2.setPort node port r.2.1)
  | .fire k far dest now =>
      let x := { w.2 with far := far, pending := w.2.pending.eraseIdx k }
      match w.2.pending[k]? with
      | none => w
      | some (_, .respond _ p) => deliver m dest now p (w.1, x)
      | some (.cache i, .tryForward) => forward m i now (w.1, x)
      | some (.memory, .tryForward) => (w.1, x)

/-- The simulation before the first request; the modules have ports as `made` says. -/
def start (made : Node → List PortSpec) : Heap × Exchange :=
  ({}, { ports := fun node =>
    (made node).mapIdx fun j s => DownstreamPort.create j s.outSizes s.priorities s.label })

/-- Every response delivered so far was alive, and no payload has been released twice. -/
structure Lifetime (w : Heap × Exchange) : Prop where
  alive : ∀ d ∈ w.2.deliveries, d.Alive
  once : w.1.releasedPayloads.Nodup

/-- How many times a send deletes its packet: an `UpstreamPort` that refuses it deletes it, and so
    does a `DownstreamPort` that has no channel or no room for it. -/
def deletions (d : DownstreamPort) (vcId : Int) (far : FarEnd) : Nat :=
  if validVc vcId d.outputVcs.length then
    let dropped := if (d.vc vcId.toNat).full then 1 else 0
    if (d.vc vcId.toNat).buffer.isEmpty then
      match far with
      | .takes => 0
      | .refuses => dropped + 1
      | .unbound => dropped
    else dropped
  else 1

/-- The send of cache `i`, if it comes to one, does not delete its packet, or deletes it once and
    for the first time. -/
def SendHarmless (i : Nat) (far : FarEnd) (now : UInt64) (w : Heap × Exchange) : Prop :=
  ∀ p j, (w.2.caches i).reqBuffer.head? = some p →
    CacheSim.routeToDownstream (context (m i) (.cache i) now w.2) p w.1 = some j →
      deletions (w.2.port (.cache i) j) (w.1.packet p).vcId far = 0 ∨
        deletions (w.2.port (.cache i) j) (w.1.packet p).vcId far = 1 ∧ p ∉ w.1.released

/-- The step delivers no response, and a released request is not deleted again: a module it is
    offered to only queues it, a port it is sent through or stands in neither refuses nor drops
    it. -/
def Harmless (w : Heap × Exchange) : Action → Prop
  | .issue .. => True
  | .offer k node _ _ => ∀ p, w.2.waiting[k]? = some p → p ∈ w.1.released →
      ∃ i, node = .cache i ∧ (w.2.caches i).full = false ∧ CacheSim.hit w.1 p = false
  | .tick i far now => SendHarmless m i far now w
  | .flush node port v _ => ∀ p, ((w.2.port node port).vc v).buffer.head? = some p →
      p ∉ w.1.released
  | .fire k far _ now =>
      match w.2.pending[k]? with
      | some (_, .respond _ _) => False
      | some (.cache i, .tryForward) => SendHarmless m i far now w
      | _ => True

/-! ## 1. The heap of a clean run -/

/-- `p` is a request that has been issued. -/
def Known (h : Heap) (p : PacketId) : Prop := p < h.nextPacket ∧ (h.packet p).isRequest = true

/-- Requests have payloads of their own, and only requests have been deleted, each once. -/
structure HeapInv (h : Heap) : Prop where
  own : ∀ p, Known h p → ∃ q, q < h.nextPayload ∧ (h.packet p).payload = some q
  apart : ∀ p p', Known h p → Known h p' → (h.packet p).payload = (h.packet p').payload → p = p'
  known : ∀ p ∈ h.released, Known h p
  once : h.released.Nodup
  payloads : h.releasedPayloads = h.released.filterMap fun p => (h.packet p).payload

/-- The invariant of a clean run. -/
structure Inv (w : Heap × Exchange) : Prop extends HeapInv w.1 where
  waiting : ∀ p ∈ w.2.waiting, Known w.1 p
  buffered : ∀ i, ∀ p ∈ (w.2.caches i).reqBuffer, Known w.1 p
  /-- What stands in a channel of a port is for this channel. -/
  parked : ∀ node, ∀ d ∈ w.2.ports node, ∀ v, ∀ p ∈ (d.vc v).buffer,
    Known w.1 p ∧ (w.1.packet p).vcId = v
  /-- A scheduled response points at a released request. -/
  stale : ∀ e ∈ w.2.pending, ∀ j p, e.2 = .respond j p →
    p < w.1.nextPacket ∧ ∃ r ∈ w.1.released, (w.1.packet p).originalReq = some r
  silent : w.2.deliveries = []

/-- A released request has its payload among the released ones. -/
theorem HeapInv.payload_released {h : Heap} (hH : HeapInv h) {p : PacketId} (hp : p ∈ h.released) :
    ∃ q ∈ h.releasedPayloads, (h.packet p).payload = some q := by
  obtain ⟨q, -, hq⟩ := hH.own p (hH.known p hp)
  refine ⟨q, ?_, hq⟩
  rw [hH.payloads]
  exact List.mem_filterMap.mpr ⟨p, hp, hq⟩

theorem HeapInv.payloads_nodup {h : Heap} (hH : HeapInv h) : h.releasedPayloads.Nodup := by
  rw [hH.payloads, List.Nodup, List.pairwise_filterMap]
  refine hH.once.imp_of_mem fun {p p'} hp hp' hne q hq q' hq' heq => hne ?_
  exact hH.apart p p' (hH.known p hp) (hH.known p' hp') (hq.trans (heq ▸ hq'.symm))

theorem Inv.lifetime {w : Heap × Exchange} (hI : Inv w) : Lifetime w where
  alive d hd := by
    rw [hI.silent] at hd
    exact absurd hd List.not_mem_nil
  once := hI.payloads_nodup

/-! ## 2. One step -/

/-- A heap that has issued more: what was known keeps its packet. -/
structure Grows (h h' : Heap) : Prop where
  next : h.nextPacket ≤ h'.nextPacket
  packet : ∀ p, p < h.nextPacket → h'.packet p = h.packet p
  released : ∀ p ∈ h.released, p ∈ h'.released

theorem Grows.known {h h' : Heap} (hg : Grows h h') {p : PacketId} (hp : Known h p) :
    Known h' p :=
  ⟨Nat.lt_of_lt_of_le hp.1 hg.next, by rw [hg.packet p hp.1]; exact hp.2⟩

theorem Known.not_credit {h : Heap} {p : PacketId} (hp : Known h p) :
    (h.packet p).isCredit = false := by
  have h2 := hp.2
  unfold Packet.isRequest at h2
  unfold Packet.isCredit
  revert h2
  cases (h.packet p).type <;> decide

/-- A request that is deleted for the first time. -/
theorem heapInv_delete {h : Heap} (hH : HeapInv h) {p : PacketId} (hp : Known h p)
    (hr : p ∉ h.released) : HeapInv (h.delete p) := by
  obtain ⟨q, -, hq⟩ := hH.own p hp
  refine ⟨hH.own, hH.apart, fun p' hp' => ?_, List.nodup_cons.mpr ⟨hr, hH.once⟩, ?_⟩
  · rcases List.mem_cons.mp hp' with rfl | hp'
    · exact hp
    · exact hH.known p' hp'
  · show (h.payloadOf p).toList ++ h.releasedPayloads = _
    rw [Heap.payloadOf, hp.not_credit, hq, hH.payloads, Heap.delete_released, Heap.delete_packet,
      List.filterMap_cons, hq]
    rfl

theorem grows_delete (h : Heap) (p : PacketId) : Grows h (h.delete p) :=
  ⟨Nat.le_refl _, fun _ _ => rfl, fun _ hp => List.mem_cons_of_mem _ hp⟩

/-- Issuing a packet that is no request. -/
theorem heapInv_new {h : Heap} (hH : HeapInv h) {x : Packet} (hx : x.isRequest = false) :
    HeapInv (h.new x).2 := by
  have hold : ∀ p, Known (h.new x).2 p → Known h p ∧ (h.new x).2.packet p = h.packet p := by
    intro p ⟨hlt, hreq⟩
    rcases Nat.lt_succ_iff_lt_or_eq.mp hlt with hlt | rfl
    · have e := Heap.new_packet_of_lt h x hlt
      exact ⟨⟨hlt, by rw [← e]; exact hreq⟩, e⟩
    · rw [Heap.new_packet_self, hx] at hreq
      cases hreq
  refine ⟨fun p hp => ?_, fun p p' hp hp' heq => ?_, fun p hp => ?_, hH.once, ?_⟩
  · rw [(hold p hp).2]
    exact hH.own p (hold p hp).1
  · rw [(hold p hp).2, (hold p' hp').2] at heq
    exact hH.apart p p' (hold p hp).1 (hold p' hp').1 heq
  · have hk := hH.known p hp
    exact ⟨Nat.lt_succ_of_lt hk.1, by rw [Heap.new_packet_of_lt h x hk.1]; exact hk.2⟩
  · show h.releasedPayloads = _
    rw [hH.payloads]
    refine List.filterMap_congr fun p hp => ?_
    rw [Heap.new_packet_of_lt h x (hH.known p hp).1]

/-- Issuing a request with its own payload. -/
theorem heapInv_newRequest {h : Heap} (hH : HeapInv h) (t : Payload) (x : Packet) :
    HeapInv (h.newRequest t x).2 := by
  have hnew : ∀ p, Known (h.newRequest t x).2 p →
      p = h.nextPacket ∧ ((h.newRequest t x).2.packet p).payload = some h.nextPayload ∨
        Known h p ∧ (h.newRequest t x).2.packet p = h.packet p := by
    intro p ⟨hlt, hreq⟩
    have hlt' : p < h.nextPacket + 1 := hlt
    rcases Nat.lt_succ_iff_lt_or_eq.mp hlt' with hlt | rfl
    · have e := Heap.newRequest_packet_of_lt h t x hlt
      exact Or.inr ⟨⟨hlt, by rw [← e]; exact hreq⟩, e⟩
    · exact Or.inl ⟨rfl, by rw [Heap.newRequest_packet_self]⟩
  -- an old payload is not the new one
  have hne : ∀ p, Known h p → (h.packet p).payload ≠ some h.nextPayload := by
    intro p hp e
    obtain ⟨q, hlt, hq⟩ := hH.own p hp
    rw [e, Option.some.injEq] at hq
    omega
  refine ⟨fun p hp => ?_, fun p p' hp hp' heq => ?_, fun p hp => ?_, hH.once, ?_⟩
  · rcases hnew p hp with ⟨-, e⟩ | ⟨hk, e⟩
    · exact ⟨h.nextPayload, Nat.lt_succ_self _, e⟩
    · obtain ⟨q, hlt, hq⟩ := hH.own p hk
      exact ⟨q, Nat.lt_succ_of_lt hlt, by rw [e]; exact hq⟩
  · rcases hnew p hp with ⟨hp1, e⟩ | ⟨hk, e⟩ <;> rcases hnew p' hp' with ⟨hp1', e'⟩ | ⟨hk', e'⟩
    · exact hp1.trans hp1'.symm
    · rw [e, e'] at heq
      exact absurd heq.symm (hne p' hk')
    · rw [e, e'] at heq
      exact absurd heq (hne p hk)
    · rw [e, e'] at heq
      exact hH.apart p p' hk hk' heq
  · have hk := hH.known p hp
    exact ⟨Nat.lt_succ_of_lt hk.1, by rw [Heap.newRequest_packet_of_lt h t x hk.1]; exact hk.2⟩
  · show h.releasedPayloads = _
    rw [hH.payloads]
    refine List.filterMap_congr fun p hp => ?_
    rw [Heap.newRequest_packet_of_lt h t x (hH.known p hp).1]

/-- The answer of a memory and of a hit: a response that points at the deleted request. -/
theorem heapInv_respond {h : Heap} (hH : HeapInv h) {r : PacketId} (hr : Known h r)
    (hrel : r ∉ h.released) (now : UInt64) (vcId : Int) :
    HeapInv (((h.setResponseOk r).newResp now r vcId).2.delete r) ∧
      Grows h (((h.setResponseOk r).newResp now r vcId).2.delete r) := by
  have hset : HeapInv (h.setResponseOk r) := by
    refine ⟨fun p hp => ?_, fun p p' hp hp' => ?_, fun p hp => ?_, ?_, ?_⟩
    · rw [Heap.setResponseOk_nextPayload, Heap.setResponseOk_packet]
      exact hH.own p (by simpa [Known] using hp)
    · rw [Heap.setResponseOk_packet]
      exact hH.apart p p' (by simpa [Known] using hp) (by simpa [Known] using hp')
    · rw [Heap.setResponseOk_released] at hp
      simpa [Known] using hH.known p hp
    · rw [Heap.setResponseOk_released]
      exact hH.once
    · rw [Heap.setResponseOk_releasedPayloads, Heap.setResponseOk_released,
        Heap.setResponseOk_packet]
      exact hH.payloads
  have hgrow : Grows h ((h.setResponseOk r).newResp now r vcId).2 := by
    refine ⟨?_, fun p hp => ?_, fun p hp => ?_⟩
    · show h.nextPacket ≤ (h.setResponseOk r).nextPacket + 1
      rw [Heap.setResponseOk_nextPacket]
      omega
    · rw [Heap.newResp, Heap.new_packet_of_lt _ _ (by simpa using hp), Heap.setResponseOk_packet]
    · show p ∈ (h.setResponseOk r).released
      rw [Heap.setResponseOk_released]
      exact hp
  have hnew : HeapInv ((h.setResponseOk r).newResp now r vcId).2 := heapInv_new hset rfl
  have hrel' : r ∉ ((h.setResponseOk r).newResp now r vcId).2.released := by
    show r ∉ (h.setResponseOk r).released
    rw [Heap.setResponseOk_released]
    exact hrel
  refine ⟨heapInv_delete hnew (hgrow.known hr) hrel', ?_⟩
  exact ⟨hgrow.next, hgrow.packet, fun p hp => List.mem_cons_of_mem _ (hgrow.released p hp)⟩

/-- The lists of the exchange keep their invariant when the heap grows and what they gain is
    known. -/
theorem inv_grow {w w' : Heap × Exchange} (hI : Inv w) (hH : HeapInv w'.1) (hg : Grows w.1 w'.1)
    (hwait : ∀ p ∈ w'.2.waiting, p ∈ w.2.waiting ∨ Known w'.1 p)
    (hbuf : ∀ i, ∀ p ∈ (w'.2.caches i).reqBuffer, p ∈ (w.2.caches i).reqBuffer ∨ Known w'.1 p)
    (hpark : ∀ node, ∀ d ∈ w'.2.ports node, ∀ v, ∀ p ∈ (d.vc v).buffer,
      (∃ d' ∈ w.2.ports node, p ∈ (d'.vc v).buffer) ∨ Known w'.1 p ∧ (w'.1.packet p).vcId = v)
    (hpend : ∀ e ∈ w'.2.pending, ∀ j p, e.2 = .respond j p → e ∈ w.2.pending ∨
      p < w'.1.nextPacket ∧ ∃ r ∈ w'.1.released, (w'.1.packet p).originalReq = some r)
    (hdel : w'.2.deliveries = w.2.deliveries) : Inv w' where
  toHeapInv := hH
  waiting p hp := (hwait p hp).elim (fun hp => hg.known (hI.waiting p hp)) id
  buffered i p hp := (hbuf i p hp).elim (fun hp => hg.known (hI.buffered i p hp)) id
  parked node d hd v p hp := by
    rcases hpark node d hd v p hp with ⟨d', hd', hp'⟩ | h
    · obtain ⟨hk, hvc⟩ := hI.parked node d' hd' v p hp'
      exact ⟨hg.known hk, by rw [hg.packet p hk.1]; exact hvc⟩
    · exact h
  stale e he j p hep := by
    rcases hpend e he j p hep with he | h
    · obtain ⟨hlt, r, hr, horig⟩ := hI.stale e he j p hep
      exact ⟨Nat.lt_of_lt_of_le hlt hg.next, r, hg.released r hr,
        by rw [hg.packet p hlt]; exact horig⟩
    · exact h
  silent := hdel.trans hI.silent

/-- Another far end for the next send, and pending events that are gone. -/
theorem Inv.during {w : Heap × Exchange} (hI : Inv w) (far : FarEnd) {l : List (Node × Deferred)}
    (hl : ∀ e ∈ l, e ∈ w.2.pending) : Inv (w.1, { w.2 with far := far, pending := l }) :=
  ⟨hI.toHeapInv, hI.waiting, hI.buffered, hI.parked, fun e he => hI.stale e (hl e he), hI.silent⟩

/-! ### Sends -/

/-- The deletions of a known request: none, or its first. -/
theorem heapInv_deletions {h : Heap} (hH : HeapInv h) {p : PacketId} (hp : Known h p) {k : Nat}
    (hk : k = 0 ∨ k = 1 ∧ p ∉ h.released) :
    HeapInv (Nat.iterate (·.delete p) k h) ∧ Grows h (Nat.iterate (·.delete p) k h) := by
  rcases hk with rfl | ⟨rfl, hr⟩
  · exact ⟨hH, Nat.le_refl _, fun _ _ => rfl, fun _ => id⟩
  · exact ⟨heapInv_delete hH hp hr, grows_delete h p⟩

/-- What `enqueueOrDrop` does for a packet of its channel: it is left there, or deleted. The other
    end may have had it before, so the port is only known to have the channels of `d`. -/
theorem enqueueOrDrop_spec {d e : DownstreamPort} {p : PacketId} {vcId : Int}
    (hd : e.outputVcs = d.outputVcs) (hv : validVc vcId d.outputVcs.length = true)
    (w : Heap × Exchange) :
    (e.enqueueOrDrop vcId.toNat p w).2.2.1 =
        Nat.iterate (·.delete p) (if (d.vc vcId.toNat).full then 1 else 0) w.1 ∧
      (e.enqueueOrDrop vcId.toNat p w).2.2.2 = w.2 ∧
      ∀ v, ∀ q ∈ ((e.enqueueOrDrop vcId.toNat p w).2.1.vc v).buffer,
        q ∈ (d.vc v).buffer ∨ q = p ∧ vcId = v := by
  have hvc : ∀ v, e.vc v = d.vc v := fun v => congrArg (·.getD v default) hd
  have hi : vcId.toNat < e.outputVcs.length := hd ▸ validVc_toNat hv
  cases hf : (d.vc vcId.toNat).full with
  | true =>
      rw [DownstreamPort.enqueueOrDrop_of_full ((hvc _).symm ▸ hf)]
      have hsame := fun v => DownstreamPort.setVc_buffer e
        (x := (e.vc vcId.toNat).countDropped) rfl v
      exact ⟨rfl, rfl, fun v q hq => Or.inl (hvc v ▸ hsame v ▸ hq)⟩
  | false =>
      rw [DownstreamPort.enqueueOrDrop_of_not_full ((hvc _).symm ▸ hf)]
      refine ⟨rfl, rfl, fun v q hq => ?_⟩
      by_cases hiv : vcId.toNat = v
      · subst hiv
        rw [DownstreamPort.setVc_vc_self hi, hvc] at hq
        rcases List.mem_append.mp hq with hq | hq
        · exact Or.inl hq
        · exact Or.inr ⟨List.mem_singleton.mp hq, (validVc_cast hv).symm⟩
      · rw [DownstreamPort.setVc_vc_ne e hiv, hvc] at hq
        exact Or.inl hq

/-- **A send deletes its packet `deletions` times**, hands it to the other end or not at all, and
    may leave it in the channel it is for. -/
theorem sendReq_spec (d : DownstreamPort) (p : PacketId) (w : Heap × Exchange) (far : FarEnd) :
    (d.sendReq far.peer p w).2.2.1 =
        Nat.iterate (·.delete p) (deletions d (w.1.packet p).vcId far) w.1 ∧
      ((d.sendReq far.peer p w).2.2.2 = w.2 ∨
        (d.sendReq far.peer p w).2.2.2 = { w.2 with waiting := w.2.waiting ++ [p] }) ∧
      ∀ v, ∀ q ∈ ((d.sendReq far.peer p w).2.1.vc v).buffer,
        q ∈ (d.vc v).buffer ∨ q = p ∧ (w.1.packet p).vcId = v := by
  unfold deletions
  cases hv : validVc (w.1.packet p).vcId d.outputVcs.length with
  | false =>
      rw [DownstreamPort.sendReq_invalid hv, if_neg Bool.false_ne_true]
      exact ⟨rfl, Or.inl rfl, fun _ _ hq => Or.inl hq⟩
  | true =>
      rw [if_pos rfl]
      by_cases hb : (d.vc (w.1.packet p).vcId.toNat).buffer = []
      · rw [DownstreamPort.sendReq_direct hv hb, hb]
        cases far with
        | takes => exact ⟨rfl, Or.inr rfl, fun _ _ hq => Or.inl hq⟩
        | refuses =>
            obtain ⟨h1, h2, h3⟩ :=
              enqueueOrDrop_spec (e := d.counted p w.1) rfl hv (w.1.delete p, w.2)
            exact ⟨h1, Or.inl h2, h3⟩
        | unbound =>
            obtain ⟨h1, h2, h3⟩ := enqueueOrDrop_spec (e := d.counted p w.1) rfl hv w
            exact ⟨h1, Or.inl h2, h3⟩
      · rw [DownstreamPort.sendReq_queued hv hb,
          if_neg (by rw [List.isEmpty_iff]; exact hb)]
        obtain ⟨h1, h2, h3⟩ := enqueueOrDrop_spec (d := d) rfl hv w
        exact ⟨h1, Or.inl h2, h3⟩

/-- **The round of `tick` for a channel deletes its head**, and no channel gains a packet. -/
theorem trySend_spec {d : DownstreamPort} {v : Nat} {p : PacketId} {w : Heap × Exchange}
    (far : FarEnd) (hb : (d.vc v).buffer.head? = some p) (hv : (w.1.packet p).vcId = v) :
    (d.trySend far.peer v w).2.2 = (w.1.delete p, w.2) ∧
      ∀ v', ∀ q ∈ ((d.trySend far.peer v w).2.1.vc v').buffer, q ∈ (d.vc v').buffer := by
  obtain ⟨rest, hb⟩ := List.head?_eq_some_iff.mp hb
  have hi : v < d.outputVcs.length := by
    by_contra hi
    rw [DownstreamPort.vc_of_length_le (Nat.le_of_not_lt hi)] at hb
    cases hb
  rw [DownstreamPort.trySend_cons hi hb hv]
  split
  · refine ⟨rfl, fun v' q hq => ?_⟩
    have hsame := DownstreamPort.setVc_buffer d (x := (d.vc v).countDropped) rfl v'
    exact hsame ▸ hq
  · refine ⟨rfl, fun v' q hq => ?_⟩
    by_cases hvv : v = v'
    · subst hvv
      rw [DownstreamPort.setVc_vc_self hi] at hq
      have hq' : q ∈ ((d.vc v).buffer ++ [p]).tail := hq
      rw [hb, List.cons_append, List.tail_cons, List.mem_append, List.mem_singleton] at hq'
      rw [hb]
      exact hq'.elim (List.mem_cons_of_mem p) fun h => h ▸ List.mem_cons_self
    · rw [DownstreamPort.setVc_vc_ne d hvv] at hq
      exact hq

/-- What stands in port `j` stands in a port of the module. -/
theorem exists_port {x : Exchange} {node : Node} {j v : Nat} {p : PacketId}
    (hp : p ∈ ((x.port node j).vc v).buffer) : ∃ d ∈ x.ports node, p ∈ (d.vc v).buffer := by
  unfold port at hp
  by_cases hj : j < (x.ports node).length
  · refine ⟨_, List.getElem_mem hj, ?_⟩
    rwa [List.getD_eq_getElem _ _ hj] at hp
  · rw [List.getD_eq_default _ _ (Nat.le_of_not_lt hj)] at hp
    exact absurd hp List.not_mem_nil

/-- A port of the modules after one of them has been replaced. -/
theorem mem_setPort {x : Exchange} {node node' : Node} {j : Nat} {d d' : DownstreamPort}
    (h : d' ∈ (x.setPort node j d).ports node') : d' ∈ x.ports node' ∨ node' = node ∧ d' = d := by
  by_cases hn : node' = node
  · subst hn
    have h' : d' ∈ (x.ports node').set j d := by simpa [setPort] using h
    exact (List.mem_or_eq_of_mem_set h').imp id fun he => ⟨rfl, he⟩
  · simp only [setPort, Function.update_of_ne hn] at h
    exact Or.inl h

variable {m}

/-- A cache with nothing to send, or with no port to send it through. -/
theorem forward_idle {i : Nat} {now : UInt64} {w : Heap × Exchange}
    (h : ∀ p, (w.2.caches i).reqBuffer.head? = some p →
      CacheSim.routeToDownstream (context (m i) (.cache i) now w.2) p w.1 = none) :
    forward m i now w = w := by
  have hsame : (w.2.caches i).tryForward (context (m i) (.cache i) now w.2) w =
      (((w.2.caches i).tryForward (context (m i) (.cache i) now w.2) w).1, w.2.caches i, w) := by
    unfold CacheSim.tryForward
    cases hb : (w.2.caches i).reqBuffer with
    | nil => rfl
    | cons p rest =>
        dsimp only
        rw [h p (by rw [hb]; rfl)]
  unfold forward
  rw [hsame]
  exact Prod.ext rfl (by simp [Function.update_eq_self])

/-- The forwarding sends the head of the buffer, and takes it out or leaves it there. -/
theorem tryForward_send {ρ : Type} {c : Context ρ} {x : CacheSim} {w : Heap × ρ} {p : PacketId}
    {rest : List PacketId} {j : Nat} (hb : x.reqBuffer = p :: rest)
    (hroute : CacheSim.routeToDownstream c p w.1 = some j) :
    ∃ b x', (∀ q ∈ x'.reqBuffer, q ∈ x.reqBuffer) ∧
      x.tryForward c w = (b, x', (c.sendReq j p w).2) := by
  unfold CacheSim.tryForward
  rw [hb]
  dsimp only
  rw [hroute]
  dsimp only
  by_cases hok : (c.sendReq j p w).1 = true
  · rw [if_pos hok]
    exact ⟨_, ⟨rest⟩, fun q => List.mem_cons_of_mem p, rfl⟩
  · rw [if_neg hok]
    exact ⟨_, x, fun q hq => hb ▸ hq, rfl⟩

theorem forward_send {i j : Nat} {p : PacketId} {now : UInt64} {w : Heap × Exchange}
    (hhead : (w.2.caches i).reqBuffer.head? = some p)
    (hroute : CacheSim.routeToDownstream (context (m i) (.cache i) now w.2) p w.1 = some j) :
    ∃ c : CacheSim, (∀ q ∈ c.reqBuffer, q ∈ (w.2.caches i).reqBuffer) ∧
      forward m i now w = ((sendReq (.cache i) j p w).2.1,
        { (sendReq (.cache i) j p w).2.2 with
          caches := Function.update (sendReq (.cache i) j p w).2.2.caches i c }) := by
  obtain ⟨rest, hb⟩ := List.head?_eq_some_iff.mp hhead
  obtain ⟨b, c, hsub, hsend⟩ := tryForward_send hb hroute
  refine ⟨c, hsub, ?_⟩
  unfold forward
  rw [hsend]
  rfl

/-- **A harmless forwarding** only moves a known request. -/
theorem inv_forward {w : Heap × Exchange} (hI : Inv w) {i : Nat} {now : UInt64}
    (hC : SendHarmless m i w.2.far now w) : Inv (forward m i now w) := by
  by_cases hsend : ∃ p j, (w.2.caches i).reqBuffer.head? = some p ∧
      CacheSim.routeToDownstream (context (m i) (.cache i) now w.2) p w.1 = some j
  · obtain ⟨p, j, hhead, hroute⟩ := hsend
    obtain ⟨c, hsub, hforward⟩ := forward_send hhead hroute
    have hp : Known w.1 p := hI.buffered i p (List.mem_of_head? hhead)
    obtain ⟨hdel, hwait, hpark⟩ := sendReq_spec (w.2.port (.cache i) j) p w w.2.far
    obtain ⟨hH, hg⟩ := heapInv_deletions hI.toHeapInv hp (hC p j hhead hroute)
    rw [← hdel] at hH hg
    -- the rest of the exchange, but for the port and for what is handed on
    have hrest : (sendReq (.cache i) j p w).2.2.caches = w.2.caches ∧
        (sendReq (.cache i) j p w).2.2.pending = w.2.pending ∧
        (sendReq (.cache i) j p w).2.2.deliveries = w.2.deliveries ∧
        (∀ q ∈ (sendReq (.cache i) j p w).2.2.waiting, q ∈ w.2.waiting ∨ q = p) ∧
        (sendReq (.cache i) j p w).2.2.ports =
          (w.2.setPort (.cache i) j
            ((w.2.port (.cache i) j).sendReq w.2.far.peer p w).2.1).ports := by
      unfold sendReq
      rcases hwait with hwait | hwait
      · simp only [hwait, setPort, true_and, and_true]
        exact fun q => Or.inl
      · simp only [hwait, setPort, true_and, and_true]
        exact fun q hq => (List.mem_append.mp hq).imp id List.mem_singleton.mp
    obtain ⟨hcaches, hpending, hdeliveries, hwaiting, hports⟩ := hrest
    rw [hforward]
    refine inv_grow hI hH hg (fun q hq => ?_) (fun i' q hq => Or.inl ?_)
      (fun node d hd v q hq => ?_) (fun e he _ _ _ => Or.inl (hpending ▸ he)) hdeliveries
    · refine (hwaiting q hq).imp id fun h => ?_
      rw [h]
      exact hg.known hp
    · have hq' : q ∈ (Function.update (sendReq (.cache i) j p w).2.2.caches i c i').reqBuffer := hq
      rw [hcaches] at hq'
      by_cases hii : i' = i
      · subst hii
        rw [Function.update_self] at hq'
        exact hsub q hq'
      · rw [Function.update_of_ne hii] at hq'
        exact hq'
    · have hd' : d ∈ (sendReq (.cache i) j p w).2.2.ports node := hd
      rw [hports] at hd'
      rcases mem_setPort hd' with hold | ⟨rfl, rfl⟩
      · exact Or.inl ⟨d, hold, hq⟩
      · rcases hpark v q hq with hq | ⟨rfl, hvc⟩
        · exact Or.inl (exists_port hq)
        · have hsame : (sendReq (.cache i) j q w).2.1.packet q = w.1.packet q := hg.packet q hp.1
          exact Or.inr ⟨hg.known hp, (congrArg Packet.vcId hsame).trans hvc⟩
  · rw [forward_idle fun p hp => ?_]
    · exact hI
    · exact Option.eq_none_iff_forall_not_mem.mpr fun j hj => hsend ⟨p, j, hp, hj⟩

/-- A module that answers a live request, whatever it changes of its own state besides. -/
theorem inv_answered {w : Heap × Exchange} (hI : Inv w) {p : PacketId} (hp : Known w.1 p)
    (hrel : p ∉ w.1.released) (now : UInt64) (vcId : Int) (node : Node) (port : Nat)
    {x : Exchange} (hwait : ∀ q ∈ x.waiting, q ∈ w.2.waiting) (hcaches : x.caches = w.2.caches)
    (hports : x.ports = w.2.ports)
    (hpend : x.pending = w.2.pending ++
      [(node, .respond port ((w.1.setResponseOk p).newResp now p vcId).1)])
    (hdel : x.deliveries = w.2.deliveries) :
    Inv (((w.1.setResponseOk p).newResp now p vcId).2.delete p, x) := by
  obtain ⟨hH, hg⟩ := heapInv_respond hI.toHeapInv hp hrel now vcId
  refine inv_grow hI hH hg (fun q hq => Or.inl (hwait q hq)) (fun i q hq => Or.inl ?_)
    (fun node' d hd v q hq => Or.inl ⟨d, ?_, hq⟩) (fun e he j r her => ?_) hdel
  · have hq' : q ∈ (x.caches i).reqBuffer := hq
    rwa [hcaches] at hq'
  · have hd' : d ∈ x.ports node' := hd
    rwa [hports] at hd'
  · have he' : e ∈ x.pending := he
    rw [hpend, List.mem_append, List.mem_singleton] at he'
    refine he'.imp id ?_
    rintro rfl
    obtain ⟨-, rfl⟩ := Deferred.respond.inj her
    refine ⟨Nat.lt_succ_self _, p, List.mem_cons_self, ?_⟩
    rw [Heap.delete_packet, Heap.newResp, Heap.new_fst, Heap.new_packet_self]

theorem inv_offer {w : Heap × Exchange} (hI : Inv w) (k : Nat) (node : Node) (port : Nat)
    (now : UInt64) (hC : Harmless m w (.offer k node port now)) :
    Inv (step m w (.offer k node port now)) := by
  rw [step]
  split
  · exact hI
  · next p hk =>
      have hp : Known w.1 p := hI.waiting p (List.mem_of_getElem? hk)
      have hsub : ∀ q ∈ w.2.waiting.eraseIdx k, q ∈ w.2.waiting := fun q =>
        List.mem_of_mem_eraseIdx
      cases node with
      | memory =>
          have hrel : p ∉ w.1.released := by
            intro h
            obtain ⟨i, hi, -⟩ := hC p hk h
            cases hi
          exact inv_answered hI hp hrel now _ .memory port hsub rfl rfl rfl rfl
      | cache i =>
          cases hf : (w.2.caches i).full with
          | true =>
              simp only [handleRequest, CacheSim.handleUpstreamRequest_full hf]
              have hrel : p ∉ w.1.released := by
                intro h
                obtain ⟨i', hi, hf', -⟩ := hC p hk h
                obtain rfl := Node.cache.inj hi
                rw [hf] at hf'
                cases hf'
              refine inv_grow hI (heapInv_delete hI.toHeapInv hp hrel) (grows_delete _ _)
                (fun q hq => Or.inl hq) (fun j q hq => Or.inl ?_)
                (fun _ d hd _ _ hq => Or.inl ⟨d, hd, hq⟩) (fun e he _ _ _ => Or.inl he) rfl
              simpa using hq
          | false =>
              cases hh : CacheSim.hit w.1 p with
              | true =>
                  simp only [handleRequest, CacheSim.handleUpstreamRequest_hit hf hh]
                  have hrel : p ∉ w.1.released := by
                    intro h
                    obtain ⟨i', -, -, hh'⟩ := hC p hk h
                    rw [hh] at hh'
                    cases hh'
                  exact inv_answered hI hp hrel now _ (.cache i) port hsub
                    (Function.update_eq_self _ _) rfl rfl rfl
              | false =>
                  simp only [handleRequest, CacheSim.handleUpstreamRequest_miss hf hh]
                  refine inv_grow hI hI.toHeapInv ⟨Nat.le_refl _, fun _ _ => rfl, fun _ => id⟩
                    (fun q hq => Or.inl (hsub q hq)) (fun j q hq => ?_)
                    (fun _ d hd _ _ hq => Or.inl ⟨d, hd, hq⟩) (fun e he j q heq => ?_) rfl
                  · by_cases hj : j = i
                    · subst hj
                      have hq' : q ∈ (w.2.caches j).reqBuffer ∨ q = p := by simpa [context] using hq
                      rcases hq' with hq' | rfl
                      · exact Or.inl hq'
                      · exact Or.inr hp
                    · exact Or.inl (by simpa [context, hj] using hq)
                  · rcases List.mem_append.mp he with he | he
                    · exact Or.inl he
                    · rw [List.mem_singleton] at he
                      subst he
                      cases heq

/-- The round for a channel whose head has not been released. -/
theorem inv_flush {w : Heap × Exchange} (hI : Inv w) (node : Node) (j v : Nat) (far : FarEnd)
    (hC : Harmless m w (.flush node j v far)) : Inv (step m w (.flush node j v far)) := by
  rw [step]
  cases hb : ((w.2.port node j).vc v).buffer.head? with
  | none =>
      rw [DownstreamPort.trySend_nil (List.head?_eq_none_iff.mp hb)]
      refine inv_grow hI hI.toHeapInv ⟨Nat.le_refl _, fun _ _ => rfl, fun _ => id⟩
        (fun _ => Or.inl) (fun _ _ => Or.inl) (fun node' d hd v' q hq => Or.inl ?_)
        (fun e he _ _ _ => Or.inl he) rfl
      rcases mem_setPort hd with hold | ⟨rfl, rfl⟩
      · exact ⟨d, hold, hq⟩
      · exact exists_port hq
  | some p =>
      obtain ⟨d, hd, hmem⟩ := exists_port (List.mem_of_head? hb)
      obtain ⟨hp, hvc⟩ := hI.parked node d hd v p hmem
      obtain ⟨hrest, hbuf⟩ := trySend_spec far hb hvc
      rw [hrest]
      refine inv_grow hI (heapInv_delete hI.toHeapInv hp (hC p hb)) (grows_delete _ _)
        (fun _ => Or.inl) (fun _ _ => Or.inl) (fun node' d hd v' q hq => Or.inl ?_)
        (fun e he _ _ _ => Or.inl he) rfl
      rcases mem_setPort hd with hold | ⟨rfl, rfl⟩
      · exact ⟨d, hold, hq⟩
      · exact exists_port (hbuf v' q hq)

/-- A step that meets the condition keeps the invariant. -/
theorem inv_step {w : Heap × Exchange} (hI : Inv w) (a : Action) (hC : Harmless m w a) :
    Inv (step m w a) := by
  cases a with
  | issue t isWrite vcId now =>
      have hg : Grows w.1 (w.1.newRequest t
          { srcCycle := now, type := if isWrite then .reqWrite else .reqRead, vcId := vcId }).2 :=
        ⟨Nat.le_succ _, fun p hp => Heap.newRequest_packet_of_lt _ _ _ hp, fun _ => id⟩
      refine inv_grow hI (heapInv_newRequest hI.toHeapInv t _) hg (fun p hp => ?_)
        (fun _ _ => Or.inl) (fun _ d hd _ _ hq => Or.inl ⟨d, hd, hq⟩)
        (fun e he _ _ _ => Or.inl he) rfl
      rcases List.mem_append.mp hp with hp | hp
      · exact Or.inl hp
      · rw [List.mem_singleton] at hp
        subst hp
        refine Or.inr ⟨Nat.lt_succ_self _, ?_⟩
        show (((w.1.newRequest t _).2.packet w.1.nextPacket)).isRequest = true
        rw [Heap.newRequest_packet_self]
        cases isWrite <;> rfl
  | offer k node port now => exact inv_offer hI k node port now hC
  | tick i far now => exact inv_forward (hI.during far fun _ => id) hC
  | flush node port v far => exact inv_flush hI node port v far hC
  | fire k far dest now =>
      have hsub : ∀ e ∈ w.2.pending.eraseIdx k, e ∈ w.2.pending := fun e =>
        List.mem_of_mem_eraseIdx
      rw [Harmless] at hC
      rw [step]
      cases hk : w.2.pending[k]? with
      | none => exact hI
      | some e =>
          obtain ⟨node, deferred⟩ := e
          rw [hk] at hC
          cases deferred with
          | respond j p => exact absurd hC id
          | tryForward =>
              cases node with
              | memory => exact hI.during far hsub
              | cache i => exact inv_forward (hI.during far hsub) hC

/-! ## 3. What goes wrong outside the condition -/

theorem deliver_deliveries (dest : Receiver) (now : UInt64) (p : PacketId) (w : Heap × Exchange) :
    (deliver m dest now p w).2.deliveries =
      w.2.deliveries ++ [{ resp := p, heap := w.1 }] := by
  cases dest with
  | cpu i =>
      simp only [deliver, CPUSim.handleDownstreamResponse]
      split <;> rfl
  | cache i port =>
      simp only [deliver, CacheSim.handleDownstreamResponse]
      split <;> rfl

/-- Deleting a request that has been deleted before releases its payload a second time. -/
theorem double_release {h g : Heap} (hH : HeapInv h) {p : PacketId} (hp : p ∈ h.released)
    (hg : g.packet p = h.packet p) (hq : g.releasedPayloads = h.releasedPayloads) :
    ¬ (g.delete p).releasedPayloads.Nodup := by
  obtain ⟨q, hmem, hpay⟩ := hH.payload_released hp
  have hcredit := (hH.known p hp).not_credit
  intro hnd
  have e : (g.delete p).releasedPayloads = q :: h.releasedPayloads := by
    show (g.payloadOf p).toList ++ g.releasedPayloads = _
    rw [Heap.payloadOf, hg, hcredit, hpay, hq]
    rfl
  rw [e] at hnd
  exact (List.nodup_cons.mp hnd).1 hmem

/-- What has been released twice stays so. -/
theorem deletions_not_nodup {h : Heap} (p : PacketId) (k : Nat)
    (hn : ¬ h.releasedPayloads.Nodup) :
    ¬ (Nat.iterate (·.delete p) k h).releasedPayloads.Nodup := by
  induction k generalizing h with
  | zero => exact hn
  | succ k ih => exact ih fun hnd => hn (List.nodup_append.mp hnd).2.1

/-- Any other deletions of a known request release its payload twice. -/
theorem harmful_deletions {h : Heap} (hH : HeapInv h) {p : PacketId} (hp : Known h p) {k : Nat}
    (hk : ¬ (k = 0 ∨ k = 1 ∧ p ∉ h.released)) :
    ¬ (Nat.iterate (·.delete p) k h).releasedPayloads.Nodup := by
  by_cases hr : p ∈ h.released
  · obtain ⟨k, rfl⟩ : ∃ k', k = k' + 1 := Nat.exists_eq_succ_of_ne_zero fun h0 => hk (Or.inl h0)
    exact deletions_not_nodup p k (double_release hH hr rfl rfl)
  · obtain ⟨k, rfl⟩ : ∃ k', k = k' + 2 := by
      refine ⟨k - 2, ?_⟩
      have h0 : k ≠ 0 := fun h0 => hk (Or.inl h0)
      have h1 : k ≠ 1 := fun h1 => hk (Or.inr ⟨h1, hr⟩)
      omega
    exact deletions_not_nodup p k
      (double_release (heapInv_delete hH hp hr) List.mem_cons_self rfl rfl)

theorem not_lifetime_of_send {w : Heap × Exchange} (hI : Inv w) {i : Nat} {now : UInt64}
    (hC : ¬ SendHarmless m i w.2.far now w) : ¬ Lifetime (forward m i now w) := by
  unfold SendHarmless at hC
  push Not at hC
  obtain ⟨p, j, hhead, hroute, h0, h1⟩ := hC
  have hp : Known w.1 p := hI.buffered i p (List.mem_of_head? hhead)
  obtain ⟨c, -, hforward⟩ := forward_send hhead hroute
  have hheap : (forward m i now w).1 = Nat.iterate (·.delete p)
      (deletions (w.2.port (.cache i) j) (w.1.packet p).vcId w.2.far) w.1 :=
    (congrArg Prod.fst hforward).trans (sendReq_spec (w.2.port (.cache i) j) p w w.2.far).1
  intro hL
  refine harmful_deletions hI.toHeapInv hp (fun hk => ?_) (hheap ▸ hL.once)
  exact hk.elim h0 fun hk => hk.2 (h1 hk.1)

/-- **A step outside the condition breaks the property at once.** -/
theorem not_lifetime_of_harm {w : Heap × Exchange} (hI : Inv w) (a : Action)
    (hC : ¬ Harmless m w a) : ¬ Lifetime (step m w a) := by
  cases a with
  | issue t isWrite vcId now => exact absurd trivial hC
  | tick i far now => exact not_lifetime_of_send (hI.during far fun _ => id) hC
  | flush node port v far =>
      simp only [Harmless, not_forall, not_not] at hC
      obtain ⟨p, hb, hr⟩ := hC
      obtain ⟨d, hd, hmem⟩ := exists_port (List.mem_of_head? hb)
      have hheap := congrArg Prod.fst (trySend_spec far hb (hI.parked node d hd v p hmem).2).1
      intro hL
      have honce := hL.once
      rw [step, hheap] at honce
      exact double_release hI.toHeapInv hr rfl rfl honce
  | fire k far dest now =>
      have hsub : ∀ e ∈ w.2.pending.eraseIdx k, e ∈ w.2.pending := fun e =>
        List.mem_of_mem_eraseIdx
      rw [Harmless] at hC
      rw [step]
      cases hk : w.2.pending[k]? with
      | none =>
          rw [hk] at hC
          exact absurd trivial hC
      | some e =>
          obtain ⟨node, deferred⟩ := e
          rw [hk] at hC
          cases deferred with
          | tryForward =>
              cases node with
              | memory => exact absurd trivial hC
              | cache i => exact not_lifetime_of_send (hI.during far hsub) hC
          | respond j p =>
              intro hL
              obtain ⟨-, r, hr, horig⟩ := hI.stale _ (List.mem_of_getElem? hk) j p rfl
              have hmem : ({ resp := p, heap := w.1 } : Delivery) ∈
                  (deliver m dest now p (w.1, { w.2 with
                    far := far, pending := w.2.pending.eraseIdx k })).2.deliveries := by
                rw [deliver_deliveries]
                exact List.mem_append_right _ (List.mem_singleton_self _)
              exact (hL.alive _ hmem).request r horig hr
  | offer k node port now =>
      simp only [Harmless, not_forall] at hC
      obtain ⟨p, hk, hp, hnot⟩ := hC
      have hlt := (hI.known p hp).1
      have hanswer : ∀ vcId, ¬ (((w.1.setResponseOk p).newResp now p vcId).2.delete
          p).releasedPayloads.Nodup := by
        intro vcId
        refine double_release hI.toHeapInv hp ?_ (Heap.setResponseOk_releasedPayloads _ _)
        rw [Heap.newResp, Heap.new_packet_of_lt _ _ (by simpa using hlt),
          Heap.setResponseOk_packet]
      intro hL
      rw [step, hk] at hL
      cases node with
      | memory => exact hanswer _ hL.once
      | cache i =>
          cases hf : (w.2.caches i).full with
          | true =>
              simp only [handleRequest, CacheSim.handleUpstreamRequest_full hf] at hL
              exact double_release hI.toHeapInv hp rfl rfl hL.once
          | false =>
              cases hh : CacheSim.hit w.1 p with
              | true =>
                  simp only [handleRequest, CacheSim.handleUpstreamRequest_hit hf hh] at hL
                  exact hanswer _ hL.once
              | false => exact hnot ⟨i, rfl, hf, hh⟩

/-- No packet has been issued. -/
theorem inv_start (made : Node → List PortSpec) : Inv (start made) where
  own p hp := absurd hp.1 (Nat.not_lt_zero p)
  apart p _ hp := absurd hp.1 (Nat.not_lt_zero p)
  known _ hp := absurd hp List.not_mem_nil
  once := List.nodup_nil
  payloads := rfl
  waiting _ hp := absurd hp List.not_mem_nil
  buffered _ _ hp := absurd hp List.not_mem_nil
  parked node d hd v p hp := by
    obtain ⟨j, hj, rfl⟩ := List.mem_mapIdx.mp hd
    rw [DownstreamPort.create_buffer] at hp
    exact absurd hp List.not_mem_nil
  stale _ he := absurd he List.not_mem_nil
  silent := rfl

variable (m)

/-- **RESPONSE DATA IS ALIVE WHEN IT IS USED.** For any numbers of ports with any channels and
    every run of memories, caches and CPUs: every delivered response is alive and no payload is
    released twice, in every state of the run, if and only if no step delivers a response or
    deletes a request that has been released, and no send deletes a request twice. -/
theorem lifetime_iff_harmless (made : Node → List PortSpec) (acts : List Action) :
    Library.Everywhere (step m) Lifetime (start made) acts ↔
      Library.Along (step m) (Harmless m) (start made) acts :=
  Library.everywhere_iff_along (I := Inv) (inv_start made) (fun _ h => h.lifetime)
    (fun _ a h hC => inv_step h a hC) (fun _ a h hC => not_lifetime_of_harm h a hC)

/-- A cache with one port of one channel sends a request on. The other end refuses it and the
    channel has no room for it: each deletes it, and the cache would send it again. -/
example : ((Library.run (step fun _ => 1) (start fun _ => [{ outSizes := [0] }])
    [.issue { address := 0x1004 } false 0 0, .offer 0 (.cache 0) 0 1,
      .fire 0 .refuses (.cpu 0) 2]).1.releasedPayloads) = [0, 0] := by decide

/-- One request, answered by a memory; the response is delivered to a CPU. -/
def oneRead : List Action :=
  [.issue { address := 0x1000 } false 0 0, .offer 0 .memory 0 1, .fire 0 .takes (.cpu 0) 101]

/-- The request and the shared payload have been released 100 cycles before. -/
theorem oneRead_not_lifetime :
    ¬ Library.Everywhere (step fun _ => 1) Lifetime (start fun _ => [{ outSizes := [4] }])
      oneRead := by
  intro h
  have hlast := Library.everywhere_iff_prefix.mp h oneRead (List.prefix_refl _)
  exact absurd hlast.once (by decide)

end Exchange

end Gem5Sc
