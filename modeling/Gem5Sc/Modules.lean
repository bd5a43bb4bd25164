/-
  File:      Gem5Sc/Modules.lean
  Subject:   The modules of the simulator: CPUSim, CacheSim, MemorySim, Crossbar, Arbiter, Router
             and TrafficGenerator, each with its handlers and its `tick`.

  A module acts on its surroundings in five ways: `sendReq` on a downstream port, `sendResp` on
  an upstream port, the `tick` of either kind of port, and `schedule`. These are the fields of
  `Context`; the same definitions then serve a module alone, with its surroundings answering in
  any way, and a whole system, where the answers come from the ports.

  The `LambdaEvent`s of the modules are of two kinds, so an event is data (`Deferred`) and
  `Module.runDeferred` is its body.
-/
import Gem5Sc.Port

namespace Gem5Sc

/-- The `LambdaEvent`s the modules schedule. -/
inductive Deferred where
  /-- `getPortManager().getUpstreamPorts()[port]->sendResp(resp)`. -/
  | respond (port : Nat) (resp : PacketId)
  | tryForward
  deriving DecidableEq, Repr

/-- What a module sees of the system around it. -/
structure Context (ρ : Type) where
  /-- `event_queue->getCurrentCycle()`. -/
  now : UInt64
  /-- `getUpstreamPorts().size()`. -/
  upstream : Nat
  /-- `getDownstreamPorts().size()`. -/
  downstream : Nat
  sendReq : Nat → PacketId → Heap × ρ → Bool × (Heap × ρ)
  sendResp : Nat → PacketId → Heap × ρ → Bool × (Heap × ρ)
  tickUpstream : Nat → Heap × ρ → Heap × ρ
  tickDownstream : Nat → Heap × ρ → Heap × ρ
  schedule : Deferred → UInt64 → ρ → ρ

variable {ρ : Type}

namespace Heap

/-- `pkt->payload->set_response_status(TLM_OK_RESPONSE)`. -/
def setResponseOk (h : Heap) (p : PacketId) : Heap :=
  match (h.packet p).payload with
  | some q => h.setStatus q .ok
  | none => h

/-- `new Packet(req->payload, now, PKT_RESP)` with `original_req = req` and `vc_id = vcId`. -/
def newResp (h : Heap) (now : UInt64) (req : PacketId) (vcId : Int) : PacketId × Heap :=
  h.new { payload := (h.packet req).payload, srcCycle := now, type := .resp,
          originalReq := some req, vcId := vcId }

/-- A new request packet with a new payload. -/
def newRequest (h : Heap) (t : Payload) (pkt : Packet) : PacketId × Heap :=
  (h.newPayload t).2.new { pkt with payload := some (h.newPayload t).1 }

@[simp] theorem newRequest_packet_self (h : Heap) (t : Payload) (pkt : Packet) :
    (h.newRequest t pkt).2.packet h.nextPacket = { pkt with payload := some h.nextPayload } :=
  new_packet_self (h.newPayload t).2 _

theorem newRequest_packet_of_lt (h : Heap) (t : Payload) (pkt : Packet) {r : PacketId}
    (hr : r < h.nextPacket) : (h.newRequest t pkt).2.packet r = h.packet r :=
  new_packet_of_lt (h.newPayload t).2 _ hr

@[simp] theorem setResponseOk_packet (h : Heap) (p : PacketId) :
    (h.setResponseOk p).packet = h.packet := by
  unfold setResponseOk
  split <;> rfl

@[simp] theorem setResponseOk_nextPacket (h : Heap) (p : PacketId) :
    (h.setResponseOk p).nextPacket = h.nextPacket := by
  unfold setResponseOk
  split <;> rfl

@[simp] theorem setResponseOk_nextPayload (h : Heap) (p : PacketId) :
    (h.setResponseOk p).nextPayload = h.nextPayload := by
  unfold setResponseOk
  split <;> rfl

@[simp] theorem setResponseOk_released (h : Heap) (p : PacketId) :
    (h.setResponseOk p).released = h.released := by
  unfold setResponseOk
  split <;> rfl

@[simp] theorem setResponseOk_releasedPayloads (h : Heap) (p : PacketId) :
    (h.setResponseOk p).releasedPayloads = h.releasedPayloads := by
  unfold setResponseOk
  split <;> rfl

end Heap

/-- The default of `SimObject` for both handlers. -/
def SimObject.handleDefault (p : PacketId) (w : Heap × ρ) : Bool × (Heap × ρ) :=
  (false, (w.1.delete p, w.2))

/-! ## 1. CPUSim -/

/-- `class CPUSim`; `inflight_reqs` as an association list. -/
structure CPUSim where
  inflightReqs : List (UInt64 × PacketId) := []
  nextAddr : UInt64 := 0x1000
  deriving DecidableEq, Repr, Inhabited

namespace CPUSim

/-- `inflight_reqs.erase(addr)`. -/
def erase (m : CPUSim) (addr : UInt64) : CPUSim :=
  { m with inflightReqs := m.inflightReqs.filter fun e => e.1 ≠ addr }

/-- `inflight_reqs[addr] = pkt`. -/
def insert (m : CPUSim) (addr : UInt64) (p : PacketId) : CPUSim :=
  { m with inflightReqs := (addr, p) :: (m.erase addr).inflightReqs }

/-- `CPUSim::handleDownstreamResponse`. The source reads through `original_req` without a check;
    a response without one erases nothing here. -/
def handleDownstreamResponse (m : CPUSim) (p : PacketId) (w : Heap × ρ) :
    Bool × CPUSim × (Heap × ρ) :=
  if (w.1.packet p).isResponse then
    let m := match (w.1.packet p).originalReq with
      | some r => m.erase (w.1.address r)
      | none => m
    (true, m, (w.1.delete p, w.2))
  else (false, m, (w.1.delete p, w.2))

/-- `CPUSim::tick`; `rand` is what `rand()` returns. -/
def tick (c : Context ρ) (rand : Nat) (m : CPUSim) (w : Heap × ρ) : CPUSim × (Heap × ρ) :=
  if c.downstream = 0 then (m, w)
  else if m.inflightReqs.length < 4 ∧ rand % 20 = 0 then
    let x := w.1.newRequest { command := .read, address := m.nextAddr, dataLength := 4 }
      { srcCycle := c.now, type := .reqRead, vcId := 0 }
    let r := c.sendReq (m.nextAddr.toNat % c.downstream) x.1 (x.2, w.2)
    if r.1 then ({ m.insert m.nextAddr x.1 with nextAddr := m.nextAddr + 4 }, r.2)
    else (m, (r.2.1.delete x.1, r.2.2))
  else (m, w)

end CPUSim

/-! ## 2. CacheSim -/

/-- `class CacheSim`. -/
structure CacheSim where
  reqBuffer : List PacketId := []
  deriving DecidableEq, Repr, Inhabited

namespace CacheSim

/-- `MAX_BUFFER`. -/
def maxBuffer : Nat := 4

/-- `req_buffer.size() >= MAX_BUFFER`. -/
def full (m : CacheSim) : Bool := m.reqBuffer.length ≥ maxBuffer

/-- The test for a hit: the low three bits of the address are zero. -/
def hit (h : Heap) (p : PacketId) : Bool := h.address p &&& 0x7 == 0

/-- `CacheSim::routeToDownstream`. -/
def routeToDownstream (c : Context ρ) (p : PacketId) (h : Heap) : Option Nat :=
  if c.downstream = 0 then none else some ((h.address p >>> 8).toNat % c.downstream)

/-- `CacheSim::tryForward`. -/
def tryForward (c : Context ρ) (m : CacheSim) (w : Heap × ρ) : Bool × CacheSim × (Heap × ρ) :=
  match m.reqBuffer with
  | [] => (true, m, w)
  | p :: rest =>
      match routeToDownstream c p w.1 with
      | none => (false, m, w)
      | some i =>
          let r := c.sendReq i p w
          if r.1 then (true, { m with reqBuffer := rest }, r.2) else (false, m, r.2)

/-- The hit branch of `handleUpstreamRequest`: respond in the next cycle, delete the request. -/
def respondHit (c : Context ρ) (p : PacketId) (srcId : Nat) (w : Heap × ρ) : Heap × ρ :=
  let h := w.1.setResponseOk p
  let x := h.newResp c.now p (h.packet p).vcId
  (x.2.delete p, c.schedule (.respond srcId x.1) 1 w.2)

/-- `CacheSim::handleUpstreamRequest`. -/
def handleUpstreamRequest (c : Context ρ) (m : CacheSim) (p : PacketId) (srcId : Nat)
    (w : Heap × ρ) : Bool × CacheSim × (Heap × ρ) :=
  if m.full then (false, m, (w.1.delete p, w.2))
  else if hit w.1 p then (true, m, respondHit c p srcId w)
  else (true, { m with reqBuffer := m.reqBuffer ++ [p] }, (w.1, c.schedule .tryForward 1 w.2))

section Request

variable {c : Context ρ} {m : CacheSim} {p : PacketId} {srcId : Nat} {w : Heap × ρ}

/-- A full cache deletes the request. -/
theorem handleUpstreamRequest_full (hf : m.full = true) :
    m.handleUpstreamRequest c p srcId w = (false, m, (w.1.delete p, w.2)) := by
  rw [handleUpstreamRequest, if_pos hf]

theorem handleUpstreamRequest_hit (hf : m.full = false) (hh : hit w.1 p = true) :
    m.handleUpstreamRequest c p srcId w = (true, m, respondHit c p srcId w) := by
  rw [handleUpstreamRequest, if_neg (by simp [hf]), if_pos hh]

theorem handleUpstreamRequest_miss (hf : m.full = false) (hh : hit w.1 p = false) :
    m.handleUpstreamRequest c p srcId w =
      (true, { m with reqBuffer := m.reqBuffer ++ [p] },
        (w.1, c.schedule .tryForward 1 w.2)) := by
  rw [handleUpstreamRequest, if_neg (by simp [hf]), if_neg (by simp [hh])]

end Request

/-- `CacheSim::handleDownstreamResponse`. The source reads through `original_req` without a
    check; a response without one changes nothing here. -/
def handleDownstreamResponse (c : Context ρ) (m : CacheSim) (p : PacketId) (srcId : Nat)
    (w : Heap × ρ) : Bool × CacheSim × (Heap × ρ) :=
  match (w.1.packet p).originalReq with
  | none => (true, m, w)
  | some origReq =>
      let x := w.1.newResp c.now origReq (w.1.packet p).vcId
      let s := c.schedule (.respond (srcId % c.upstream) x.1) 1 w.2
      (true, m, ((x.2.delete p).delete origReq, s))

/-- `CacheSim::tick`. -/
def tick (c : Context ρ) (m : CacheSim) (w : Heap × ρ) : CacheSim × (Heap × ρ) :=
  (tryForward c m w).2

end CacheSim

/-! ## 3. MemorySim -/

namespace MemorySim

/-- `MemorySim::handleUpstreamRequest`; the module has no state. -/
def handleUpstreamRequest (c : Context ρ) (p : PacketId) (srcId : Nat) (w : Heap × ρ) :
    Bool × (Heap × ρ) :=
  let h := w.1.setResponseOk p
  let x := h.newResp c.now p (h.packet p).vcId
  (true, (x.2.delete p, c.schedule (.respond srcId x.1) 100 w.2))

end MemorySim

/-! ## 4. Crossbar and Arbiter -/

/-- `class Crossbar`, without the counter nothing reads. -/
structure Crossbar where
  reqQueue : List (PacketId × Nat) := []
  deriving DecidableEq, Repr, Inhabited

namespace Crossbar

/-- `Crossbar::route`. -/
def route (c : Context ρ) (p : PacketId) (h : Heap) : Nat :=
  if c.downstream = 0 then 0 else (h.address p).toNat % c.downstream

/-- `Crossbar::handleUpstreamRequest`, with two arguments. -/
def handleUpstreamRequest (m : Crossbar) (p : PacketId) (srcId : Nat) (w : Heap × ρ) :
    Bool × Crossbar × (Heap × ρ) :=
  (true, { m with reqQueue := m.reqQueue ++ [(p, srcId)] }, w)

/-- `Crossbar::handleDownstreamResponse`, with two arguments. -/
def handleDownstreamResponse (m : Crossbar) (p : PacketId) (w : Heap × ρ) :
    Bool × Crossbar × (Heap × ρ) :=
  (true, m, (w.1.delete p, w.2))

/-- `Crossbar::tick`. -/
def tick (c : Context ρ) (m : Crossbar) (w : Heap × ρ) : Crossbar × (Heap × ρ) :=
  match m.reqQueue with
  | [] => (m, w)
  | (p, srcId) :: rest =>
      let dst := route c p w.1
      if dst < c.downstream then
        let r := c.sendReq dst p w
        if r.1 then ({ m with reqQueue := rest }, r.2)
        else ({ m with reqQueue := rest ++ [(p, srcId)] }, r.2)
      else ({ m with reqQueue := rest }, (w.1.delete p, w.2))

end Crossbar

/-- `class Arbiter`, without the counter nothing reads. -/
structure Arbiter where
  reqQueue : List (PacketId × Nat) := []
  deriving DecidableEq, Repr, Inhabited

namespace Arbiter

/-- `Arbiter::handleUpstreamRequest`, with two arguments. -/
def handleUpstreamRequest (m : Arbiter) (p : PacketId) (srcId : Nat) (w : Heap × ρ) :
    Bool × Arbiter × (Heap × ρ) :=
  (true, { m with reqQueue := m.reqQueue ++ [(p, srcId)] }, w)

/-- `Arbiter::handleDownstreamResponse`, with two arguments. -/
def handleDownstreamResponse (m : Arbiter) (p : PacketId) (w : Heap × ρ) :
    Bool × Arbiter × (Heap × ρ) :=
  (true, m, (w.1.delete p, w.2))

/-- `Arbiter::tick`: always the first downstream port. -/
def tick (c : Context ρ) (m : Arbiter) (w : Heap × ρ) : Arbiter × (Heap × ρ) :=
  match m.reqQueue with
  | [] => (m, w)
  | (p, srcId) :: rest =>
      if c.downstream ≠ 0 then
        let r := c.sendReq 0 p w
        if r.1 then ({ m with reqQueue := rest }, r.2)
        else ({ m with reqQueue := rest ++ [(p, srcId)] }, r.2)
      else ({ m with reqQueue := rest }, (w.1.delete p, w.2))

end Arbiter

/-! ## 5. Router -/

namespace Router

/-- `Router::routeByAddress`, with its comparisons in the order of the source. -/
def routeByAddress (addr : UInt64) : Nat :=
  if addr ≥ 0x80000000 then 1
  else if addr ≥ 0xF0000000 then 2
  else 0

/-- `Router::handleUpstreamRequest`, with two arguments; the answer of `sendReq` is not used. -/
def handleUpstreamRequest (c : Context ρ) (p : PacketId) (w : Heap × ρ) : Bool × (Heap × ρ) :=
  let dst := routeByAddress (w.1.address p)
  if dst < c.downstream then (true, (c.sendReq dst p w).2)
  else (true, (w.1.delete p, w.2))

/-- `Router::handleDownstreamResponse`, with two arguments. -/
def handleDownstreamResponse (c : Context ρ) (p : PacketId) (srcId : Nat) (w : Heap × ρ) :
    Bool × (Heap × ρ) :=
  if (w.1.packet p).originalReq.isSome ∧ srcId < c.upstream then
    (true, (c.sendResp srcId p w).2)
  else (true, (w.1.delete p, w.2))

end Router

/-! ## 6. TrafficGenerator -/

/-- `enum class GenMode`. -/
inductive GenMode where
  | sequential | random | trace
  deriving DecidableEq, Repr

/-- `struct TraceEntry`. -/
structure TraceEntry where
  addr : UInt64
  isWrite : Bool
  deriving DecidableEq, Repr

/-- The random numbers one `tick` may draw: `rand()`, `addr_dist(rng)` and `rng() % 2`. -/
structure Draw where
  rand : Nat
  addr : UInt64
  coin : Bool
  deriving DecidableEq, Repr, Inhabited

/-- `class TrafficGenerator`. The constructor initialises `cur_addr` from `start_addr` before
    `start_addr` has a value and leaves `trace_pos` without one, so neither has a default here. -/
structure TrafficGenerator where
  mode : GenMode := .sequential
  curAddr : UInt64
  startAddr : UInt64 := 0x1000
  endAddr : UInt64 := 0x2000
  numRequests : Int := 20
  completed : Int := 0
  trace : List TraceEntry :=
    [⟨0x1000, false⟩, ⟨0x1004, true⟩, ⟨0x1008, false⟩, ⟨0x100c, true⟩]
  tracePos : Nat
  deriving DecidableEq, Repr

namespace TrafficGenerator

/-- `TrafficGenerator::handleDownstreamResponse`, with two arguments. -/
def handleDownstreamResponse (m : TrafficGenerator) (p : PacketId) (w : Heap × ρ) :
    Bool × TrafficGenerator × (Heap × ρ) :=
  if (w.1.packet p).isResponse then
    (true, { m with completed := m.completed + 1 }, (w.1.delete p, w.2))
  else (false, m, w)

/-- The `switch` of `issueRequest`: address and direction of the next request, if any. -/
def nextRequest (d : Draw) (m : TrafficGenerator) :
    Option (UInt64 × Bool) × TrafficGenerator :=
  match m.mode with
  | .sequential =>
      let next := m.curAddr + 4
      (some (m.curAddr, m.curAddr % 8 == 0),
        { m with curAddr := if next ≥ m.endAddr then m.startAddr else next })
  | .random => (some (d.addr, d.coin), m)
  | .trace =>
      match m.trace[m.tracePos]? with
      | none => (none, m)
      | some e => (some (e.addr, e.isWrite), { m with tracePos := m.tracePos + 1 })

/-- `TrafficGenerator::issueRequest`. -/
def issueRequest (c : Context ρ) (d : Draw) (m : TrafficGenerator) (w : Heap × ρ) :
    TrafficGenerator × (Heap × ρ) :=
  match nextRequest d m with
  | (none, m) => (m, ((w.1.newPayload {}).2, w.2))
  | (some (addr, isWrite), m) =>
      let x := w.1.newRequest
        { command := if isWrite then .write else .read, address := addr, dataLength := 4 }
        { srcCycle := c.now, type := if isWrite then .reqWrite else .reqRead }
      let r := c.sendReq 0 x.1 (x.2, w.2)
      if r.1 then (m, r.2) else (m, (r.2.1.delete x.1, r.2.2))

/-- `TrafficGenerator::tick`. -/
def tick (c : Context ρ) (d : Draw) (m : TrafficGenerator) (w : Heap × ρ) :
    TrafficGenerator × (Heap × ρ) :=
  if c.downstream ≠ 0 ∧ m.completed < m.numRequests ∧ d.rand % 10 = 0 then issueRequest c d m w
  else (m, w)

end TrafficGenerator

/-! ## 7. The virtual calls of SimObject -/

/-- A module of one of the seven classes. -/
inductive Module where
  | cpu (m : CPUSim)
  | cache (m : CacheSim)
  | memory
  | crossbar (m : Crossbar)
  | arbiter (m : Arbiter)
  | router
  | trafficGen (m : TrafficGenerator)
  deriving Repr

namespace Module

/-- `obj->tick()`. -/
def tick (c : Context ρ) (d : Draw) (m : Module) (w : Heap × ρ) : Module × (Heap × ρ) :=
  match m with
  | .cpu m => let r := m.tick c d.rand w; (.cpu r.1, r.2)
  | .cache m => let r := m.tick c w; (.cache r.1, r.2)
  | .memory => (.memory, w)
  | .crossbar m => let r := m.tick c w; (.crossbar r.1, r.2)
  | .arbiter m => let r := m.tick c w; (.arbiter r.1, r.2)
  | .router => (.router, w)
  | .trafficGen m => let r := m.tick c d w; (.trafficGen r.1, r.2)

/-- `owner->handleUpstreamRequest(pkt, id, label)` through the `SimObject` interface. Only the
    three-argument functions override it: the two-argument handlers of Crossbar, Arbiter and
    Router do not, and neither CPUSim nor TrafficGenerator has one. -/
def handleUpstreamRequest (c : Context ρ) (m : Module) (p : PacketId) (srcId : Nat)
    (w : Heap × ρ) : Bool × Module × (Heap × ρ) :=
  match m with
  | .cache m => let r := m.handleUpstreamRequest c p srcId w; (r.1, .cache r.2.1, r.2.2)
  | .memory => let r := MemorySim.handleUpstreamRequest c p srcId w; (r.1, .memory, r.2)
  | m => let r := SimObject.handleDefault p w; (r.1, m, r.2)

/-- `owner->handleDownstreamResponse(pkt, id, label)` through the `SimObject` interface. -/
def handleDownstreamResponse (c : Context ρ) (m : Module) (p : PacketId) (srcId : Nat)
    (w : Heap × ρ) : Bool × Module × (Heap × ρ) :=
  match m with
  | .cpu m => let r := m.handleDownstreamResponse p w; (r.1, .cpu r.2.1, r.2.2)
  | .cache m => let r := m.handleDownstreamResponse c p srcId w; (r.1, .cache r.2.1, r.2.2)
  | m => let r := SimObject.handleDefault p w; (r.1, m, r.2)

/-- The body of a `LambdaEvent`. -/
def runDeferred (c : Context ρ) (m : Module) (e : Deferred) (w : Heap × ρ) :
    Module × (Heap × ρ) :=
  match e, m with
  | .respond j resp, m => (m, (c.sendResp j resp w).2)
  | .tryForward, .cache m => let r := m.tryForward c w; (.cache r.2.1, r.2.2)
  | .tryForward, m => (m, w)

end Module

/-! ## 8. What the code of a module keeps of its surroundings -/

section Keeps

variable {J : ρ → Prop} {c : Context ρ}

theorem CacheSim.tryForward_keeps (hreq : ∀ i p w, J w.2 → J (c.sendReq i p w).2.2)
    (m : CacheSim) (w : Heap × ρ) (hw : J w.2) : J (m.tryForward c w).2.2.2 := by
  unfold CacheSim.tryForward
  split
  · exact hw
  · split
    · exact hw
    · simp only
      split <;> exact hreq _ _ _ hw

theorem CacheSim.handleDownstreamResponse_keeps
    (hsched : ∀ e r, J r → J (c.schedule e 1 r)) (m : CacheSim) (p : PacketId)
    (srcId : Nat) (w : Heap × ρ) (hw : J w.2) :
    J (m.handleDownstreamResponse c p srcId w).2.2.2 := by
  unfold CacheSim.handleDownstreamResponse
  split
  · exact hw
  · exact hsched _ _ hw

/-- **No module ticks a port.** What `sendReq` keeps, the `tick` of every module keeps, whatever
    the ticks of its ports do. -/
theorem Module.tick_keeps (hreq : ∀ i p w, J w.2 → J (c.sendReq i p w).2.2) (d : Draw)
    (m : Module) (w : Heap × ρ) (hw : J w.2) : J (m.tick c d w).2.2 := by
  cases m with
  | cpu m =>
      simp only [Module.tick, CPUSim.tick]
      split
      · exact hw
      · split
        · split <;> exact hreq _ _ _ hw
        · exact hw
  | cache m => exact CacheSim.tryForward_keeps hreq m w hw
  | memory => exact hw
  | crossbar m =>
      simp only [Module.tick, Crossbar.tick]
      split
      · exact hw
      · split
        · split <;> exact hreq _ _ _ hw
        · exact hw
  | arbiter m =>
      simp only [Module.tick, Arbiter.tick]
      split
      · exact hw
      · split
        · split <;> exact hreq _ _ _ hw
        · exact hw
  | router => exact hw
  | trafficGen m =>
      simp only [Module.tick, TrafficGenerator.tick]
      split
      · simp only [TrafficGenerator.issueRequest]
        split
        · exact hw
        · exact iteInduction (motive := fun r : TrafficGenerator × (Heap × ρ) => J r.2.2)
            (fun _ => hreq _ _ _ hw) (fun _ => hreq _ _ _ hw)
      · exact hw

/-- A response is passed on in the next cycle. -/
theorem Module.handleDownstreamResponse_keeps
    (hsched : ∀ e r, J r → J (c.schedule e 1 r)) (m : Module) (p : PacketId)
    (srcId : Nat) (w : Heap × ρ) (hw : J w.2) :
    J (m.handleDownstreamResponse c p srcId w).2.2.2 := by
  cases m with
  | cpu m =>
      simp only [Module.handleDownstreamResponse, CPUSim.handleDownstreamResponse]
      split <;> exact hw
  | cache m => exact CacheSim.handleDownstreamResponse_keeps hsched m p srcId w hw
  | memory => exact hw
  | crossbar m => exact hw
  | arbiter m => exact hw
  | router => exact hw
  | trafficGen m => exact hw

/-- Nor does a `LambdaEvent`. -/
theorem Module.runDeferred_keeps (hreq : ∀ i p w, J w.2 → J (c.sendReq i p w).2.2)
    (hresp : ∀ j p w, J w.2 → J (c.sendResp j p w).2.2) (m : Module) (e : Deferred)
    (w : Heap × ρ) (hw : J w.2) : J (m.runDeferred c e w).2.2 := by
  cases e with
  | respond j p => exact hresp j p w hw
  | tryForward =>
      cases m with
      | cache m => exact CacheSim.tryForward_keeps hreq m w hw
      | cpu m => exact hw
      | memory => exact hw
      | crossbar m => exact hw
      | arbiter m => exact hw
      | router => exact hw
      | trafficGen m => exact hw

end Keeps

end Gem5Sc
