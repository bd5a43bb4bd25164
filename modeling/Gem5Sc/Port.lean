/-
  File:      Gem5Sc/Port.lean
  Subject:   The ports: `SimplePort`, `MasterPort`, `SlavePort`, and the two ports with virtual
             channels, `UpstreamPort` and `DownstreamPort`.

  A port talks to two parties it does not know: the port at the other end of its `PortPair` and
  its owner. Both are parameters here, as they are virtual calls in the source:

  * `Peer ρ` -- what `other->recv(pkt)` does to the heap and to a state `ρ` of the caller's
    choice; `none` is a null `pair`;
  * `Handler ρ` -- what `owner->handleUpstreamRequest(pkt, id, label)` does.

  So the same definitions serve a single link (`Link.lean`) and a whole system. The cycle of the
  owner's event queue is passed as `now`.
-/
import Gem5Sc.PortStats
import Gem5Sc.VirtualChannel

namespace Gem5Sc

/-- What the other end of the pair does with a packet; `none` for a null `pair`. -/
abbrev Peer (ρ : Type) := Option (PacketId → Heap × ρ → Bool × (Heap × ρ))

/-- What the owner does with a request: packet, port id and port label. -/
abbrev Handler (ρ : Type) := PacketId → Nat → String → Heap × ρ → Bool × (Heap × ρ)

variable {ρ : Type}

/-- `SimplePort::send`. -/
def SimplePort.send (peer : Peer ρ) (p : PacketId) (w : Heap × ρ) : Bool × (Heap × ρ) :=
  match peer with
  | some recv => recv p w
  | none => (false, w)

/-- The range check on `vc_id` of both ports. -/
def validVc (vcId : Int) (n : Nat) : Bool := 0 ≤ vcId && vcId < n

theorem validVc_iff {vcId : Int} {n : Nat} : validVc vcId n = true ↔ 0 ≤ vcId ∧ vcId < n := by
  simp [validVc]

theorem validVc_toNat {vcId : Int} {n : Nat} (h : validVc vcId n = true) : vcId.toNat < n := by
  obtain ⟨h0, h1⟩ := validVc_iff.mp h
  omega

theorem validVc_cast {vcId : Int} {n : Nat} (h : validVc vcId n = true) :
    (vcId.toNat : Int) = vcId :=
  Int.toNat_of_nonneg (validVc_iff.mp h).1

/-! ## 1. The master side -/

/-- `class MasterPort`. -/
structure MasterPort where
  name : String := ""
  stats : PortStats := {}
  delayCycles : Int := 0
  deriving Inhabited

namespace MasterPort

/-- `MasterPort::updateStats`, once `pkt->dst_cycle` has been set. -/
def updateStats (h : Heap) (p : PacketId) (s : PortStats) : PortStats :=
  let pkt := h.packet p
  if pkt.isResponse then
    let s := { s with respCount := s.respCount + 1, byteCount := s.byteCount + h.dataLength p }
    match pkt.originalReq with
    | some r => s.addDelay (pkt.dstCycle - (h.packet r).srcCycle)
    | none => s
  else if pkt.isCredit then
    { s with creditReceived := s.creditReceived + 1,
             creditValue := s.creditValue + UInt64.ofInt pkt.credits }
  else s

/-- The counters `MasterPort::send` raises before it sends. -/
def countSend (h : Heap) (p : PacketId) (s : PortStats) : PortStats :=
  let pkt := h.packet p
  if pkt.isRequest then
    { s with reqCount := s.reqCount + 1, byteCount := s.byteCount + h.dataLength p }
  else if pkt.isCredit then { s with creditSent := s.creditSent + 1 }
  else s

/-- `MasterPort::send`; `MasterPort::sendReq` is the same call. -/
def send (peer : Peer ρ) (m : MasterPort) (p : PacketId) (w : Heap × ρ) :
    Bool × MasterPort × (Heap × ρ) :=
  let r := SimplePort.send peer p w
  (r.1, { m with stats := countSend w.1 p m.stats }, r.2)

/-- `MasterPort::recv`, with `recvResp` the owner's handler. -/
def recv (handle : Handler ρ) (now : UInt64) (m : MasterPort) (id : Nat) (label : String)
    (p : PacketId) (w : Heap × ρ) : Bool × MasterPort × (Heap × ρ) :=
  let h := w.1.setDstCycle p now
  let r := handle p id label (h, w.2)
  (r.1, { m with stats := updateStats h p m.stats }, r.2)

end MasterPort

/-- `struct DownstreamPort`. -/
structure DownstreamPort extends MasterPort where
  id : Nat := 0
  label : String := ""
  outputVcs : List OutputVC := []
  deriving Inhabited

namespace DownstreamPort

/-- The constructor of `DownstreamPort`. -/
def create (id : Nat) (outSizes priorities : List Nat) (label : String) : DownstreamPort where
  name := if label.isEmpty then s!"downstream[{id}]" else label
  id := id
  label := label
  outputVcs := outSizes.mapIdx fun vid cap =>
    { id := vid, capacity := cap, priority := priorities.getD vid vid }

/-- `output_vcs[i]`. -/
def vc (d : DownstreamPort) (i : Nat) : OutputVC := d.outputVcs.getD i default

/-- `output_vcs[i] = x`. -/
def setVc (d : DownstreamPort) (i : Nat) (x : OutputVC) : DownstreamPort :=
  { d with outputVcs := d.outputVcs.set i x }

@[simp] theorem setVc_length (d : DownstreamPort) (i : Nat) (x : OutputVC) :
    (d.setVc i x).outputVcs.length = d.outputVcs.length := by
  simp [setVc]

theorem setVc_vc_self {d : DownstreamPort} {i : Nat} (hi : i < d.outputVcs.length) (x : OutputVC) :
    (d.setVc i x).vc i = x := by
  simp [setVc, vc, hi]

theorem setVc_vc_ne (d : DownstreamPort) {i j : Nat} (hij : i ≠ j) (x : OutputVC) :
    (d.setVc i x).vc j = d.vc j := by
  simp [setVc, vc, hij]

/-- Replacing a channel by one with the same buffer changes no buffer. -/
theorem setVc_buffer (d : DownstreamPort) {i : Nat} {x : OutputVC}
    (hx : x.buffer = (d.vc i).buffer) (j : Nat) :
    ((d.setVc i x).vc j).buffer = (d.vc j).buffer :=
  apply_getD_set OutputVC.buffer hx j

theorem vc_of_length_le {d : DownstreamPort} {i : Nat} (hi : d.outputVcs.length ≤ i) :
    d.vc i = default := by
  simp [vc, hi]

@[simp] theorem create_length (id : Nat) (outSizes priorities : List Nat) (label : String) :
    (create id outSizes priorities label).outputVcs.length = outSizes.length := by
  simp [create]

@[simp] theorem create_buffer (id : Nat) (outSizes priorities : List Nat) (label : String)
    (i : Nat) : ((create id outSizes priorities label).vc i).buffer = [] := by
  by_cases hi : i < outSizes.length
  · simp [create, vc, hi]
  · rw [vc_of_length_le (by simpa using hi)]
    rfl

/-- The tail of both queueing branches of `sendReq`: enqueue, or count a drop and delete. -/
def enqueueOrDrop (d : DownstreamPort) (i : Nat) (p : PacketId) (w : Heap × ρ) :
    Bool × DownstreamPort × (Heap × ρ) :=
  let r := (d.vc i).enqueue p
  if r.1 then (true, d.setVc i r.2, w)
  else (false, d.setVc i (d.vc i).countDropped, (w.1.delete p, w.2))

/-- `DownstreamPort::sendReq`. -/
def sendReq (peer : Peer ρ) (d : DownstreamPort) (p : PacketId) (w : Heap × ρ) :
    Bool × DownstreamPort × (Heap × ρ) :=
  let vcId := (w.1.packet p).vcId
  if validVc vcId d.outputVcs.length then
    let i := vcId.toNat
    if (d.vc i).buffer.isEmpty then
      let r := d.toMasterPort.send peer p w
      let d := { d with toMasterPort := r.2.1 }
      if r.1 then (true, d, r.2.2)
      else d.enqueueOrDrop i p r.2.2
    else d.enqueueOrDrop i p w
  else (false, d, (w.1.delete p, w.2))

/-- `OutputVC::trySend` on channel `i` of the port itself: the virtual `port->sendReq` is the
    `sendReq` above, which looks at and enqueues into this very channel. -/
def trySend (peer : Peer ρ) (d : DownstreamPort) (i : Nat) (w : Heap × ρ) :
    Bool × DownstreamPort × (Heap × ρ) :=
  match (d.vc i).buffer with
  | [] => (true, d, w)
  | p :: _ =>
      let r := d.sendReq peer p w
      if r.1 then
        (true, r.2.1.setVc i (r.2.1.vc i).popForwarded, (r.2.2.1.delete p, r.2.2.2))
      else r

/-- `DownstreamPort::tick`. -/
def tick (peer : Peer ρ) (d : DownstreamPort) (w : Heap × ρ) : DownstreamPort × (Heap × ρ) :=
  (List.range d.outputVcs.length).foldl (fun s i => (s.1.trySend peer i s.2).2) (d, w)

/-- What the peer keeps of the caller's state, `sendReq` keeps. -/
theorem sendReq_keeps {J : ρ → Prop} {peer : Peer ρ}
    (hpeer : ∀ recv, peer = some recv → ∀ p w, J w.2 → J (recv p w).2.2) (d : DownstreamPort)
    (p : PacketId) (w : Heap × ρ) (hw : J w.2) : J (d.sendReq peer p w).2.2.2 := by
  have hqueue : ∀ (d : DownstreamPort) i (w : Heap × ρ), J w.2 →
      J (d.enqueueOrDrop i p w).2.2.2 := by
    intro d i w hw
    simp only [enqueueOrDrop]
    split <;> exact hw
  have hsend : J (SimplePort.send peer p w).2.2 := by
    unfold SimplePort.send
    cases peer with
    | none => exact hw
    | some recv => exact hpeer recv rfl p w hw
  simp only [sendReq]
  split
  · split
    · split
      · exact hsend
      · exact hqueue _ _ _ hsend
    · exact hqueue _ _ _ hw
  · exact hw

/-- And so does `tick`, a `sendReq` per channel at most. -/
theorem tick_keeps {J : ρ → Prop} {peer : Peer ρ}
    (hpeer : ∀ recv, peer = some recv → ∀ p w, J w.2 → J (recv p w).2.2) (d : DownstreamPort)
    (w : Heap × ρ) (hw : J w.2) : J (d.tick peer w).2.2 := by
  have htry : ∀ (d : DownstreamPort) (i : Nat) (w : Heap × ρ), J w.2 →
      J (d.trySend peer i w).2.2.2 := by
    intro d i w hw
    unfold trySend
    split
    · exact hw
    · dsimp only
      split <;> exact sendReq_keeps hpeer _ _ _ hw
  have hloop : ∀ (is : List Nat) (s : DownstreamPort × (Heap × ρ)), J s.2.2 →
      J (is.foldl (fun s i => (s.1.trySend peer i s.2).2) s).2.2 := by
    intro is
    induction is with
    | nil => exact fun _ hs => hs
    | cons i is ih => exact fun s hs => ih _ (htry s.1 i s.2 hs)
  exact hloop _ (d, w) hw

/-! ### One lemma per way a `sendReq` can go -/

section Spec

variable {peer : Peer ρ} {d : DownstreamPort} {p : PacketId} {w : Heap × ρ}

theorem enqueueOrDrop_of_full {i : Nat} (hf : (d.vc i).full = true) :
    d.enqueueOrDrop i p w =
      (false, d.setVc i (d.vc i).countDropped, (w.1.delete p, w.2)) := by
  simp [enqueueOrDrop, OutputVC.enqueue_of_full hf]

theorem enqueueOrDrop_of_not_full {i : Nat} (hf : (d.vc i).full = false) :
    d.enqueueOrDrop i p w =
      (true, d.setVc i ((d.vc i).push p), w) := by
  simp [enqueueOrDrop, OutputVC.enqueue_of_not_full hf]

/-- The port once `MasterPort::send` has counted the packet. -/
def counted (d : DownstreamPort) (p : PacketId) (h : Heap) : DownstreamPort :=
  { d with stats := MasterPort.countSend h p d.stats }

theorem sendReq_invalid (hv : validVc (w.1.packet p).vcId d.outputVcs.length = false) :
    d.sendReq peer p w = (false, d, (w.1.delete p, w.2)) := by
  simp [sendReq, hv]

/-- A packet for a non-empty channel goes to the end of the queue, or is dropped. -/
theorem sendReq_queued (hv : validVc (w.1.packet p).vcId d.outputVcs.length = true)
    (hb : (d.vc (w.1.packet p).vcId.toNat).buffer ≠ []) :
    d.sendReq peer p w = d.enqueueOrDrop (w.1.packet p).vcId.toNat p w := by
  have he : (d.vc (w.1.packet p).vcId.toNat).buffer.isEmpty = false := by
    simpa using hb
  simp [sendReq, hv, he]

/-- A packet for an empty channel is offered to the peer; a refused one is queued or dropped. -/
theorem sendReq_direct (hv : validVc (w.1.packet p).vcId d.outputVcs.length = true)
    (hb : (d.vc (w.1.packet p).vcId.toNat).buffer = []) :
    d.sendReq peer p w =
      if (SimplePort.send peer p w).1 then
        (true, d.counted p w.1, (SimplePort.send peer p w).2)
      else (d.counted p w.1).enqueueOrDrop (w.1.packet p).vcId.toNat p
        (SimplePort.send peer p w).2 := by
  simp only [sendReq, hv, hb, if_true, List.isEmpty_nil]
  rfl

theorem trySend_nil {i : Nat} (hb : (d.vc i).buffer = []) :
    d.trySend peer i w = (true, d, w) := by
  simp [trySend, hb]

/-- **`trySend` never leaves the port.** The head of a non-empty channel is sent to the channel
    it stands in: a full channel counts a drop and keeps the packet, a channel with room takes
    it a second time and loses the first copy. In both cases the packet has been deleted. -/
theorem trySend_cons {i : Nat} {rest : List PacketId} (hi : i < d.outputVcs.length)
    (hb : (d.vc i).buffer = p :: rest) (hv : (w.1.packet p).vcId = i) :
    d.trySend peer i w =
      if (d.vc i).full then
        (false, d.setVc i (d.vc i).countDropped, (w.1.delete p, w.2))
      else (true, d.setVc i ((d.vc i).push p).popForwarded, (w.1.delete p, w.2)) := by
  have hvalid : validVc (w.1.packet p).vcId d.outputVcs.length = true := by
    rw [hv]
    exact validVc_iff.mpr ⟨by omega, by omega⟩
  have hnat : (w.1.packet p).vcId.toNat = i := by rw [hv]; rfl
  have hsend : d.sendReq peer p w = d.enqueueOrDrop i p w := by
    have hne : (d.vc (w.1.packet p).vcId.toNat).buffer ≠ [] := by rw [hnat, hb]; simp
    rw [sendReq_queued hvalid hne, hnat]
  have hset : ∀ x y, (d.setVc i x).setVc i y = d.setVc i y := by
    intro x y
    simp [setVc]
  cases hf : (d.vc i).full with
  | true => simp [trySend, hb, hsend, enqueueOrDrop_of_full hf]
  | false => simp [trySend, hb, hsend, enqueueOrDrop_of_not_full hf, setVc_vc_self hi, hset]

end Spec

end DownstreamPort

/-! ## 2. The slave side -/

/-- `class SlavePort`. -/
structure SlavePort where
  name : String := ""
  stats : PortStats := {}
  delayCycles : Int := 0
  deriving Inhabited

namespace SlavePort

/-- `SlavePort::updateStats`, once `pkt->dst_cycle` has been set. -/
def updateStats (h : Heap) (p : PacketId) (s : PortStats) : PortStats :=
  let pkt := h.packet p
  let s := if pkt.originalReq.isSome && !pkt.isCredit then s.addDelay pkt.getDelayCycles else s
  if pkt.isRequest then
    { s with reqCount := s.reqCount + 1, byteCount := s.byteCount + h.dataLength p }
  else if pkt.isStream then { s with reqCount := s.reqCount + 1 }
  else s

/-- `SlavePort::sendResp`. -/
def sendResp (peer : Peer ρ) (s : SlavePort) (p : PacketId) (w : Heap × ρ) :
    Bool × SlavePort × (Heap × ρ) :=
  let r := SimplePort.send peer p w
  (r.1, { s with stats := { s.stats with respCount := s.stats.respCount + 1,
                                         byteCount := s.stats.byteCount + w.1.dataLength p } },
    r.2)

end SlavePort

/-- `struct UpstreamPort`. -/
structure UpstreamPort extends SlavePort where
  id : Nat := 0
  label : String := ""
  inputVcs : List InputVC := []
  deriving Inhabited

namespace UpstreamPort

/-- The constructor of `UpstreamPort`. -/
def create (id : Nat) (inSizes priorities : List Nat) (label : String) : UpstreamPort where
  name := if label.isEmpty then s!"upstream[{id}]" else label
  id := id
  label := label
  inputVcs := inSizes.mapIdx fun vid cap =>
    { id := vid, capacity := cap, priority := priorities.getD vid vid }

/-- `input_vcs[i]`. -/
def vc (u : UpstreamPort) (i : Nat) : InputVC := u.inputVcs.getD i default

/-- `input_vcs[i] = x`. -/
def setVc (u : UpstreamPort) (i : Nat) (x : InputVC) : UpstreamPort :=
  { u with inputVcs := u.inputVcs.set i x }

@[simp] theorem setVc_length (u : UpstreamPort) (i : Nat) (x : InputVC) :
    (u.setVc i x).inputVcs.length = u.inputVcs.length := by
  simp [setVc]

theorem setVc_vc_self {u : UpstreamPort} {i : Nat} (hi : i < u.inputVcs.length) (x : InputVC) :
    (u.setVc i x).vc i = x := by
  simp [setVc, vc, hi]

theorem setVc_vc_ne (u : UpstreamPort) {i j : Nat} (hij : i ≠ j) (x : InputVC) :
    (u.setVc i x).vc j = u.vc j := by
  simp [setVc, vc, hij]

theorem vc_of_length_le {u : UpstreamPort} {i : Nat} (hi : u.inputVcs.length ≤ i) :
    u.vc i = default := by
  simp [vc, hi]

@[simp] theorem create_length (id : Nat) (inSizes priorities : List Nat) (label : String) :
    (create id inSizes priorities label).inputVcs.length = inSizes.length := by
  simp [create]

@[simp] theorem create_buffer (id : Nat) (inSizes priorities : List Nat) (label : String)
    (i : Nat) : ((create id inSizes priorities label).vc i).buffer = [] := by
  by_cases hi : i < inSizes.length
  · simp [create, vc, hi]
  · rw [vc_of_length_le (by simpa using hi)]
    rfl

/-- `UpstreamPort::recvReq`. -/
def recvReq (now : UInt64) (u : UpstreamPort) (p : PacketId) (h : Heap) :
    Bool × UpstreamPort × Heap :=
  let vcId := (h.packet p).vcId
  if validVc vcId u.inputVcs.length then
    let i := vcId.toNat
    let h := h.setDstCycle p now
    let r := (u.vc i).enqueue p
    if r.1 then (true, u.setVc i r.2, h)
    else (false, u.setVc i (u.vc i).countDropped, h.delete p)
  else (false, u, h.delete p)

/-- The port once `SlavePort::recv` has set `pkt->dst_cycle` and counted the packet. -/
def received (now : UInt64) (u : UpstreamPort) (p : PacketId) (h : Heap) : UpstreamPort :=
  { u with stats := SlavePort.updateStats (h.setDstCycle p now) p u.stats }

/-- `SlavePort::recv` of an `UpstreamPort`. -/
def recv (now : UInt64) (u : UpstreamPort) (p : PacketId) (h : Heap) :
    Bool × UpstreamPort × Heap :=
  (u.received now p h).recvReq now p (h.setDstCycle p now)

/-! ### One lemma per way a `recv` can go -/

@[simp] theorem received_vc (now : UInt64) (u : UpstreamPort) (p : PacketId) (h : Heap) (i : Nat) :
    (u.received now p h).vc i = u.vc i := rfl

/-- `recvReq` takes a packet for channel `vcId`. -/
def accepts (u : UpstreamPort) (vcId : Int) : Bool :=
  validVc vcId u.inputVcs.length && !(u.vc vcId.toNat).full

/-- Two ports with the same channels and capacities. -/
structure SameShape (u u' : UpstreamPort) : Prop where
  length : u'.inputVcs.length = u.inputVcs.length
  capacity : ∀ j, (u'.vc j).capacity = (u.vc j).capacity

theorem SameShape.trans {u₁ u₂ u₃ : UpstreamPort} (h12 : SameShape u₁ u₂)
    (h23 : SameShape u₂ u₃) : SameShape u₁ u₃ :=
  ⟨h23.length.trans h12.length, fun j => (h23.capacity j).trans (h12.capacity j)⟩

theorem sameShape_received (now : UInt64) (u : UpstreamPort) (p : PacketId) (h : Heap) :
    SameShape u (u.received now p h) := ⟨rfl, fun _ => rfl⟩

theorem sameShape_setVc (u : UpstreamPort) {i : Nat} {x : InputVC}
    (hx : x.capacity = (u.vc i).capacity) : SameShape u (u.setVc i x) :=
  ⟨setVc_length u i x, apply_getD_set InputVC.capacity hx⟩

/-- Replacing a channel by one with the same buffer changes no buffer. -/
theorem setVc_buffer (u : UpstreamPort) {i : Nat} {x : InputVC}
    (hx : x.buffer = (u.vc i).buffer) (j : Nat) :
    ((u.setVc i x).vc j).buffer = (u.vc j).buffer :=
  apply_getD_set InputVC.buffer hx j

section Spec

variable (now : UInt64) {u : UpstreamPort} {p : PacketId} {h : Heap}

theorem recvReq_invalid (hv : validVc (h.packet p).vcId u.inputVcs.length = false) :
    u.recvReq now p h = (false, u, h.delete p) := by
  simp [recvReq, hv]

theorem recvReq_full (hv : validVc (h.packet p).vcId u.inputVcs.length = true)
    (hf : (u.vc (h.packet p).vcId.toNat).full = true) :
    u.recvReq now p h =
      (false, u.setVc (h.packet p).vcId.toNat (u.vc (h.packet p).vcId.toNat).countDropped,
        (h.setDstCycle p now).delete p) := by
  simp [recvReq, hv, InputVC.enqueue_of_full hf]

theorem recvReq_enqueued (hv : validVc (h.packet p).vcId u.inputVcs.length = true)
    (hf : (u.vc (h.packet p).vcId.toNat).full = false) :
    u.recvReq now p h =
      (true, u.setVc (h.packet p).vcId.toNat ((u.vc (h.packet p).vcId.toNat).push p),
        h.setDstCycle p now) := by
  simp [recvReq, hv, InputVC.enqueue_of_not_full hf]

/-- `recv` leaves the current cycle in `dst_cycle`, whatever becomes of the packet. -/
theorem recv_dstCycle : ((u.recv now p h).2.2.packet p).dstCycle = now := by
  unfold recv recvReq
  dsimp only
  split
  · split <;> simp
  · simp

theorem recv_invalid (hv : validVc (h.packet p).vcId u.inputVcs.length = false) :
    u.recv now p h = (false, u.received now p h, (h.setDstCycle p now).delete p) := by
  have hv' : validVc ((h.setDstCycle p now).packet p).vcId
      (u.received now p h).inputVcs.length = false := by
    rw [h.setDstCycle_vcId]
    exact hv
  exact recvReq_invalid now hv'

theorem recv_full (hv : validVc (h.packet p).vcId u.inputVcs.length = true)
    (hf : (u.vc (h.packet p).vcId.toNat).full = true) :
    u.recv now p h = (false, (u.received now p h).setVc (h.packet p).vcId.toNat
      (u.vc (h.packet p).vcId.toNat).countDropped,
        ((h.setDstCycle p now).setDstCycle p now).delete p) := by
  have hvc : ((h.setDstCycle p now).packet p).vcId = (h.packet p).vcId :=
    h.setDstCycle_vcId p p now
  rw [← hvc] at hv hf ⊢
  exact recvReq_full (u := u.received now p h) now hv hf

theorem recv_enqueued (hv : validVc (h.packet p).vcId u.inputVcs.length = true)
    (hf : (u.vc (h.packet p).vcId.toNat).full = false) :
    u.recv now p h = (true, (u.received now p h).setVc (h.packet p).vcId.toNat
      ((u.vc (h.packet p).vcId.toNat).push p), (h.setDstCycle p now).setDstCycle p now) := by
  have hvc : ((h.setDstCycle p now).packet p).vcId = (h.packet p).vcId :=
    h.setDstCycle_vcId p p now
  rw [← hvc] at hv hf ⊢
  exact recvReq_enqueued (u := u.received now p h) now hv hf

/-- **A refused packet**: the buffers stay as they are and the packet has been deleted. -/
theorem recv_refused (hr : u.accepts (h.packet p).vcId = false) :
    (u.recv now p h).1 = false ∧ SameShape u (u.recv now p h).2.1 ∧
      (∀ j, ((u.recv now p h).2.1.vc j).buffer = (u.vc j).buffer) ∧
      (u.recv now p h).2.2.released = p :: h.released ∧
      Heap.SameVc h (u.recv now p h).2.2 := by
  have hu := sameShape_received now u p h
  have hs1 := h.sameVc_setDstCycle p now
  cases hv : validVc (h.packet p).vcId u.inputVcs.length with
  | false =>
      rw [recv_invalid now hv]
      exact ⟨rfl, hu, fun _ => rfl, rfl, hs1.trans (Heap.sameVc_delete _ p)⟩
  | true =>
      have hf : (u.vc (h.packet p).vcId.toNat).full = true := by simpa [accepts, hv] using hr
      have hs2 := (h.setDstCycle p now).sameVc_setDstCycle p now
      rw [recv_full now hv hf]
      exact ⟨rfl, hu.trans (sameShape_setVc _ rfl), setVc_buffer (u.received now p h) rfl,
        rfl, (hs1.trans hs2).trans (Heap.sameVc_delete _ p)⟩

/-- **An accepted packet** goes to the end of its channel; nothing is deleted. -/
theorem recv_accepted (hr : u.accepts (h.packet p).vcId = true) :
    (u.recv now p h).1 = true ∧ SameShape u (u.recv now p h).2.1 ∧
      (∀ j, ((u.recv now p h).2.1.vc j).buffer =
        if (h.packet p).vcId.toNat = j then (u.vc j).buffer ++ [p] else (u.vc j).buffer) ∧
      (u.recv now p h).2.2.released = h.released ∧
      Heap.SameVc h (u.recv now p h).2.2 := by
  have hu := sameShape_received now u p h
  have hs1 := h.sameVc_setDstCycle p now
  have hs2 := (h.setDstCycle p now).sameVc_setDstCycle p now
  obtain ⟨hv, hf⟩ : validVc (h.packet p).vcId u.inputVcs.length = true ∧
      (u.vc (h.packet p).vcId.toNat).full = false := by
    simpa [accepts] using hr
  rw [recv_enqueued now hv hf]
  refine ⟨rfl, hu.trans (sameShape_setVc _ rfl), fun j => ?_, rfl, hs1.trans hs2⟩
  by_cases hj : (h.packet p).vcId.toNat = j
  · subst hj
    have hlt : (h.packet p).vcId.toNat < (u.received now p h).inputVcs.length := validVc_toNat hv
    simp only [if_true, setVc_vc_self hlt, InputVC.push_buffer]
  · simp only [if_neg hj, setVc_vc_ne _ hj, received_vc]

end Spec

/-- One round of the loop of `UpstreamPort::tick`, for channel `i`. -/
def tickVc (handle : Handler ρ) (s : UpstreamPort × (Heap × ρ)) (i : Nat) :
    UpstreamPort × (Heap × ρ) :=
  match (s.1.vc i).buffer with
  | [] => s
  | p :: _ =>
      let r := handle p s.1.id s.1.label s.2
      if r.1 then (s.1.setVc i (s.1.vc i).pop, r.2) else (s.1, r.2)

/-- `UpstreamPort::tick`. -/
def tick (handle : Handler ρ) (u : UpstreamPort) (w : Heap × ρ) : UpstreamPort × (Heap × ρ) :=
  (List.range u.inputVcs.length).foldl (tickVc handle) (u, w)

end UpstreamPort

end Gem5Sc
