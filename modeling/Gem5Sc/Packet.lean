/-
  File:      Gem5Sc/Packet.lean
  Subject:   Packets, their payloads, and the store they live in.

  A `Packet*` is a `PacketId`, a `tlm_generic_payload*` a `PayloadId`; the `Heap` says what the
  pointers point to. `new` never hands out an identity twice, and `delete` does not remove the
  object: it records the identity in `released` (once for every `delete`, so that a second
  release of the same object shows as a second entry). A released packet keeps the field values
  it had, which is what a read through a dangling pointer sees as long as the memory is not
  reused.
-/
import Mathlib.Data.List.Basic
import Mathlib.Logic.Function.Basic

namespace Gem5Sc

/-- `enum PacketType`. -/
inductive PacketType where
  | reqRead | reqWrite | resp | streamData | creditReturn
  deriving DecidableEq, Repr

abbrev PacketId := Nat
abbrev PayloadId := Nat

/-- The TLM commands the modules use. -/
inductive TlmCommand where
  | read | write
  deriving DecidableEq, Repr

/-- The TLM response statuses the modules use. -/
inductive TlmStatus where
  | incomplete | ok
  deriving DecidableEq, Repr

/-- `tlm::tlm_generic_payload`, the attributes the modules set or read. -/
structure Payload where
  command : TlmCommand := .read
  address : UInt64 := 0
  dataLength : UInt32 := 0
  responseStatus : TlmStatus := .incomplete
  deriving DecidableEq, Repr, Inhabited

/-- `class Packet`, without the members no function reads. -/
structure Packet where
  payload : Option PayloadId := none
  srcCycle : UInt64 := 0
  dstCycle : UInt64 := 0
  type : PacketType := .reqRead
  originalReq : Option PacketId := none
  streamId : UInt64 := 0
  seqNum : UInt64 := 0
  credits : Int := 0
  vcId : Int := 0
  deriving DecidableEq, Repr, Inhabited

namespace Packet

def isRequest (p : Packet) : Bool := p.type == .reqRead || p.type == .reqWrite
def isResponse (p : Packet) : Bool := p.type == .resp
def isStream (p : Packet) : Bool := p.type == .streamData
def isCredit (p : Packet) : Bool := p.type == .creditReturn

/-- `getDelayCycles`: zero rather than a wrapped difference. -/
def getDelayCycles (p : Packet) : UInt64 :=
  if p.dstCycle > p.srcCycle then p.dstCycle - p.srcCycle else 0

end Packet

/-- The store behind the pointers. -/
structure Heap where
  packet : PacketId → Packet := fun _ => {}
  payload : PayloadId → Payload := fun _ => {}
  nextPacket : Nat := 0
  nextPayload : Nat := 0
  /-- One entry per `delete` of a packet, newest first. -/
  released : List PacketId := []
  /-- One entry per release of a payload, newest first. -/
  releasedPayloads : List PayloadId := []
  deriving Inhabited

namespace Heap

/-- `new Packet(..)`, with the fields set before the packet is handed on. -/
def new (h : Heap) (p : Packet) : PacketId × Heap :=
  (h.nextPacket,
    { h with packet := Function.update h.packet h.nextPacket p, nextPacket := h.nextPacket + 1 })

/-- `new tlm_generic_payload()`, with the attributes set before it is handed on. -/
def newPayload (h : Heap) (t : Payload) : PayloadId × Heap :=
  (h.nextPayload,
    { h with payload := Function.update h.payload h.nextPayload t,
             nextPayload := h.nextPayload + 1 })

/-- What `Packet::~Packet` releases besides the packet itself. -/
def payloadOf (h : Heap) (p : PacketId) : Option PayloadId :=
  if (h.packet p).isCredit then none else (h.packet p).payload

/-- `delete pkt`: the packet and, unless it is a credit, its payload. -/
def delete (h : Heap) (p : PacketId) : Heap :=
  { h with released := p :: h.released,
           releasedPayloads := (h.payloadOf p).toList ++ h.releasedPayloads }

/-- `pkt->dst_cycle = now`. -/
def setDstCycle (h : Heap) (p : PacketId) (now : UInt64) : Heap :=
  { h with packet := Function.update h.packet p { h.packet p with dstCycle := now } }

/-- `payload->set_response_status(st)`. -/
def setStatus (h : Heap) (q : PayloadId) (st : TlmStatus) : Heap :=
  { h with payload := Function.update h.payload q { h.payload q with responseStatus := st } }

/-- `pkt->payload ? pkt->payload->get_data_length() : 0`. -/
def dataLength (h : Heap) (p : PacketId) : UInt64 :=
  match (h.packet p).payload with
  | some q => (h.payload q).dataLength.toUInt64
  | none => 0

/-- `pkt->payload->get_address()`. -/
def address (h : Heap) (p : PacketId) : UInt64 :=
  match (h.packet p).payload with
  | some q => (h.payload q).address
  | none => 0

/-- `getEnd2EndCycles`: the difference is not guarded. -/
def getEnd2EndCycles (h : Heap) (p : PacketId) : UInt64 :=
  match (h.packet p).originalReq with
  | some r => (h.packet p).dstCycle - (h.packet r).srcCycle
  | none => (h.packet p).getDelayCycles

/-! ## What each operation leaves alone -/

section Frame

variable (h : Heap) (p r : PacketId) (now : UInt64)

@[simp] theorem delete_packet : (h.delete p).packet = h.packet := rfl
@[simp] theorem delete_nextPacket : (h.delete p).nextPacket = h.nextPacket := rfl
@[simp] theorem delete_released : (h.delete p).released = p :: h.released := rfl

/-- Every other field of every packet stays. -/
theorem setDstCycle_field {α : Type} (field : Packet → α)
    (hfield : ∀ pkt c, field { pkt with dstCycle := c } = field pkt) :
    field ((h.setDstCycle p now).packet r) = field (h.packet r) := by
  unfold setDstCycle
  by_cases hr : r = p
  · subst hr
    simp [hfield]
  · simp [hr]

@[simp] theorem setDstCycle_vcId : ((h.setDstCycle p now).packet r).vcId = (h.packet r).vcId :=
  setDstCycle_field h p r now Packet.vcId fun _ _ => rfl

@[simp] theorem setDstCycle_dstCycle : ((h.setDstCycle p now).packet p).dstCycle = now := by
  simp [setDstCycle]

@[simp] theorem new_fst (x : Packet) : (h.new x).1 = h.nextPacket := rfl

@[simp] theorem new_nextPacket (x : Packet) : (h.new x).2.nextPacket = h.nextPacket + 1 := rfl

@[simp] theorem new_packet_self (x : Packet) : (h.new x).2.packet h.nextPacket = x := by
  simp [new]

theorem new_packet_of_lt (x : Packet) {r : PacketId} (hr : r < h.nextPacket) :
    (h.new x).2.packet r = h.packet r := by
  simp [new, Nat.ne_of_lt hr]

end Frame

/-- Two heaps that agree on which identities have been issued and on every packet's channel:
    what the ports, which never write `vc_id`, leave alone. -/
structure SameVc (h h' : Heap) : Prop where
  next : h'.nextPacket = h.nextPacket
  vcId : ∀ r, (h'.packet r).vcId = (h.packet r).vcId

theorem SameVc.refl (h : Heap) : SameVc h h := ⟨rfl, fun _ => rfl⟩

theorem SameVc.trans {h₁ h₂ h₃ : Heap} (h12 : SameVc h₁ h₂) (h23 : SameVc h₂ h₃) : SameVc h₁ h₃ :=
  ⟨h23.next.trans h12.next, fun r => (h23.vcId r).trans (h12.vcId r)⟩

theorem sameVc_delete (h : Heap) (p : PacketId) : SameVc h (h.delete p) := ⟨rfl, fun _ => rfl⟩

theorem sameVc_setDstCycle (h : Heap) (p : PacketId) (now : UInt64) :
    SameVc h (h.setDstCycle p now) := ⟨rfl, fun r => setDstCycle_vcId h p r now⟩

end Heap

end Gem5Sc
