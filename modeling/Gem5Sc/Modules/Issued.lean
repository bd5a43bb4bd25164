/-
  File:      Gem5Sc/Modules/Issued.lean
  Subject:   WHAT HAS BEEN ISSUED, and what the code does to it.

  Between two new packets the code deletes packets, stamps them, sets the status of a payload, or
  makes a payload that no packet gets (`Heap.Touch`). None of this, and no new packet, changes a
  field of an issued packet other than its `dst_cycle` (`Heap.Keeps`).
-/
import Gem5Sc.Modules

namespace Gem5Sc

namespace Heap

/-- What the code does to packets that exist. -/
inductive Touch (h : Heap) : Heap → Prop where
  | delete (p : PacketId) : Touch h (h.delete p)
  | arrive (p : PacketId) (now : UInt64) : Touch h (h.setDstCycle p now)
  | ok (p : PacketId) : Touch h (h.setResponseOk p)
  | blank (t : Payload) : Touch h (h.newPayload t).2

/-- **Nothing that has been issued is rewritten**: of a packet only `dst_cycle`, of a payload only
    the response status; and what has been released, packet or payload, stays so. -/
structure Keeps (h h' : Heap) : Prop where
  nextPacket : h.nextPacket ≤ h'.nextPacket
  nextPayload : h.nextPayload ≤ h'.nextPayload
  packet : ∀ p < h.nextPacket, ∃ c, h'.packet p = { h.packet p with dstCycle := c }
  payload : ∀ q < h.nextPayload, ∃ s, h'.payload q = { h.payload q with responseStatus := s }
  released : h.released <:+ h'.released
  releasedPayloads : h.releasedPayloads <:+ h'.releasedPayloads

theorem Keeps.refl (h : Heap) : Keeps h h where
  nextPacket := Nat.le_refl _
  nextPayload := Nat.le_refl _
  packet _ _ := ⟨_, rfl⟩
  payload _ _ := ⟨_, rfl⟩
  released := List.suffix_rfl
  releasedPayloads := List.suffix_rfl

theorem Keeps.trans {h₁ h₂ h₃ : Heap} (h12 : Keeps h₁ h₂) (h23 : Keeps h₂ h₃) :
    Keeps h₁ h₃ where
  nextPacket := Nat.le_trans h12.nextPacket h23.nextPacket
  nextPayload := Nat.le_trans h12.nextPayload h23.nextPayload
  packet p hp := by
    obtain ⟨c, hc⟩ := h12.packet p hp
    obtain ⟨c', hc'⟩ := h23.packet p (Nat.lt_of_lt_of_le hp h12.nextPacket)
    exact ⟨c', by rw [hc', hc]⟩
  payload q hq := by
    obtain ⟨s, hs⟩ := h12.payload q hq
    obtain ⟨s', hs'⟩ := h23.payload q (Nat.lt_of_lt_of_le hq h12.nextPayload)
    exact ⟨s', by rw [hs', hs]⟩
  released := h12.released.trans h23.released
  releasedPayloads := h12.releasedPayloads.trans h23.releasedPayloads

/-- A field other than `dst_cycle` is the same for ever. -/
theorem Keeps.field {h h' : Heap} (he : Keeps h h') {α : Type} (field : Packet → α)
    (hfield : ∀ pkt c, field { pkt with dstCycle := c } = field pkt) {p : PacketId}
    (hp : p < h.nextPacket) : field (h'.packet p) = field (h.packet p) := by
  obtain ⟨c, hc⟩ := he.packet p hp
  rw [hc, hfield]

theorem Keeps.address {h h' : Heap} (he : Keeps h h') {p : PacketId} {q : PayloadId}
    (hp : p < h.nextPacket) (hq : (h.packet p).payload = some q) (hlt : q < h.nextPayload) :
    h'.address p = h.address p := by
  have hq' : (h'.packet p).payload = some q :=
    (he.field Packet.payload (fun _ _ => rfl) hp).trans hq
  obtain ⟨s, hs⟩ := he.payload q hlt
  simp only [Heap.address, hq, hq', hs]

theorem setStatus_keeps (h : Heap) (q : PayloadId) (st : TlmStatus) :
    Keeps h (h.setStatus q st) where
  nextPacket := Nat.le_refl _
  nextPayload := Nat.le_refl _
  packet _ _ := ⟨_, rfl⟩
  payload r _ := by
    by_cases hr : r = q
    · subst hr
      exact ⟨st, by simp [setStatus]⟩
    · exact ⟨(h.payload r).responseStatus, by simp [setStatus, hr]⟩
  released := List.suffix_rfl
  releasedPayloads := List.suffix_rfl

theorem Touch.keeps {h h' : Heap} (ht : Touch h h') : Keeps h h' := by
  cases ht with
  | delete p =>
      exact { Keeps.refl h with
        released := List.suffix_cons _ _
        releasedPayloads := List.suffix_append _ _ }
  | arrive p now =>
      refine { Keeps.refl h with packet := fun r _ => ?_ }
      by_cases hr : r = p
      · subst hr
        exact ⟨now, by simp [setDstCycle]⟩
      · exact ⟨(h.packet r).dstCycle, by simp [setDstCycle, hr]⟩
  | ok p =>
      unfold setResponseOk
      split
      · exact setStatus_keeps h _ _
      · exact Keeps.refl h
  | blank t =>
      refine { Keeps.refl h with nextPayload := Nat.le_succ _, payload := fun r hr => ?_ }
      exact ⟨(h.payload r).responseStatus, by simp [newPayload, Nat.ne_of_lt hr]⟩

theorem Touch.nextPacket {h h' : Heap} (ht : Touch h h') : h'.nextPacket = h.nextPacket := by
  cases ht with
  | ok p => exact setResponseOk_nextPacket h p
  | delete p => rfl
  | arrive p now => rfl
  | blank t => rfl

/-- Also of a packet that has not been issued. -/
theorem Touch.field {h h' : Heap} (ht : Touch h h') {α : Type} (field : Packet → α)
    (hfield : ∀ pkt c, field { pkt with dstCycle := c } = field pkt) (p : PacketId) :
    field (h'.packet p) = field (h.packet p) := by
  cases ht with
  | arrive r now => exact setDstCycle_field h r p now field hfield
  | ok r => rw [setResponseOk_packet]
  | delete r => rfl
  | blank t => rfl

theorem new_keeps (h : Heap) (x : Packet) : Keeps h (h.new x).2 where
  nextPacket := Nat.le_succ _
  nextPayload := Nat.le_refl _
  packet p hp := ⟨(h.packet p).dstCycle, by rw [new_packet_of_lt h x hp]⟩
  payload _ _ := ⟨_, rfl⟩
  released := List.suffix_rfl
  releasedPayloads := List.suffix_rfl

theorem newRequest_keeps (h : Heap) (t : Payload) (x : Packet) :
    Keeps h (h.newRequest t x).2 :=
  (Touch.blank (h := h) t).keeps.trans (new_keeps (h.newPayload t).2 _)

theorem newResp_keeps (h : Heap) (now : UInt64) (req : PacketId) (vcId : Int) :
    Keeps h (h.newResp now req vcId).2 :=
  new_keeps h _

/-- A response to the request has been made. -/
def Answered (h : Heap) (r : PacketId) : Prop :=
  ∃ q < h.nextPacket, (h.packet q).originalReq = some r

/-- An answer is never taken back. -/
theorem Answered.mono {h h' : Heap} {r : PacketId} (ha : h.Answered r) (he : Keeps h h') :
    h'.Answered r := by
  obtain ⟨q, hq, hr⟩ := ha
  exact ⟨q, Nat.lt_of_lt_of_le hq he.nextPacket,
    (he.field Packet.originalReq (fun _ _ => rfl) hq).trans hr⟩

end Heap

end Gem5Sc
