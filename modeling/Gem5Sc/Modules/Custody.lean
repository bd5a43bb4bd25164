/-
  File:      Gem5Sc/Modules/Custody.lean
  Subject:   WHO HAS A PACKET: a list of packets that are alive, each in one place.

  `Heap.Owns h l` says of the packets of `l` and of the released ones together that each occurs
  once and has been issued. So a packet of `l` has not been released, and deleting it is its first
  release. The lists of queues, pending events and so on are put together with `++`, and a step
  that moves packets between them or loses some is one comparison of counts (`Owns.mono`).
-/
import Gem5Sc.Modules
import Mathlib.Data.List.Nodup

namespace Gem5Sc

namespace Heap

/-- The packets of `l` are alive, and each is there once. -/
structure Owns (h : Heap) (l : List PacketId) : Prop where
  once : ∀ p, l.count p + h.released.count p ≤ 1
  issued : ∀ p, h.nextPacket ≤ p → l.count p + h.released.count p = 0

namespace Owns

variable {h : Heap} {l : List PacketId}

theorem alive (ho : Owns h l) {p : PacketId} (hp : p ∈ l) : p ∉ h.released := by
  have h1 := List.one_le_count_iff.mpr hp
  have h2 := ho.once p
  exact List.count_eq_zero.mp (by omega)

theorem lt (ho : Owns h l) {p : PacketId} (hp : p ∈ l) : p < h.nextPacket := by
  by_contra hlt
  have h1 := List.one_le_count_iff.mpr hp
  have h2 := ho.issued p (Nat.le_of_not_lt hlt)
  omega

theorem released_nodup (ho : Owns h l) : h.released.Nodup :=
  List.nodup_iff_count_le_one.mpr fun p => Nat.le_trans (Nat.le_add_left _ _) (ho.once p)

/-- Packets that change their place, or are lost. -/
theorem mono (ho : Owns h l) {l' : List PacketId} (hle : ∀ p, l'.count p ≤ l.count p) :
    Owns h l' := by
  refine ⟨fun p => ?_, fun p hp => ?_⟩
  · have h1 := ho.once p
    have h2 := hle p
    omega
  · have h1 := ho.issued p hp
    have h2 := hle p
    omega

/-- Packets that are lost. -/
theorem sublist (ho : Owns h l) {l' : List PacketId} (hs : l'.Sublist l) : Owns h l' :=
  ho.mono fun p => hs.count_le p

/-- A heap that has issued and released the same. -/
theorem congr (ho : Owns h l) {h' : Heap} (hn : h'.nextPacket = h.nextPacket)
    (hr : h'.released = h.released) : Owns h' l := by
  refine ⟨fun p => ?_, fun p hp => ?_⟩
  · rw [hr]
    exact ho.once p
  · rw [hr]
    exact ho.issued p (hn ▸ hp)

theorem new (ho : Owns h l) (x : Packet) : Owns (h.new x).2 (h.nextPacket :: l) := by
  refine ⟨fun p => ?_, fun p hp => ?_⟩
  · show (h.nextPacket :: l).count p + h.released.count p ≤ 1
    have h1 := ho.once p
    have h2 := ho.issued p
    rw [List.count_cons]
    by_cases hp : h.nextPacket = p
    · have h3 := h2 (Nat.le_of_eq hp)
      simp only [hp, BEq.rfl, if_true]
      omega
    · simp only [beq_eq_false_iff_ne.mpr hp, Bool.false_eq_true, if_false]
      omega
  · show (h.nextPacket :: l).count p + h.released.count p = 0
    have hlt : h.nextPacket < p := hp
    have h2 := ho.issued p (Nat.le_of_lt hlt)
    rw [List.count_cons_of_ne (Nat.ne_of_lt hlt)]
    exact h2

theorem newRequest (ho : Owns h l) (t : Payload) (x : Packet) :
    Owns (h.newRequest t x).2 (h.nextPacket :: l) :=
  Owns.new (Owns.congr ho rfl rfl : Owns (h.newPayload t).2 l) _

theorem delete {p : PacketId} (ho : Owns h (p :: l)) : Owns (h.delete p) l := by
  have hcount : ∀ r, l.count r + (p :: h.released).count r =
      (p :: l).count r + h.released.count r := by
    intro r
    rw [List.count_cons, List.count_cons]
    omega
  refine ⟨fun r => ?_, fun r hr => ?_⟩
  · exact Nat.le_trans (Nat.le_of_eq (hcount r)) (ho.once r)
  · exact (hcount r).trans (ho.issued r hr)

/-- The answer of a memory or of a hit: the response takes the place of the request. -/
theorem respond {p : PacketId} (ho : Owns h (p :: l)) (now : UInt64) (vcId : Int) :
    Owns (((h.setResponseOk p).newResp now p vcId).2.delete p)
      (((h.setResponseOk p).newResp now p vcId).1 :: l) := by
  have hset : Owns (h.setResponseOk p) (p :: l) :=
    ho.congr (h.setResponseOk_nextPacket p) (h.setResponseOk_released p)
  refine Owns.delete ((hset.new _).mono fun r => ?_)
  show (p :: (h.setResponseOk p).nextPacket :: l).count r ≤ _
  rw [List.count_cons, List.count_cons, List.count_cons, List.count_cons]
  omega

end Owns

end Heap

end Gem5Sc
