/-
  File:      Gem5Sc/Port/Handshake.lean
  Subject:   A CHANNEL WITHOUT BUFFER is not a handshake: `recv` never calls the owner.

  For a link with `input_buffer_sizes` 0 the receiver has to take a packet at once or push back.
  `recvReq` only tries to enqueue, and the owner is called by `tick`, from a buffer. A channel of
  capacity 0 is always full, so every packet for it is refused, whatever the owner would say.

  * `recv_without_buffer` -- what `recv` does with a packet for such a channel;
  * `no_handshake` -- it is a handshake for no packet and no owner; its outcome is that of one
    exactly when the owner would have refused.
-/
import Gem5Sc.Port

namespace Gem5Sc

variable {ρ : Type}

/-- The owner, with the packets it has been called with. -/
def Handler.logged (handle : Handler ρ) : Handler (ρ × List PacketId) := fun p id label w =>
  let r := handle p id label (w.1, w.2.1)
  (r.1, (r.2.1, (r.2.2, w.2.2 ++ [p])))

namespace UpstreamPort

/-- `recv` of a port with its owner, in the owner's surroundings. The source has no call of the
    owner in it, so there is none here. -/
def recvAt (_owner : Handler ρ) (now : UInt64) (u : UpstreamPort) (p : PacketId) (w : Heap × ρ) :
    Bool × UpstreamPort × (Heap × ρ) :=
  let r := u.recv now p w.1
  (r.1, r.2.1, (r.2.2, w.2))

/-- `recv` takes the packet for the owner: answer and channels are those of a handshake. -/
structure HandshakeOutcome (handle : Handler ρ) (now : UInt64) (u : UpstreamPort) (p : PacketId)
    (w : Heap × ρ) : Prop where
  /-- It returns what the owner answers to the packet. -/
  answer : (u.recvAt handle now p w).1 = (handle p u.id u.label (w.1.setDstCycle p now, w.2)).1
  /-- It stores nothing. -/
  notStored : ∀ j, ((u.recvAt handle now p w).2.1.vc j).buffer = (u.vc j).buffer

/-- `recv` offers the packet to the owner, once and no other, and takes over the answer. -/
structure Handshake (handle : Handler ρ) (now : UInt64) (u : UpstreamPort) (p : PacketId)
    (w : Heap × ρ) : Prop extends HandshakeOutcome handle now u p w where
  /-- An owner that keeps a log has been called with this packet. -/
  offered : (u.recvAt handle.logged now p (w.1, (w.2, []))).2.2.2.2 = [p]

section WithoutBuffer

variable {u : UpstreamPort} {p : PacketId} {w : Heap × ρ}

/-- **A channel of capacity 0 refuses**: nothing is stored, the packet is deleted, and the owner's
    surroundings are as before. -/
theorem recv_without_buffer (handle : Handler ρ) (now : UInt64)
    (hcap : (u.vc (w.1.packet p).vcId.toNat).capacity = 0) :
    (u.recvAt handle now p w).1 = false ∧
      (∀ j, ((u.recvAt handle now p w).2.1.vc j).buffer = (u.vc j).buffer) ∧
      (u.recvAt handle now p w).2.2.1.released = p :: w.1.released ∧
      (u.recvAt handle now p w).2.2.2 = w.2 := by
  have hfull : (u.vc (w.1.packet p).vcId.toNat).full = true := by
    simp [InputVC.full, hcap]
  have hrefuses : u.accepts (w.1.packet p).vcId = false := by
    simp [accepts, hfull]
  obtain ⟨hanswer, -, hbuffers, hreleased, -⟩ := recv_refused now hrefuses
  exact ⟨hanswer, hbuffers, hreleased, rfl⟩

/-- **NO HANDSHAKE.** For every `UpstreamPort`, in any state and beside any other channels, every
    owner and every packet for a channel of capacity 0: `recv` does not offer the packet to the
    owner; and it returns what the owner would have answered, storing nothing, exactly when the
    owner would have refused. -/
theorem no_handshake (handle : Handler ρ) (now : UInt64) (u : UpstreamPort) (p : PacketId)
    (w : Heap × ρ) (hcap : (u.vc (w.1.packet p).vcId.toNat).capacity = 0) :
    ¬ Handshake handle now u p w ∧
    (HandshakeOutcome handle now u p w ↔
      (handle p u.id u.label (w.1.setDstCycle p now, w.2)).1 = false) := by
  obtain ⟨hanswer, hbuffers, -, -⟩ := recv_without_buffer handle now hcap
  refine ⟨fun h => ?_, fun h => ?_, fun h => ⟨hanswer.trans h.symm, hbuffers⟩⟩
  · -- the log, too, is surroundings of the owner
    obtain ⟨-, -, -, hlog⟩ := recv_without_buffer (w := (w.1, (w.2, ([] : List PacketId))))
      handle.logged now hcap
    exact absurd ((congrArg Prod.snd hlog).symm.trans h.offered) (List.cons_ne_nil p []).symm
  · exact h.answer.symm.trans hanswer

end WithoutBuffer

/-! ## An owner that accepts everything -/

/-- One channel without buffer, as between a CPU and its cache. -/
def strict : UpstreamPort := create 0 [0] [0] ""

def ready : Handler Unit := fun _ _ _ w => (true, w)

/-- **A ready owner gets nothing.** -/
theorem ready_owner_refused : ¬ HandshakeOutcome ready 0 strict 0 (({} : Heap), ()) := by
  intro h
  have hanswer := h.answer
  exact absurd hanswer (by decide)

/-- The port of the strict link. -/
theorem no_handshake_strict : ¬ Handshake ready 0 strict 0 (({} : Heap), ()) :=
  (no_handshake ready 0 strict 0 (({} : Heap), ()) (by decide)).1

end UpstreamPort

end Gem5Sc
