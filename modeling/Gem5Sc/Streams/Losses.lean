/-
  File:      Gem5Sc/Streams/Losses.lean
  Subject:   WHAT A STEP DOES TO A LANE THAT HAS LOST NOTHING: it moves a packet, or loses one.

  A packet gets lost in four ways, each time with its credit:
  * a full input channel deletes a packet that the sending port then queues (`Parks`);
  * the consumer's port finds the handler of `SimObject`, or a consumer that refuses (`takes`);
  * a credit comes to a full port (`count_complete_lt`);
  * **every credit that is delivered is deleted** (`count_creditTick`), because it comes through an
    upstream port, and a producer handles credits as responses.

  `sound_step` and `sound_tickStream` say that a step which does none of this keeps the lane sound
  and its packets counted; `count_step_lt` and `not_conserved_tickStream` that any other does not.
  A refused packet is no loss: its credit goes back. `numbered_tickStream` holds in any case.
-/
import Gem5Sc.Streams.Lanes
import Mathlib.Data.List.Perm.Basic

namespace Gem5Sc.Lane

/-! ## 1. The consumer's port -/

/-- The handler takes what it is offered. -/
def takes (direct : Bool) (upstream : Nat) : Bool := direct && !StreamConsumer.full upstream

theorem handle_eq (direct : Bool) (upstream : Nat) (p : PacketId) (id : Nat) (label : String)
    (w : Heap × List PacketId) :
    handle direct upstream p id label w =
      if takes direct upstream then (true, (w.1, w.2 ++ [p]))
      else (false, (w.1.delete p, w.2)) := by
  unfold handle takes StreamConsumer.handleUpstreamRequest
  cases direct with
  | false => rfl
  | true => cases StreamConsumer.full upstream <;> rfl

/-- A packet is taken: it moves from the port to the consumer. -/
theorem sound_inTick {l : Lane} (h : Sound l) {direct : Bool}
    (ht : l.link.inp 0 ≠ [] → takes direct l.upstream = true) :
    Sound (l.step (.inTick direct)) ∧ (l.step (.inTick direct)).count = l.count := by
  rw [step, UpstreamPort.tick_of_zero h.inp, UpstreamPort.tickVc]
  cases hb : (l.link.up.vc 0).buffer with
  | nil => exact ⟨h, rfl⟩
  | cons p rest =>
      have hinp : l.link.inp 0 = p :: rest := hb
      have hlt : 0 < l.link.up.inputVcs.length := Link.lt_of_inp_cons hinp
      have htake := ht (by rw [hinp]; exact List.cons_ne_nil _ _)
      simp only [handle_eq, htake, if_true]
      have hzero : ((l.link.up.setVc 0 (l.link.up.vc 0).pop).vc 0).buffer = rest := by
        rw [UpstreamPort.setVc_vc_self hlt, InputVC.pop_buffer, hb, List.tail_cons]
      have hperm : (rest ++ (l.held ++ [p])).Perm (l.link.inp 0 ++ l.held) := by
        rw [hinp, ← List.append_assoc]
        exact List.perm_append_comm
      rw [h.count_eq_lengths]
      have hnew := Sound.of_contents (l := { l with
          link := { l.link with up := l.link.up.setVc 0 (l.link.up.vc 0).pop },
          held := l.held ++ [p] }) rest (l.held ++ [p]) (l.creditIn.vc 0).buffer
        ⟨h.out, fun v hv => (congrArg InputVC.buffer
          (UpstreamPort.setVc_vc_ne _ (Ne.symm hv) _)).trans (h.inp v hv), h.creditOut, h.creditIn⟩
        hzero rfl rfl
        (h.holds.mono fun q => Nat.le_of_eq ((hperm.append_right _).count_eq q))
        (fun q hq => h.isData q (hperm.mem_iff.mp hq)) h.isCredit
      refine ⟨hnew.1, hnew.2.trans ?_⟩
      have hlen := hperm.length_eq
      simp only [List.length_append] at hlen ⊢
      omega

/-- A packet is refused: it is deleted and stays in the port. -/
theorem count_inTick_lt {l : Lane} (h : Sound l) {direct : Bool} (hne : l.link.inp 0 ≠ [])
    (ht : takes direct l.upstream = false) : (l.step (.inTick direct)).count < l.count := by
  rw [step, UpstreamPort.tick_of_zero h.inp, UpstreamPort.tickVc]
  cases hb : (l.link.up.vc 0).buffer with
  | nil => exact absurd hb hne
  | cons p rest =>
      have hp : p ∈ l.data := by
        rw [h.data_eq]
        exact List.mem_append_left _ (hb ▸ List.mem_cons_self : p ∈ (l.link.up.vc 0).buffer)
      simp only [handle_eq, ht, Bool.false_eq_true, if_false]
      exact h.count_delete_lt (Or.inl hp)

/-! ## 2. The producer's upstream port -/

/-- **A credit that is delivered is deleted.** -/
theorem count_creditTick {l : Lane} (h : Sound l) :
    ((l.creditIn.vc 0).buffer = [] → l.step .creditTick = l) ∧
      ((l.creditIn.vc 0).buffer ≠ [] → (l.step .creditTick).count < l.count) := by
  rw [step, UpstreamPort.tick_of_zero h.creditIn, UpstreamPort.tickVc]
  cases hb : (l.creditIn.vc 0).buffer with
  | nil => exact ⟨fun _ => rfl, fun hne => absurd rfl hne⟩
  | cons p rest =>
      have hp : p ∈ l.credits := by
        rw [h.credits_eq, hb]
        exact List.mem_cons_self
      exact ⟨fun hnil => absurd hnil (List.cons_ne_nil _ _), fun _ => h.count_delete_lt (Or.inr hp)⟩

/-! ## 3. A completion -/

/-- The packet with the credit meets the port at the other end, and the data packet is deleted. -/
theorem step_complete {l : Lane} {i : Nat} {p : PacketId} (hi : l.held[i]? = some p)
    (now : UInt64) :
    ∃ d : DownstreamPort, d.outputVcs = l.creditOut.outputVcs ∧
      l.step (.complete i now) =
        { l with
          link := { l.link with
            heap := (l.creditIn.recv now l.link.heap.nextPacket
              (StreamConsumer.newCredit now p l.link.heap).2).2.2.delete p },
          held := l.held.eraseIdx i,
          creditOut := d,
          creditIn := (l.creditIn.recv now l.link.heap.nextPacket
            (StreamConsumer.newCredit now p l.link.heap).2).2.1 } := by
  refine ⟨{ l.creditOut with toMasterPort := (l.creditOut.toMasterPort.send (Link.peer now)
    l.link.heap.nextPacket ((StreamConsumer.newCredit now p l.link.heap).2, l.creditIn)).2.1 },
    rfl, ?_⟩
  rw [step, hi]
  rfl

section Complete

variable {l : Lane} {i : Nat} {p : PacketId}

/-- What the packets of a lane look like once the credit for `p` has been received or refused. -/
theorem labels_complete (h : Sound l) (now : UInt64) {q : PacketId}
    (hq : q ∈ (l.link.inp 0 ++ l.held) ++ (l.creditIn.vc 0).buffer) :
    ((l.creditIn.recv now l.link.heap.nextPacket
        (StreamConsumer.newCredit now p l.link.heap).2).2.2.packet q).type =
          (l.link.heap.packet q).type ∧
      ((l.creditIn.recv now l.link.heap.nextPacket
        (StreamConsumer.newCredit now p l.link.heap).2).2.2.packet q).streamId =
          (l.link.heap.packet q).streamId := by
  have hkeeps := (l.link.heap.keepsLabels_new _).trans
    (l.creditIn.recv_keepsLabels now l.link.heap.nextPacket
      (StreamConsumer.newCredit now p l.link.heap).2)
  exact ⟨hkeeps.type q (h.holds.lt hq), hkeeps.streamId q (h.holds.lt hq)⟩

/-- And the credit itself. -/
theorem labels_newCredit (now : UInt64) (p : PacketId) (u : UpstreamPort) (h : Heap) :
    ((u.recv now h.nextPacket (StreamConsumer.newCredit now p h).2).2.2.packet h.nextPacket).type =
        .creditReturn ∧
      ((u.recv now h.nextPacket
        (StreamConsumer.newCredit now p h).2).2.2.packet h.nextPacket).streamId =
          (h.packet p).streamId := by
  have hkeeps := u.recv_keepsLabels now h.nextPacket (StreamConsumer.newCredit now p h).2
  have hlt : h.nextPacket < (StreamConsumer.newCredit now p h).2.nextPacket := Nat.lt_succ_self _
  have hself : (StreamConsumer.newCredit now p h).2.packet h.nextPacket =
      { srcCycle := now, type := .creditReturn, credits := 1,
        streamId := (h.packet p).streamId } := Heap.new_packet_self _ _
  rw [hkeeps.type _ hlt, hkeeps.streamId _ hlt, hself]
  exact ⟨rfl, rfl⟩

theorem newCredit_vcId (now : UInt64) (p : PacketId) (h : Heap) :
    ((StreamConsumer.newCredit now p h).2.packet h.nextPacket).vcId = 0 := by
  unfold StreamConsumer.newCredit
  rw [Heap.new_packet_self]

/-- The packets around a completion. -/
theorem holds_complete (h : Sound l) (hi : l.held[i]? = some p) (now : UInt64) :
    (StreamConsumer.newCredit now p l.link.heap).2.Holds
      (p :: ((l.link.inp 0 ++ l.held.eraseIdx i) ++
        ((l.creditIn.vc 0).buffer ++ [l.link.heap.nextPacket]))) := by
  obtain ⟨hlt, rfl⟩ := List.getElem?_eq_some_iff.mp hi
  refine (h.holds.new _).mono fun q => Nat.le_of_eq ?_
  have hperm := (List.getElem_cons_eraseIdx_perm hlt).count_eq q
  simp only [List.count_append, List.count_cons, List.count_nil] at hperm ⊢
  omega

/-- The lane after a completion, by what is then in the producer's port. -/
theorem contents_complete (h : Sound l) (hi : l.held[i]? = some p) (now : UInt64)
    (c : List PacketId)
    (hbuf : ∀ v, ((l.creditIn.recv now l.link.heap.nextPacket
      (StreamConsumer.newCredit now p l.link.heap).2).2.1.vc v).buffer = if 0 = v then c else [])
    (hc : ∀ q ∈ c, q ∈ (l.creditIn.vc 0).buffer ∨ q = l.link.heap.nextPacket)
    (hplaces : ((l.creditIn.recv now l.link.heap.nextPacket
      (StreamConsumer.newCredit now p l.link.heap).2).2.2.delete p).Holds
        ((l.link.inp 0 ++ l.held.eraseIdx i) ++ c)) :
    Sound (l.step (.complete i now)) ∧
      (l.step (.complete i now)).count + 1 = (l.link.inp 0).length + l.held.length + c.length := by
  obtain ⟨d, hd, hstep⟩ := step_complete hi now
  have hheld : ∀ q, q ∈ l.link.inp 0 ++ l.held.eraseIdx i → q ∈ l.link.inp 0 ++ l.held :=
    fun q hq => (List.mem_append.mp hq).elim (fun hq => List.mem_append_left _ hq)
      fun hq => List.mem_append_right _ (List.mem_of_mem_eraseIdx hq)
  have hnew := Sound.of_contents (l := l.step (.complete i now)) (l.link.inp 0)
    (l.held.eraseIdx i) c
  rw [hstep] at hnew ⊢
  have hafter := hnew ⟨h.out, h.inp, fun v => ?_, fun v hv => ?_⟩ rfl rfl (hbuf 0) hplaces
    (fun q hq => ?_) fun q hq => ?_
  · refine ⟨hafter.1, ?_⟩
    obtain ⟨hlt, -⟩ := List.getElem?_eq_some_iff.mp hi
    rw [hafter.2, List.length_eraseIdx_of_lt hlt]
    omega
  · show (d.vc v).buffer = []
    rw [DownstreamPort.vc, hd]
    exact h.creditOut v
  · exact (hbuf v).trans (if_neg (Ne.symm hv))
  · have hlabel := labels_complete (p := p) h now (List.mem_append_left _ (hheld q hq))
    have hdata := h.isData q (hheld q hq)
    exact ⟨hlabel.1.trans hdata.1, hlabel.2.trans hdata.2⟩
  · rcases hc q hq with hq | rfl
    · have hlabel := labels_complete (p := p) h now (List.mem_append_right _ hq)
      have hcredit := h.isCredit q hq
      exact ⟨hlabel.1.trans hcredit.1, hlabel.2.trans hcredit.2⟩
    · have hlabel := labels_newCredit now p l.creditIn l.link.heap
      have hp := h.isData p (List.mem_append_right _ (List.mem_of_getElem? hi))
      exact ⟨hlabel.1, hlabel.2.trans hp.2⟩

/-- **A credit for a packet**: the data packet goes, the credit packet comes. -/
theorem sound_complete (h : Sound l) (hi : l.held[i]? = some p) (now : UInt64)
    (ha : l.creditIn.accepts 0 = true) :
    Sound (l.step (.complete i now)) ∧ (l.step (.complete i now)).count = l.count := by
  have hvc := newCredit_vcId now p l.link.heap
  obtain ⟨-, -, hbuf, hrel, hsame⟩ := UpstreamPort.recv_accepted now (u := l.creditIn)
    (p := l.link.heap.nextPacket) (h := (StreamConsumer.newCredit now p l.link.heap).2)
    (by rw [hvc]; exact ha)
  rw [hvc] at hbuf
  obtain ⟨hs, hcount⟩ := contents_complete h hi now
    ((l.creditIn.vc 0).buffer ++ [l.link.heap.nextPacket])
    (fun v => by
      rw [hbuf v, h.creditIn_buffer v]
      by_cases hv : 0 = v <;> simp [hv])
    (fun q hq => (List.mem_append.mp hq).imp id List.mem_singleton.mp)
    ((holds_complete h hi now).congr hsame.next hrel).delete
  refine ⟨hs, ?_⟩
  rw [h.count_eq_lengths]
  rw [List.length_append, List.length_singleton] at hcount
  omega

/-- **A credit that meets a full port is deleted**, and so is the data packet. -/
theorem count_complete_lt (h : Sound l) (hi : l.held[i]? = some p) (now : UInt64)
    (ha : l.creditIn.accepts 0 = false) : (l.step (.complete i now)).count < l.count := by
  have hvc := newCredit_vcId now p l.link.heap
  obtain ⟨-, -, hbuf, hrel, hsame⟩ := UpstreamPort.recv_refused now (u := l.creditIn)
    (p := l.link.heap.nextPacket) (h := (StreamConsumer.newCredit now p l.link.heap).2)
    (by rw [hvc]; exact ha)
  -- the port deletes the credit, the completion the packet
  have hcredit := Heap.Holds.delete (p := l.link.heap.nextPacket)
    (l := p :: ((l.link.inp 0 ++ l.held.eraseIdx i) ++ (l.creditIn.vc 0).buffer))
    ((holds_complete h hi now).mono fun q => by
      simp only [List.count_append, List.count_cons, List.count_nil]
      omega)
  obtain ⟨-, hcount⟩ := contents_complete h hi now (l.creditIn.vc 0).buffer
    (fun v => (hbuf v).trans (h.creditIn_buffer v)) (fun q hq => Or.inl hq)
    (hcredit.congr hsame.next hrel).delete
  rw [h.count_eq_lengths]
  omega

end Complete

/-! ## 4. The ticks of the ports that queue nothing -/

theorem step_downTick {l : Lane} (h : Sound l) (now : UInt64) : l.step (.downTick now) = l := by
  rw [step, Link.downTick, DownstreamPort.tick_of_empty h.out]

theorem step_creditOutTick {l : Lane} (h : Sound l) (now : UInt64) :
    l.step (.creditOutTick now) = l := by
  rw [step, DownstreamPort.tick_of_empty h.creditOut]

/-! ## 5. The next packet -/

/-- The packet the producer makes, once it has its payload. -/
def nextData (now : UInt64) (l : Lane) : Packet :=
  { srcCycle := now, type := .streamData, streamId := l.info.streamId, seqNum := l.info.sentCount,
    payload := some l.link.heap.nextPayload }

/-- The link the packet is sent on. -/
def ready (l : Lane) : Link :=
  { l.link with heap := (l.link.heap.newPayload { command := .write, dataLength := 4 }).2 }

/-- What the port says to it. -/
def offered (now : UInt64) (l : Lane) : Bool :=
  (l.ready.down.sendReq (Link.peer now) (l.ready.heap.new (l.nextData now)).1
    ((l.ready.heap.new (l.nextData now)).2, l.ready.up)).1

/-- The port takes the packet. -/
def sent (now : UInt64) (l : Lane) : Lane :=
  { l with info := { l.info with sentCount := l.info.sentCount + 1 },
           link := l.ready.sendReq (l.nextData now) now,
           accepted := l.accepted ++ [l.info.sentCount] }

/-- The port refuses it, and the producer deletes it. -/
def withdrawn (now : UInt64) (l : Lane) : Lane :=
  { l with link := { l.ready.sendReq (l.nextData now) now with
      heap := (l.ready.sendReq (l.nextData now) now).heap.delete l.link.heap.nextPacket } }

/-- A packet that the input channel deletes is queued in the output channel. -/
def Parks (l : Lane) : Prop :=
  validVc 0 l.link.down.outputVcs.length = true ∧ l.link.up.accepts 0 = false ∧
    (l.link.down.vc 0).full = false

theorem sendReq_newData (now : UInt64) (l : Lane) :
    sendReq now (StreamProducer.newData now l.info l.link.heap).1
        ((StreamProducer.newData now l.info l.link.heap).2, (l.link, l.accepted)) =
      (l.offered now, ((l.ready.sendReq (l.nextData now) now).heap,
        (l.ready.sendReq (l.nextData now) now,
          if l.offered now then l.accepted ++ [l.info.sentCount] else l.accepted))) := by
  have hseq : ((StreamProducer.newData now l.info l.link.heap).2.packet
      (StreamProducer.newData now l.info l.link.heap).1).seqNum = l.info.sentCount :=
    congrArg Packet.seqNum (Heap.new_packet_self l.ready.heap (l.nextData now))
  unfold sendReq
  dsimp only
  rw [hseq]
  rfl

theorem tickStream_takes {P : CreditPool} {now : UInt64} {rand : Nat} {l : Lane} {k : P.Carrier}
    (ht : StreamProducer.takes P rand l.info k = true) :
    l.tickStream P now rand k =
      if l.offered now then ((P.tryGetCredit l.info.streamId k).2, l.sent now)
      else (P.returnCredit l.info.streamId (P.tryGetCredit l.info.streamId k).2,
        l.withdrawn now) := by
  rw [tickStream, StreamProducer.tickStream_takes ht, sendReq_newData]
  cases ho : l.offered now with
  | false => rfl
  | true => rfl

/-- The packets that were there before look the same. -/
theorem labels_ready (l : Lane) (now : UInt64) {q : PacketId} (hlt : q < l.link.heap.nextPacket) :
    ((l.ready.sendReq (l.nextData now) now).heap.packet q).type = (l.link.heap.packet q).type ∧
      ((l.ready.sendReq (l.nextData now) now).heap.packet q).streamId =
        (l.link.heap.packet q).streamId := by
  have hkeeps := l.ready.sendReq_keepsLabels (l.nextData now) now
  have hold : (l.ready.heap.new (l.nextData now)).2.packet q = l.link.heap.packet q :=
    Heap.new_packet_of_lt l.ready.heap _ hlt
  have hissued : q < (l.ready.heap.new (l.nextData now)).2.nextPacket := Nat.lt_succ_of_lt hlt
  rw [hkeeps.type q hissued, hkeeps.streamId q hissued, hold]
  exact ⟨rfl, rfl⟩

/-- The packet once the port has it: it is a data packet of the stream, like those before it. -/
theorem isData_ready {l : Lane} (h : Sound l) (now : UInt64) {q : PacketId}
    (hq : q ∈ l.link.inp 0 ++ l.held ∨ q = l.link.heap.nextPacket) :
    ((l.ready.sendReq (l.nextData now) now).heap.packet q).type = .streamData ∧
      ((l.ready.sendReq (l.nextData now) now).heap.packet q).streamId = l.info.streamId := by
  rcases hq with hq | rfl
  · obtain ⟨htype, hstream⟩ := labels_ready l now (h.holds.lt (List.mem_append_left _ hq))
    have hdata := h.isData q hq
    exact ⟨htype.trans hdata.1, hstream.trans hdata.2⟩
  · have hkeeps := l.ready.sendReq_keepsLabels (l.nextData now) now
    have hnew : (l.ready.heap.new (l.nextData now)).2.packet l.link.heap.nextPacket =
        l.nextData now := Heap.new_packet_self l.ready.heap _
    have hlt : l.link.heap.nextPacket < (l.ready.heap.new (l.nextData now)).2.nextPacket :=
      Nat.lt_succ_self _
    rw [hkeeps.type _ hlt, hkeeps.streamId _ hlt, hnew]
    exact ⟨rfl, rfl⟩

/-- The credits are not touched. -/
theorem isCredit_ready {l : Lane} (h : Sound l) (now : UInt64) {q : PacketId}
    (hq : q ∈ (l.creditIn.vc 0).buffer) :
    ((l.ready.sendReq (l.nextData now) now).heap.packet q).type = .creditReturn ∧
      ((l.ready.sendReq (l.nextData now) now).heap.packet q).streamId = l.info.streamId := by
  obtain ⟨htype, hstream⟩ := labels_ready l now (h.holds.lt (List.mem_append_right _ hq))
  have hcredit := h.isCredit q hq
  exact ⟨htype.trans hcredit.1, hstream.trans hcredit.2⟩

/-- What the port has answered, by what it has noted. -/
theorem offered_eq_true {l : Lane} {now : UInt64}
    (hs : (l.ready.sendReq (l.nextData now) now).sent =
      l.ready.sent ++ [l.ready.heap.nextPacket]) : l.offered now = true := by
  by_contra ho
  have hsent : (l.ready.sendReq (l.nextData now) now).sent = l.ready.sent := if_neg ho
  rw [hsent] at hs
  exact absurd (List.self_eq_append_right.mp hs) (List.cons_ne_nil _ _)

theorem offered_eq_false {l : Lane} {now : UInt64}
    (hs : (l.ready.sendReq (l.nextData now) now).sent = l.ready.sent) :
    l.offered now = false := by
  by_contra ho
  have hsent : (l.ready.sendReq (l.nextData now) now).sent =
      l.ready.sent ++ [l.ready.heap.nextPacket] := if_pos (Bool.of_not_eq_false ho)
  rw [hsent] at hs
  exact absurd (List.append_right_eq_self.mp hs) (List.cons_ne_nil _ _)

/-- After a refusal by the other port it is the room in the output channel that decides. -/
theorem offered_refused {l : Lane} (h : Sound l) (now : UInt64)
    (hv : validVc 0 l.link.down.outputVcs.length = true) (ha : l.link.up.accepts 0 = false) :
    l.offered now = !(l.link.down.vc 0).full := by
  have hvc : ((l.ready.heap.new (l.nextData now)).2.packet (l.ready.heap.new
      (l.nextData now)).1).vcId = 0 :=
    congrArg Packet.vcId (Heap.new_packet_self l.ready.heap (l.nextData now))
  unfold offered
  rw [DownstreamPort.sendReq_direct (w := ((l.ready.heap.new (l.nextData now)).2, l.ready.up))
    (by rw [hvc]; exact hv) (by rw [hvc]; exact h.out 0), Link.peer_send]
  obtain ⟨hr, -⟩ := UpstreamPort.recv_refused now (u := l.ready.up)
    (p := (l.ready.heap.new (l.nextData now)).1) (h := (l.ready.heap.new (l.nextData now)).2)
    (by rw [hvc]; exact ha)
  rw [hr, if_neg Bool.false_ne_true, hvc]
  cases hf : (l.link.down.vc 0).full with
  | true => rw [DownstreamPort.enqueueOrDrop_of_full (by exact hf)]; rfl
  | false => rw [DownstreamPort.enqueueOrDrop_of_not_full (by exact hf)]; rfl

/-- How the offer of a packet can end. -/
inductive OfferCase (l : Lane) (now : UInt64) : Prop where
  | taken (ho : l.offered now = true) (hp : ¬ l.Parks) (hs : Sound (l.sent now))
      (hc : (l.sent now).count = l.count + 1)
  | refused (ho : l.offered now = false) (hp : ¬ l.Parks) (hs : Sound (l.withdrawn now))
      (hc : (l.withdrawn now).count = l.count)
  | parked (ho : l.offered now = true) (hp : l.Parks) (hc : (l.sent now).count ≤ l.count)

section Offer

variable {l : Lane} {now : UInt64}

/-- The packet is deleted by the port, and once more by the producer. -/
theorem withdrawn_of_lost (h : Sound l)
    (hout : (l.ready.sendReq (l.nextData now) now).out = l.ready.out)
    (hinp : (l.ready.sendReq (l.nextData now) now).inp = l.ready.inp)
    (hlost : (l.ready.sendReq (l.nextData now) now).heap.Holds
      ((l.link.inp 0 ++ l.held) ++ (l.creditIn.vc 0).buffer))
    (hnext : (l.ready.sendReq (l.nextData now) now).heap.nextPacket =
      l.link.heap.nextPacket + 1) :
    Sound (l.withdrawn now) ∧ (l.withdrawn now).count = l.count := by
  have hnew : l.link.heap.nextPacket ∉
      (l.link.inp 0 ++ l.held) ++ (l.creditIn.vc 0).buffer :=
    fun hm => Nat.lt_irrefl _ (h.holds.lt hm)
  rw [h.count_eq_lengths]
  exact Sound.of_contents (l := l.withdrawn now) (l.link.inp 0) l.held (l.creditIn.vc 0).buffer
    ⟨fun v => (congrFun hout v).trans (h.out v), fun v hv => (congrFun hinp v).trans (h.inp v hv),
      h.creditOut, h.creditIn⟩
    (congrFun hinp 0) rfl rfl
    (hlost.deleteLost hnew (by rw [hnext]; exact Nat.lt_succ_self _))
    (fun q hq => isData_ready h now (Or.inl hq)) fun q hq => isCredit_ready h now hq

/-- The packet is deleted by the input channel, and queued: it counts for nothing. -/
theorem count_parked (h : Sound l) (hv : validVc 0 l.link.down.outputVcs.length = true)
    (hout : (l.ready.sendReq (l.nextData now) now).out =
      Function.update l.ready.out 0 [l.link.heap.nextPacket])
    (hinp : (l.ready.sendReq (l.nextData now) now).inp = l.ready.inp)
    (hdead : l.link.heap.nextPacket ∈ (l.ready.sendReq (l.nextData now) now).heap.released) :
    (l.sent now).count ≤ l.count := by
  obtain ⟨-, hk⟩ := l.ready.sendReq_cases (l.nextData now) now
  have hlength : 0 < l.link.down.outputVcs.length := validVc_toNat hv
  have hslots : (l.sent now).link.slots = l.link.heap.nextPacket :: l.link.slots := by
    rw [h.slots_eq]
    show (l.ready.sendReq (l.nextData now) now).slots = _
    rw [Link.slots, hout, hinp, hk.downLength, hk.upShape.length]
    have hleft : (List.range l.ready.down.outputVcs.length).flatMap
        (Function.update l.ready.out 0 [l.link.heap.nextPacket]) = [l.link.heap.nextPacket] := by
      rw [flatMap_range_of_zero, Function.update_self]
      · exact fun v hv => (Function.update_of_ne hv ..).trans (h.out v)
      · exact fun hn => absurd hn (Nat.ne_of_gt hlength)
    have hright : (List.range l.ready.up.inputVcs.length).flatMap l.ready.inp = l.link.inp 0 := by
      have hold := h.slots_eq
      rw [Link.slots, List.flatMap_eq_nil_iff.mpr fun v _ => h.out v, List.nil_append] at hold
      exact hold
    rw [hleft, hright]
    rfl
  have hlive : (l.sent now).isLive false l.link.heap.nextPacket = false := by
    have hmem : l.link.heap.nextPacket ∈ (l.sent now).link.heap.released := hdead
    simp [isLive, hmem]
  have hdata : (l.sent now).data = l.link.heap.nextPacket :: l.data := by
    rw [data, hslots]
    rfl
  have hle := l.data.countP_le_length (p := (l.sent now).isLive false)
  have hle' := l.credits.countP_le_length (p := (l.sent now).isLive true)
  rw [h.count_eq, count, hdata, List.countP_cons_of_neg (by rw [hlive]; exact Bool.false_ne_true)]
  exact Nat.add_le_add hle hle'

theorem offer_cases (h : Sound l) (now : UInt64) : OfferCase l now := by
  obtain ⟨hc, hk⟩ := l.ready.sendReq_cases (l.nextData now) now
  have hnext : (l.ready.sendReq (l.nextData now) now).heap.nextPacket =
      l.link.heap.nextPacket + 1 := hk.heap.next
  have hnew : (l.ready.heap.new (l.nextData now)).2.Holds (l.link.heap.nextPacket ::
      ((l.link.inp 0 ++ l.held) ++ (l.creditIn.vc 0).buffer)) :=
    Heap.Holds.new (h.holds.congr rfl rfl : l.ready.heap.Holds _) _
  have hempty : l.ready.out (l.nextData now).vcId.toNat = [] := h.out 0
  cases hc with
  | invalid hv hout hinp hsent hrel =>
      have hw := withdrawn_of_lost h hout hinp (hnew.delete.congr hk.heap.next hrel) hnext
      exact .refused (offered_eq_false hsent) (fun hp => Bool.noConfusion (hp.1.symm.trans hv))
        hw.1 hw.2
  | queued hv hne => exact absurd hempty hne
  | dropped hv hne => exact absurd hempty hne
  | direct hv he ha hout hinp hsent hrel =>
      have hzero : (l.ready.sendReq (l.nextData now) now).inp 0 =
          l.link.inp 0 ++ [l.link.heap.nextPacket] :=
        (congrFun hinp 0).trans (Function.update_self ..)
      have hs := Sound.of_contents (l := l.sent now) (l.link.inp 0 ++ [l.link.heap.nextPacket])
        l.held (l.creditIn.vc 0).buffer
        ⟨fun v => (congrFun hout v).trans (h.out v), fun v hv => ?_, h.creditOut, h.creditIn⟩
        hzero rfl rfl ((hnew.mono fun q => ?_).congr hk.heap.next hrel) (fun q hq => ?_)
        fun q hq => isCredit_ready h now hq
      · refine .taken (offered_eq_true hsent) (fun hp => Bool.noConfusion (hp.2.1.symm.trans ha))
          hs.1 (hs.2.trans ?_)
        rw [h.count_eq_lengths, List.length_append, List.length_singleton]
        omega
      · exact (congrFun hinp v).trans ((Function.update_of_ne hv ..).trans (h.inp v hv))
      · simp only [List.count_append, List.count_cons, List.count_nil]
        omega
      · refine isData_ready h now ?_
        simp only [List.mem_append, List.mem_singleton] at hq ⊢
        tauto
  | refusedQueued hv he ha hout hinp hsent hrel =>
      have hroom : (l.link.down.vc 0).full = false := by
        have ho := offered_refused h now hv ha
        rw [offered_eq_true hsent] at ho
        simpa using ho.symm
      exact .parked (offered_eq_true hsent) ⟨hv, ha, hroom⟩
        (count_parked h hv hout hinp (by rw [hrel]; exact List.mem_cons_self))
  | refusedDropped hv he ha hout hinp hsent hrel =>
      have hfull : (l.link.down.vc 0).full = true := by
        have ho := offered_refused h now hv ha
        rw [offered_eq_false hsent] at ho
        simpa using ho.symm
      have hlost := hnew.delete.deleteLost (p := l.link.heap.nextPacket)
        (fun hm => Nat.lt_irrefl _ (h.holds.lt hm)) (Nat.lt_succ_self _)
      have hw := withdrawn_of_lost h hout hinp (hlost.congr hk.heap.next hrel) hnext
      exact .refused (offered_eq_false hsent)
        (fun hp => Bool.noConfusion (hp.2.2.symm.trans hfull)) hw.1 hw.2

end Offer

/-! ## 6. A step -/

/-- What a step other than the producer's `tick` must not do: lose a packet. -/
def Keeps (l : Lane) : Action → Prop
  | .inTick direct => l.link.inp 0 ≠ [] → takes direct l.upstream = true
  | .complete i _ => i < l.held.length → l.creditIn.accepts 0 = true
  | .creditTick => (l.creditIn.vc 0).buffer = []
  | _ => True

theorem step_info (l : Lane) (a : Action) : (l.step a).info = l.info := by
  cases a with
  | complete i now =>
      rw [step]
      split <;> rfl
  | _ => rfl

theorem step_accepted (l : Lane) (a : Action) : (l.step a).accepted = l.accepted := by
  cases a with
  | complete i now =>
      rw [step]
      split <;> rfl
  | _ => rfl

theorem sound_step {l : Lane} (h : Sound l) {a : Action} (hk : l.Keeps a) :
    Sound (l.step a) ∧ (l.step a).count = l.count := by
  cases a with
  | downTick now =>
      rw [step_downTick h]
      exact ⟨h, rfl⟩
  | inTick direct => exact sound_inTick h hk
  | complete i now =>
      cases hi : l.held[i]? with
      | none =>
          rw [step, hi]
          exact ⟨h, rfl⟩
      | some p => exact sound_complete h hi now (hk (List.getElem?_eq_some_iff.mp hi).1)
  | creditOutTick now =>
      rw [step_creditOutTick h]
      exact ⟨h, rfl⟩
  | creditTick =>
      rw [(count_creditTick h).1 hk]
      exact ⟨h, rfl⟩

theorem count_step_lt {l : Lane} (h : Sound l) {a : Action} (hk : ¬ l.Keeps a) :
    (l.step a).count < l.count := by
  cases a with
  | downTick now => exact absurd trivial hk
  | creditOutTick now => exact absurd trivial hk
  | creditTick => exact (count_creditTick h).2 hk
  | inTick direct =>
      obtain ⟨hne, ht⟩ := Classical.not_imp.mp hk
      exact count_inTick_lt h hne (Bool.of_not_eq_true ht)
  | complete i now =>
      obtain ⟨hi, ha⟩ := Classical.not_imp.mp hk
      exact count_complete_lt h (List.getElem?_eq_getElem hi) now (Bool.of_not_eq_true ha)

section Tick

variable {P : CreditPool} (now : UInt64) {rand : Nat} {l : Lane} {k : P.Carrier}

theorem tickStream_idle (ht : StreamProducer.takes P rand l.info k = false) :
    (l.tickStream P now rand k).2 = l ∧
      ∀ t, P.used (l.tickStream P now rand k).1 t = P.used k t := by
  obtain ⟨k', heq, hused⟩ := StreamProducer.tickStream_idle (sendReq now) now
    (l.link.heap, (l.link, l.accepted)) ht
  rw [tickStream, heq]
  exact ⟨rfl, hused⟩

/-- Of a stream nothing changes but its `sent_count`. -/
theorem tickStream_streamId :
    (l.tickStream P now rand k).2.info.streamId = l.info.streamId := by
  cases ht : StreamProducer.takes P rand l.info k with
  | false => rw [(tickStream_idle now ht).1]
  | true =>
      rw [tickStream_takes ht]
      cases l.offered now <;> rfl

/-- The other streams keep their credits. -/
theorem tickStream_used_ne {t : UInt64} (hne : t ≠ l.info.streamId) :
    P.used (l.tickStream P now rand k).1 t = P.used k t := by
  cases ht : StreamProducer.takes P rand l.info k with
  | false => exact (tickStream_idle now ht).2 t
  | true =>
      rw [tickStream_takes ht]
      cases l.offered now with
      | false => exact (P.used_return_ne _ _ _ hne).trans (P.used_take_ne _ _ _ hne)
      | true => exact P.used_take_ne _ _ _ hne

/-- **A credit is with its packet**, unless the packet is deleted and queued. -/
theorem sound_tickStream {base : Nat} (h : Sound l)
    (hc : P.used k l.info.streamId = base + l.count)
    (hk : StreamProducer.takes P rand l.info k = true → ¬ l.Parks) :
    Sound (l.tickStream P now rand k).2 ∧
      P.used (l.tickStream P now rand k).1 l.info.streamId =
        base + (l.tickStream P now rand k).2.count := by
  cases ht : StreamProducer.takes P rand l.info k with
  | false =>
      obtain ⟨hl, hused⟩ := tickStream_idle now ht
      rw [hl, hused]
      exact ⟨h, hc⟩
  | true =>
      have htake := (StreamProducer.used_takes ht).2
      rw [hc] at htake
      rw [tickStream_takes ht]
      cases offer_cases h now with
      | taken ho hp hs hcount =>
          rw [ho, if_pos rfl]
          exact ⟨hs, htake.trans (by rw [hcount]; omega)⟩
      | refused ho hp hs hcount =>
          rw [ho, if_neg Bool.false_ne_true]
          refine ⟨hs, (P.used_return _ _).trans ?_⟩
          rw [htake, hcount]
          omega
      | parked ho hp hcount => exact absurd hp (hk ht)

theorem not_conserved_tickStream {base : Nat} (h : Sound l)
    (hc : P.used k l.info.streamId = base + l.count)
    (ht : StreamProducer.takes P rand l.info k = true) (hp : l.Parks) :
    P.used (l.tickStream P now rand k).1 l.info.streamId ≠
      base + (l.tickStream P now rand k).2.count := by
  have htake := (StreamProducer.used_takes ht).2
  rw [hc] at htake
  rw [tickStream_takes ht]
  cases offer_cases h now with
  | taken ho hp' => exact absurd hp hp'
  | refused ho hp' => exact absurd hp hp'
  | parked ho hp' hcount =>
      rw [ho, if_pos rfl]
      show P.used (P.tryGetCredit l.info.streamId k).2 l.info.streamId ≠ base + (l.sent now).count
      rw [htake]
      omega

end Tick

/-! ## 7. The numbers of the accepted packets -/

/-- The packets are numbered in the order in which they were accepted. -/
def Numbered (l : Lane) : Prop :=
  l.accepted = (List.range l.info.sentCount.toNat).map UInt64.ofNat ∧
    l.info.sentCount ≤ l.info.totalPackets

theorem numbered_create (x : LaneShape) : Numbered (create x) := ⟨rfl, UInt64.zero_le⟩

theorem numbered_step {l : Lane} (h : Numbered l) (a : Action) : Numbered (l.step a) := by
  rw [Numbered, step_info, step_accepted]
  exact h

theorem numbered_tickStream {P : CreditPool} {l : Lane} (h : Numbered l) (now : UInt64)
    (rand : Nat) (k : P.Carrier) : Numbered (l.tickStream P now rand k).2 := by
  cases ht : StreamProducer.takes P rand l.info k with
  | false =>
      rw [(tickStream_idle now ht).1]
      exact h
  | true =>
      rw [tickStream_takes ht]
      cases l.offered now with
      | false => exact h
      | true =>
          have hnat := UInt64.lt_iff_toNat_lt.mp (StreamProducer.used_takes ht).1
          have htotal := l.info.totalPackets.toNat_lt
          have hsucc : (l.info.sentCount + 1).toNat = l.info.sentCount.toNat + 1 := by
            rw [UInt64.toNat_add, UInt64.toNat_one]
            omega
          refine ⟨?_, ?_⟩
          · show l.accepted ++ [l.info.sentCount] =
              (List.range (l.info.sentCount + 1).toNat).map UInt64.ofNat
            rw [hsucc, List.range_succ, List.map_append, ← h.1, List.map_singleton,
              UInt64.ofNat_toNat]
          · show l.info.sentCount + 1 ≤ l.info.totalPackets
            rw [UInt64.le_iff_toNat_le, hsucc]
            exact hnat

end Gem5Sc.Lane
