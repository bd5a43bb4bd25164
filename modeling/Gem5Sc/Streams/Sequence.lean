/-
  File:      Gem5Sc/Streams/Sequence.lean
  Subject:   A STREAM ARRIVES IN ORDER, whatever gets lost.

  A packet that the link cannot take stays with the producer, which numbers the next one the same,
  or it is queued at the sending port. What is queued there stays there, and so do all packets that
  come after it. So what the consumer has received, and what waits for it, are the first packets
  of the stream (`InLine`), and all of them as long as nothing is queued (`stream_in_order`). No
  step has to be excluded here: packets that have been deleted keep their places.
-/
import Gem5Sc.Modules.Issued
import Gem5Sc.Streams.Credits

namespace Gem5Sc

/-! ## 1. The ports and the heap -/

theorem UpstreamPort.recv_keeps (now : UInt64) (u : UpstreamPort) (p : PacketId) (h : Heap) :
    h.Keeps (u.recv now p h).2.2 := by
  have hstamp := (Heap.Touch.arrive (h := h) p now).keeps
  unfold recv recvReq
  dsimp only
  split
  · have htwice := hstamp.trans (Heap.Touch.arrive p now).keeps
    split
    · exact htwice
    · exact htwice.trans (Heap.Touch.delete p).keeps
  · exact hstamp.trans (Heap.Touch.delete p).keeps

theorem Link.sendReq_keeps (l : Link) (pkt : Packet) (now : UInt64) :
    (l.heap.new pkt).2.Keeps (l.sendReq pkt now).heap := by
  have hqueue : ∀ (d : DownstreamPort) (i : Nat) (w : Heap × UpstreamPort),
      w.1.Keeps (d.enqueueOrDrop i (l.heap.new pkt).1 w).2.2.1 := by
    intro d i w
    unfold DownstreamPort.enqueueOrDrop
    dsimp only
    split
    · exact Heap.Keeps.refl _
    · exact (Heap.Touch.delete _).keeps
  have hrecv := l.up.recv_keeps now (l.heap.new pkt).1 (l.heap.new pkt).2
  show (l.heap.new pkt).2.Keeps (l.down.sendReq (Link.peer now) (l.heap.new pkt).1
    ((l.heap.new pkt).2, l.up)).2.2.1
  unfold DownstreamPort.sendReq
  dsimp only
  split
  · split
    · split
      · exact hrecv
      · exact hrecv.trans (hqueue _ _ (l.down.toMasterPort.send (Link.peer now)
          (l.heap.new pkt).1 ((l.heap.new pkt).2, l.up)).2.2)
    · exact hqueue _ _ ((l.heap.new pkt).2, l.up)
  · exact (Heap.Touch.delete _).keeps

/-- What the owner does to the heap, the tick of a port does. -/
theorem UpstreamPort.tick_heap {ρ : Type} {handle : Handler ρ}
    (hhandle : ∀ p id label (w : Heap × ρ), w.1.Keeps (handle p id label w).2.1) (u : UpstreamPort)
    (w : Heap × ρ) : w.1.Keeps (u.tick handle w).2.1 := by
  refine List.foldlRecOn (motive := fun s : UpstreamPort × (Heap × ρ) => w.1.Keeps s.2.1)
    (List.range u.inputVcs.length) (tickVc handle) (Heap.Keeps.refl _) fun s hs i _ => ?_
  unfold tickVc
  split
  · exact hs
  · dsimp only
    split <;> exact hs.trans (hhandle _ _ _ _)

namespace Lane

/-! ## 2. The first packets of the stream -/

/-- The numbers of the packets that wait for the consumer. -/
def waiting (l : Lane) : List UInt64 := (l.link.inp 0).map fun p => (l.link.heap.packet p).seqNum

/-- `got` has been received, and what waits comes next. -/
structure InLine (l : Lane) (got : List UInt64) : Prop where
  out : ∀ v, v ≠ 0 → l.link.out v = []
  inp : ∀ v, v ≠ 0 → l.link.inp v = []
  outVc : ∀ p ∈ l.link.out 0, p < l.link.heap.nextPacket ∧ l.link.vcOf p = 0
  inpLt : ∀ p ∈ l.link.inp 0, p < l.link.heap.nextPacket
  creditOut : ∀ v, (l.creditOut.vc v).buffer = []
  isPrefix : got ++ l.waiting <+: l.accepted
  whole : l.link.out 0 = [] → got ++ l.waiting = l.accepted

/-- The numbers of the packets that come to the consumer in a step. -/
def received (l : Lane) (a : Action) : List UInt64 :=
  ((l.step a).held.drop l.held.length).map fun p => (l.link.heap.packet p).seqNum

theorem inLine_create (x : LaneShape) : InLine (create x) [] := by
  have hinp : (create x).link.inp 0 = [] := Link.inp_create ..
  have hout : (create x).link.out 0 = [] := Link.out_create ..
  exact ⟨fun _ _ => Link.out_create .., fun _ _ => Link.inp_create ..,
    fun p hp => absurd (hout ▸ hp) List.not_mem_nil,
    fun p hp => absurd (hinp ▸ hp) List.not_mem_nil,
    fun _ => DownstreamPort.create_buffer .., by rw [waiting, hinp]; exact List.nil_prefix,
    fun _ => by rw [waiting, hinp]; rfl⟩

namespace InLine

variable {l l' : Lane} {got : List UInt64}

theorem waiting_of_keeps (h : InLine l got) (hk : l.link.heap.Keeps l'.link.heap)
    (hinp : l'.link.inp 0 = l.link.inp 0) : l'.waiting = l.waiting := by
  rw [waiting, waiting, hinp]
  exact List.map_congr_left fun p hp => hk.field Packet.seqNum (fun _ _ => rfl) (h.inpLt p hp)

/-- **A step that moves no packet**, or turns the output channels round. -/
theorem quiet (h : InLine l got) (hk : l.link.heap.Keeps l'.link.heap)
    (hinp : l'.link.inp = l.link.inp) (hout : ∀ v, (l'.link.out v).Perm (l.link.out v))
    (hcredit : ∀ v, (l'.creditOut.vc v).buffer = []) (hacc : l'.accepted = l.accepted) :
    InLine l' got := by
  have hwaiting := h.waiting_of_keeps hk (congrFun hinp 0)
  have hnil : ∀ v, l.link.out v = [] → l'.link.out v = [] := fun v hv =>
    List.perm_nil.mp (hv ▸ hout v)
  refine ⟨fun v hv => hnil v (h.out v hv), fun v hv => (congrFun hinp v).trans (h.inp v hv),
    fun p hp => ?_, fun p hp => ?_, hcredit, ?_, fun hv => ?_⟩
  · obtain ⟨hlt, hvc⟩ := h.outVc p ((hout 0).mem_iff.mp hp)
    exact ⟨Nat.lt_of_lt_of_le hlt hk.nextPacket,
      (hk.field Packet.vcId (fun _ _ => rfl) hlt).trans hvc⟩
  · exact Nat.lt_of_lt_of_le (h.inpLt p (congrFun hinp 0 ▸ hp)) hk.nextPacket
  · rw [hwaiting, hacc]
    exact h.isPrefix
  · rw [hwaiting, hacc]
    exact h.whole (List.perm_nil.mp (hv ▸ (hout 0).symm))

/-- The tick of the sending port turns the channels round. -/
theorem downTick (h : InLine l got) (now : UInt64) : InLine (l.step (.downTick now)) got := by
  have hall : (l.link.downTick now).up = l.link.up ∧
      l.link.heap.Keeps (l.link.downTick now).heap ∧
      ∀ v, ((l.link.downTick now).out v).Perm (l.link.out v) := by
    rw [Link.downTick_eq]
    refine Library.run_invariant (I := fun k : Link => k.up = l.link.up ∧
      l.link.heap.Keeps k.heap ∧ ∀ v, (k.out v).Perm (l.link.out v))
      ⟨rfl, Heap.Keeps.refl _, fun _ => .refl _⟩ (fun k i ⟨hup, hk, hout⟩ => ?_) _
    have hvc : ∀ p ∈ k.out i, k.vcOf p = i := by
      intro p hp
      have hp' := (hout i).mem_iff.mp hp
      by_cases hi : i = 0
      · subst hi
        obtain ⟨hlt, hvc⟩ := h.outVc p hp'
        exact (hk.field Packet.vcId (fun _ _ => rfl) hlt).trans hvc
      · exact absurd (h.out i hi ▸ hp') List.not_mem_nil
    obtain ⟨hc, hup', -⟩ := k.forward_cases now i hvc
    refine ⟨hup'.trans hup, ?_⟩
    cases hc with
    | idle _ he =>
        rw [he]
        exact ⟨hk, hout⟩
    | dropped p rest hb hout' hheap =>
        exact ⟨hheap ▸ hk.trans (Heap.Touch.delete p).keeps, fun v => hout' ▸ hout v⟩
    | rotated p rest hb hout' hheap =>
        refine ⟨hheap ▸ hk.trans (Heap.Touch.delete p).keeps, fun v => ?_⟩
        rw [hout']
        by_cases hv : v = i
        · subst hv
          rw [Function.update_self]
          exact (List.perm_append_singleton p rest).trans (hb ▸ hout v)
        · rw [Function.update_of_ne hv]
          exact hout v
  obtain ⟨hup, hk, hout⟩ := hall
  refine h.quiet hk ?_ hout h.creditOut rfl
  show (l.link.downTick now).inp = l.link.inp
  unfold Link.inp
  rw [hup]

theorem complete (h : InLine l got) (i : Nat) (now : UInt64) :
    InLine (l.step (.complete i now)) got := by
  cases hi : l.held[i]? with
  | none =>
      rw [step, hi]
      exact h
  | some p =>
      obtain ⟨d, hd, heq⟩ := step_complete hi now
      rw [heq]
      have hk : l.link.heap.Keeps ((l.creditIn.recv now l.link.heap.nextPacket
          (StreamConsumer.newCredit now p l.link.heap).2).2.2.delete p) :=
        ((l.link.heap.new_keeps _).trans (l.creditIn.recv_keeps now _ _)).trans
          (Heap.Touch.delete p).keeps
      refine h.quiet hk rfl (fun _ => .refl _) (fun v => ?_) rfl
      show (d.vc v).buffer = []
      rw [DownstreamPort.vc, hd]
      exact h.creditOut v

theorem creditTick (h : InLine l got) : InLine (l.step .creditTick) got :=
  h.quiet (l.creditIn.tick_heap (fun p _ _ _ => (Heap.Touch.delete p).keeps) (l.link.heap, ()))
    rfl (fun _ => .refl _) h.creditOut rfl

/-- The consumer takes the first packet, or none. -/
theorem inTick_cases (h : InLine l got) (direct : Bool) :
    (∃ hp, l.link.heap.Keeps hp ∧
      l.step (.inTick direct) = { l with link := { l.link with heap := hp } }) ∨
    ∃ p rest, l.link.inp 0 = p :: rest ∧ l.step (.inTick direct) =
      { l with link := { l.link with up := l.link.up.setVc 0 (l.link.up.vc 0).pop },
               held := l.held ++ [p] } := by
  rw [step, UpstreamPort.tick_of_zero h.inp, UpstreamPort.tickVc]
  cases hb : (l.link.up.vc 0).buffer with
  | nil => exact Or.inl ⟨l.link.heap, Heap.Keeps.refl _, rfl⟩
  | cons p rest =>
      simp only [handle_eq]
      cases takes direct l.upstream with
      | true => exact Or.inr ⟨p, rest, hb, rfl⟩
      | false => exact Or.inl ⟨l.link.heap.delete p, (Heap.Touch.delete p).keeps, rfl⟩

/-- **The consumer receives what comes next**, or nothing. -/
theorem inTick (h : InLine l got) (direct : Bool) :
    InLine (l.step (.inTick direct)) (got ++ l.received (.inTick direct)) := by
  rcases h.inTick_cases direct with ⟨hp, hk, heq⟩ | ⟨p, rest, hb, heq⟩
  · have hnone : l.received (.inTick direct) = [] := by
      rw [received, heq, List.drop_length]
      rfl
    rw [hnone, List.append_nil, heq]
    exact h.quiet hk rfl (fun _ => .refl _) h.creditOut rfl
  · have hone : l.received (.inTick direct) = [(l.link.heap.packet p).seqNum] := by
      rw [received, heq, List.drop_left]
      rfl
    have hlt : 0 < l.link.up.inputVcs.length := Link.lt_of_inp_cons hb
    have hzero : (l.step (.inTick direct)).link.inp 0 = rest := by
      rw [heq]
      show ((l.link.up.setVc 0 (l.link.up.vc 0).pop).vc 0).buffer = rest
      rw [UpstreamPort.setVc_vc_self hlt, InputVC.pop_buffer]
      exact congrArg List.tail hb
    have hother : ∀ v, v ≠ 0 → (l.step (.inTick direct)).link.inp v = [] := by
      intro v hv
      rw [heq]
      exact (congrArg InputVC.buffer (UpstreamPort.setVc_vc_ne _ (Ne.symm hv) _)).trans (h.inp v hv)
    have hline : got ++ l.received (.inTick direct) ++ (l.step (.inTick direct)).waiting =
        got ++ l.waiting := by
      rw [hone, waiting, hzero, waiting, hb, List.append_assoc, heq]
      rfl
    have hsame : (l.step (.inTick direct)).link.heap = l.link.heap ∧
        (l.step (.inTick direct)).link.down = l.link.down ∧
        (l.step (.inTick direct)).creditOut = l.creditOut ∧
        (l.step (.inTick direct)).accepted = l.accepted := by
      rw [heq]
      exact ⟨rfl, rfl, rfl, rfl⟩
    obtain ⟨hheap, hdown, hcredit, hacc⟩ := hsame
    have hout : (l.step (.inTick direct)).link.out = l.link.out := by
      unfold Link.out
      rw [hdown]
    refine ⟨fun v hv => (congrFun hout v).trans (h.out v hv), hother, fun q hq => ?_,
      fun q hq => ?_, fun v => hcredit ▸ h.creditOut v, ?_, fun hv => ?_⟩
    · rw [Link.vcOf, hheap]
      exact h.outVc q (congrFun hout 0 ▸ hq)
    · rw [hheap]
      exact h.inpLt q (hb ▸ List.mem_cons_of_mem p (hzero ▸ hq))
    · rw [hline, hacc]
      exact h.isPrefix
    · rw [hline, hacc]
      exact h.whole (congrFun hout 0 ▸ hv)

/-- **A step of the lane.** -/
theorem step (h : InLine l got) (a : Action) : InLine (l.step a) (got ++ l.received a) := by
  have hnone : ∀ {a : Action}, (l.step a).held.length ≤ l.held.length → InLine (l.step a) got →
      InLine (l.step a) (got ++ l.received a) := by
    intro a hlen ha
    rw [received, List.drop_eq_nil_of_le hlen, List.map_nil, List.append_nil]
    exact ha
  cases a with
  | downTick now => exact hnone (Nat.le_refl _) (h.downTick now)
  | inTick direct => exact h.inTick direct
  | complete i now =>
      refine hnone ?_ (h.complete i now)
      rw [Lane.step]
      split
      · exact Nat.le_refl _
      · exact List.length_eraseIdx_le _ _
  | creditOutTick now =>
      have heq : l.step (.creditOutTick now) = l := by
        rw [Lane.step, DownstreamPort.tick_of_empty h.creditOut]
      exact hnone (heq.symm ▸ Nat.le_refl _) (heq.symm ▸ h)
  | creditTick => exact hnone (Nat.le_refl _) h.creditTick

/-! ## 3. The next packet -/

theorem keeps_ready (l : Lane) (now : UInt64) :
    l.link.heap.Keeps (l.ready.sendReq (l.nextData now) now).heap :=
  ((Heap.Touch.blank (h := l.link.heap) _).keeps.trans (l.ready.heap.new_keeps _)).trans
    (l.ready.sendReq_keeps (l.nextData now) now)

/-- The packet is refused. -/
theorem withdrawn (h : InLine l got) (now : UInt64)
    (hout : (l.ready.sendReq (l.nextData now) now).out = l.link.out)
    (hinp : (l.ready.sendReq (l.nextData now) now).inp = l.link.inp) :
    InLine (l.withdrawn now) got :=
  h.quiet ((keeps_ready l now).trans (Heap.Touch.delete l.link.heap.nextPacket).keeps) hinp
    (fun v => List.Perm.of_eq (congrFun hout v)) h.creditOut rfl

/-- The packet is queued at the sending port: from now on nothing comes through. -/
theorem parked (h : InLine l got) (now : UInt64) {x : List PacketId} (hx : x ≠ [])
    (hmem : ∀ q ∈ x, q ∈ l.link.out 0 ∨ q = l.link.heap.nextPacket)
    (hout : (l.ready.sendReq (l.nextData now) now).out = Function.update l.link.out 0 x)
    (hinp : (l.ready.sendReq (l.nextData now) now).inp = l.link.inp) : InLine (l.sent now) got := by
  have hk := keeps_ready l now
  obtain ⟨-, hkept⟩ := l.ready.sendReq_cases (l.nextData now) now
  have hin : (l.sent now).link.inp 0 = l.link.inp 0 := congrFun hinp 0
  have hwaiting : (l.sent now).waiting = l.waiting := h.waiting_of_keeps hk hin
  have hzero : (l.sent now).link.out 0 = x := (congrFun hout 0).trans (Function.update_self ..)
  refine ⟨fun v hv => (congrFun hout v).trans ((Function.update_of_ne hv ..).trans (h.out v hv)),
    fun v hv => (congrFun hinp v).trans (h.inp v hv), fun q hq => ?_, fun q hq => ?_, h.creditOut,
    ?_, fun hv => absurd (hzero.symm.trans hv) hx⟩
  · rcases hmem q (hzero ▸ hq) with hq | rfl
    · obtain ⟨hlt, hvc⟩ := h.outVc q hq
      exact ⟨Nat.lt_of_lt_of_le hlt hk.nextPacket,
        (hk.field Packet.vcId (fun _ _ => rfl) hlt).trans hvc⟩
    · exact ⟨Nat.lt_of_lt_of_le (Nat.lt_succ_self _) (Nat.le_of_eq hkept.next.symm),
        hkept.vcOf_new⟩
  · exact Nat.lt_of_lt_of_le (h.inpLt q (congrFun hinp 0 ▸ hq)) hk.nextPacket
  · rw [hwaiting]
    exact h.isPrefix.trans (List.prefix_append _ _)

/-- The packet comes to the consumer's port, behind all others. -/
theorem direct (h : InLine l got) (now : UInt64) (hnil : l.link.out 0 = [])
    (hout : (l.ready.sendReq (l.nextData now) now).out = l.link.out)
    (hinp : (l.ready.sendReq (l.nextData now) now).inp =
      Function.update l.link.inp 0 (l.link.inp 0 ++ [l.link.heap.nextPacket])) :
    InLine (l.sent now) got := by
  have hk := keeps_ready l now
  obtain ⟨-, hkept⟩ := l.ready.sendReq_cases (l.nextData now) now
  have hzero : (l.sent now).link.inp 0 = l.link.inp 0 ++ [l.link.heap.nextPacket] :=
    (congrFun hinp 0).trans (Function.update_self ..)
  have hnumber : ((l.sent now).link.heap.packet l.link.heap.nextPacket).seqNum =
      l.info.sentCount := by
    refine ((l.ready.sendReq_keeps (l.nextData now) now).field Packet.seqNum (fun _ _ => rfl)
      (Nat.lt_succ_self _)).trans ?_
    exact congrArg Packet.seqNum (Heap.new_packet_self l.ready.heap (l.nextData now))
  have hwaiting : (l.sent now).waiting = l.waiting ++ [l.info.sentCount] := by
    rw [waiting, hzero, List.map_append, List.map_singleton, hnumber, waiting]
    exact congrArg (· ++ [l.info.sentCount]) (List.map_congr_left fun p hp =>
      hk.field Packet.seqNum (fun _ _ => rfl) (h.inpLt p hp))
  have hwhole : got ++ (l.sent now).waiting = (l.sent now).accepted := by
    rw [hwaiting, ← List.append_assoc, h.whole hnil]
    rfl
  refine ⟨fun v hv => (congrFun hout v).trans (h.out v hv),
    fun v hv => (congrFun hinp v).trans ((Function.update_of_ne hv ..).trans (h.inp v hv)),
    fun q hq => absurd (hnil ▸ congrFun hout 0 ▸ hq) List.not_mem_nil, fun q hq => ?_, h.creditOut,
    hwhole ▸ List.prefix_refl _, fun _ => hwhole⟩
  rw [hzero] at hq
  rcases List.mem_append.mp hq with hq | hq
  · exact Nat.lt_of_lt_of_le (h.inpLt q hq) hk.nextPacket
  · rw [List.mem_singleton.mp hq]
    exact Nat.lt_of_lt_of_le (Nat.lt_succ_self _) (Nat.le_of_eq hkept.next.symm)

/-- **The tick of the producer.** -/
theorem tickStream {P : CreditPool} (h : InLine l got) (now : UInt64) (rand : Nat)
    (k : P.Carrier) : InLine (l.tickStream P now rand k).2 got := by
  cases ht : StreamProducer.takes P rand l.info k with
  | false =>
      rw [(tickStream_idle now ht).1]
      exact h
  | true =>
      rw [tickStream_takes ht]
      obtain ⟨hc, -⟩ := l.ready.sendReq_cases (l.nextData now) now
      cases hc with
      | invalid hv hout hinp hsent hrel =>
          rw [offered_eq_false hsent]
          exact h.withdrawn now hout hinp
      | dropped hv hne hout hinp hsent hrel =>
          rw [offered_eq_false hsent]
          exact h.withdrawn now hout hinp
      | refusedDropped hv he ha hout hinp hsent hrel =>
          rw [offered_eq_false hsent]
          exact h.withdrawn now hout hinp
      | queued hv hne hout hinp hsent hrel =>
          rw [offered_eq_true hsent]
          exact h.parked now (by simp) (fun q hq => (List.mem_append.mp hq).imp id
            List.mem_singleton.mp) hout hinp
      | refusedQueued hv he ha hout hinp hsent hrel =>
          rw [offered_eq_true hsent]
          exact h.parked now (List.cons_ne_nil _ _) (fun q hq => Or.inr (List.mem_singleton.mp hq))
            hout hinp
      | direct hv he ha hout hinp hsent hrel =>
          rw [offered_eq_true hsent]
          exact h.direct now he hout hinp

end InLine

end Lane

/-! ## 4. Every run -/

namespace Producer

variable {P : CreditPool}

/-- The numbers of the packets of stream `i` that come to the consumer in a step. -/
def received (i : Nat) (s : Producer P) : Action → List UInt64
  | .tick _ _ => []
  | .lane j a => if j = i then (s.lanes[i]?).elim [] (·.received a) else []

/-- A stream in the loop of the tick. -/
theorem tickLanes_getElem? (now : UInt64) (rands : Nat → Nat) {ls : List Lane} {n i : Nat}
    {k : P.Carrier} {l' : Lane} (hl : (tickLanes P now rands n k ls).2[i]? = some l') :
    ∃ l rand k', ls[i]? = some l ∧ l' = (l.tickStream P now rand k').2 := by
  induction ls generalizing n i k with
  | nil => cases hl
  | cons l ls ih =>
      cases i with
      | zero => exact ⟨l, rands n, k, rfl, (Option.some.inj hl).symm⟩
      | succ i => exact ih hl

/-- **A STREAM ARRIVES IN ORDER.** For every producer and credit pool, each of its streams and every
    run of ticks, completions and credits in any order, whatever the consumer's port takes and
    whatever gets lost: the packets the consumer has received carry the numbers 0, 1, 2, .. in this
    order, without a gap, and are no more than have been sent. When neither port holds a packet of
    the stream they are all that have been sent. -/
theorem stream_in_order (P : CreditPool) (pool : P.Carrier) (shapes : List LaneShape) (i : Nat)
    (acts : List Action) (l : Lane)
    (hl : (Library.run step (create P pool shapes) acts).lanes[i]? = some l) :
    Library.collect step (received i) (create P pool shapes) acts <+:
        (List.range l.info.sentCount.toNat).map UInt64.ofNat ∧
      (l.link.out 0 = [] → l.link.inp 0 = [] →
        Library.collect step (received i) (create P pool shapes) acts =
          (List.range l.info.sentCount.toNat).map UInt64.ofNat) := by
  have hall : ∀ l, (Library.run step (create P pool shapes) acts).lanes[i]? = some l →
      l.InLine (Library.collect step (received i) (create P pool shapes) acts) ∧ l.Numbered := by
    refine Library.collect_invariant (I := fun (s : Producer P) got =>
      ∀ l, s.lanes[i]? = some l → l.InLine got ∧ l.Numbered) (fun l hl => ?_)
      (fun s got a hs l' hl' => ?_) acts
    · obtain ⟨x, -, rfl⟩ := List.mem_map.mp (List.mem_of_getElem? hl)
      exact ⟨Lane.inLine_create x, Lane.numbered_create x⟩
    · cases a with
      | tick now rands =>
          obtain ⟨l, rand, k, hl, rfl⟩ := tickLanes_getElem? now rands hl'
          obtain ⟨hline, hnumbered⟩ := hs l hl
          rw [received, List.append_nil]
          exact ⟨hline.tickStream now rand k, Lane.numbered_tickStream hnumbered ..⟩
      | lane j a =>
          obtain ⟨l, hl, rfl⟩ := lane_of_step hl'
          obtain ⟨hline, hnumbered⟩ := hs l hl
          rw [received, hl]
          by_cases hj : j = i
          · rw [if_pos hj, if_pos hj]
            exact ⟨hline.step a, Lane.numbered_step hnumbered a⟩
          · rw [if_neg hj, if_neg hj, List.append_nil]
            exact ⟨hline, hnumbered⟩
  obtain ⟨hline, hnumbered, -⟩ := hall l hl
  rw [← hnumbered]
  refine ⟨(List.prefix_append _ _).trans hline.isPrefix, fun hout hinp => ?_⟩
  have hwhole := hline.whole hout
  rwa [Lane.waiting, hinp, List.map_nil, List.append_nil] at hwhole

/-- Two packets are sent; one is received and one waits. -/
theorem stream_in_order_one_received : ∃ l,
    (Library.run step
      (create (CreditPool.counting 8) (fun _ => 0) [{ streamId := 1001, totalPackets := 3 }])
      [.tick 0 fun _ => 0, .tick 1 fun _ => 0, .lane 0 (.inTick true)]).lanes[0]? = some l ∧
    (Library.collect step (received 0)
        (create (CreditPool.counting 8) (fun _ => 0) [{ streamId := 1001, totalPackets := 3 }])
        [.tick 0 fun _ => 0, .tick 1 fun _ => 0, .lane 0 (.inTick true)] <+:
      (List.range l.info.sentCount.toNat).map UInt64.ofNat ∧
    (l.link.out 0 = [] → l.link.inp 0 = [] →
      Library.collect step (received 0)
        (create (CreditPool.counting 8) (fun _ => 0) [{ streamId := 1001, totalPackets := 3 }])
        [.tick 0 fun _ => 0, .tick 1 fun _ => 0, .lane 0 (.inTick true)] =
      (List.range l.info.sentCount.toNat).map UInt64.ofNat)) :=
  ⟨_, rfl, stream_in_order (CreditPool.counting 8) (fun _ => 0)
    [{ streamId := 1001, totalPackets := 3 }] 0
    [.tick 0 fun _ => 0, .tick 1 fun _ => 0, .lane 0 (.inTick true)] _ rfl⟩

example : Library.collect step (received 0)
    (create (CreditPool.counting 8) (fun _ => 0) [{ streamId := 1001, totalPackets := 3 }])
    [.tick 0 fun _ => 0, .tick 1 fun _ => 0, .lane 0 (.inTick true)] = [0] := by decide

end Producer

end Gem5Sc
