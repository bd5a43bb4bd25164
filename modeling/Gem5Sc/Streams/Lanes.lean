/-
  File:      Gem5Sc/Streams/Lanes.lean
  Subject:   ONE STREAM ON ITS WAY: the link to the consumer, the packets the consumer holds, and
             the link on which the credits come back.

  A producer has a lane for each of its streams. The lanes share the credit pool and nothing else,
  so each has a store of its own. `step` is what happens to a lane besides the `tick` of the
  producer, and `tickStream` what that `tick` does for it.

  `Sound` says of a lane that it has lost nothing: each of its packets is alive and in one place,
  and nothing is queued in a `DownstreamPort`. Then `count`, the live packets of the stream, is the
  sum of three lengths (`Sound.count_eq_lengths`).
-/
import Gem5Sc.Link.Ownership
import Gem5Sc.Streams
import Mathlib.Data.List.Count

namespace Gem5Sc

/-! ## 1. Lanes -/

/-- What belongs to one stream. -/
structure Lane where
  info : StreamInfo
  /-- The producer's downstream port and the `in` port of the consumer. -/
  link : Link
  /-- The packets whose completion is pending. -/
  held : List PacketId := []
  /-- The `credit_out` port of the consumer, and the upstream port of the producer. -/
  creditOut : DownstreamPort
  creditIn : UpstreamPort
  /-- How many upstream ports the consumer has. -/
  upstream : Nat := 1
  /-- The `seq_num` of the packets `sendReq` has accepted. -/
  accepted : List UInt64 := []

/-- How a lane is set up: the stream, and the sizes and priorities of its four ports. -/
structure LaneShape where
  streamId : UInt64
  totalPackets : UInt64
  outSizes : List Nat := [4]
  outPriorities : List Nat := []
  inSizes : List Nat := [4]
  inPriorities : List Nat := []
  creditOutSizes : List Nat := [4]
  creditOutPriorities : List Nat := []
  creditInSizes : List Nat := [4]
  creditInPriorities : List Nat := []
  upstream : Nat := 1
  deriving Repr

namespace Lane

def create (x : LaneShape) : Lane where
  info := { streamId := x.streamId, totalPackets := x.totalPackets }
  link := Link.create x.outSizes x.outPriorities x.inSizes x.inPriorities
  creditOut := DownstreamPort.create 0 x.creditOutSizes x.creditOutPriorities "credit_out"
  creditIn := UpstreamPort.create 0 x.creditInSizes x.creditInPriorities ""
  upstream := x.upstream

/-- `ports[i]->sendReq`, with a note of what it accepts. -/
def sendReq (now : UInt64) (p : PacketId) (w : Heap × (Link × List UInt64)) :
    Bool × (Heap × (Link × List UInt64)) :=
  let r := w.2.1.down.sendReq (Link.peer now) p (w.1, w.2.1.up)
  let link := w.2.1.afterSend p r
  (r.1, (link.heap, (link, if r.1 then w.2.2 ++ [(w.1.packet p).seqNum] else w.2.2)))

/-- The loop body of the producer's `tick` for this stream. -/
def tickStream (P : CreditPool) (now : UInt64) (rand : Nat) (l : Lane) (k : P.Carrier) :
    P.Carrier × Lane :=
  let r := StreamProducer.tickStream P (sendReq now) now rand l.info k
    (l.link.heap, (l.link, l.accepted))
  (r.2.1, { l with info := r.1, link := { r.2.2.2.1 with heap := r.2.2.1 },
                   accepted := r.2.2.2.2 })

/-- The handler behind the `in` port: the consumer's own function, or that of `SimObject`. -/
def handle (direct : Bool) (upstream : Nat) : Handler (List PacketId) := fun p _ _ w =>
  if direct then StreamConsumer.handleUpstreamRequest upstream (fun p _ held => held ++ [p]) p w
  else SimObject.handleDefault p w

/-- `credit_out`'s `send`. -/
def sendCredit (now : UInt64) (p : PacketId) (w : Heap × (DownstreamPort × UpstreamPort)) :
    Bool × (Heap × (DownstreamPort × UpstreamPort)) :=
  let r := w.2.1.toMasterPort.send (Link.peer now) p (w.1, w.2.2)
  (r.1, (r.2.2.1, ({ w.2.1 with toMasterPort := r.2.1 }, r.2.2.2)))

/-- What happens to a lane besides the `tick` of the producer. -/
inductive Action where
  /-- The `tick` of the producer's downstream port. -/
  | downTick (now : UInt64)
  /-- The `tick` of the consumer's `in` port. -/
  | inTick (direct : Bool)
  /-- The `i`-th pending completion runs. -/
  | complete (i : Nat) (now : UInt64)
  /-- The `tick` of `credit_out`. -/
  | creditOutTick (now : UInt64)
  /-- The `tick` of the producer's upstream port: the credits are delivered. -/
  | creditTick
  deriving Repr

def step (l : Lane) : Action → Lane
  | .downTick now => { l with link := l.link.downTick now }
  | .inTick direct =>
      let r := l.link.up.tick (handle direct l.upstream) (l.link.heap, l.held)
      { l with link := { l.link with heap := r.2.1, up := r.1 }, held := r.2.2 }
  | .complete i now =>
      match l.held[i]? with
      | none => l
      | some p =>
          let r := StreamConsumer.complete 1 (sendCredit now) now p
            (l.link.heap, (l.creditOut, l.creditIn))
          { l with link := { l.link with heap := r.1 }, held := l.held.eraseIdx i,
                   creditOut := r.2.1, creditIn := r.2.2 }
  | .creditOutTick now =>
      let r := l.creditOut.tick (Link.peer now) (l.link.heap, l.creditIn)
      { l with link := { l.link with heap := r.2.1 }, creditOut := r.1, creditIn := r.2.2 }
  | .creditTick =>
      let r := l.creditIn.tick (fun p _ _ w => StreamProducer.handleUpstreamRequest p w)
        (l.link.heap, ())
      { l with link := { l.link with heap := r.2.1 }, creditIn := r.1 }

/-! ### Where the packets are -/

/-- The data packets in flight or held by the consumer. -/
def data (l : Lane) : List PacketId := l.link.slots ++ l.held

/-- The credit packets in flight. -/
def credits (l : Lane) : List PacketId :=
  (List.range l.creditOut.outputVcs.length).flatMap (fun v => (l.creditOut.vc v).buffer) ++
    (List.range l.creditIn.inputVcs.length).flatMap fun v => (l.creditIn.vc v).buffer

/-- A live packet of the stream, of one of the two kinds. -/
def isLive (l : Lane) (credit : Bool) (p : PacketId) : Bool :=
  !(l.link.heap.released.contains p) && (l.link.heap.packet p).streamId == l.info.streamId &&
    if credit then (l.link.heap.packet p).isCredit else (l.link.heap.packet p).isStream

/-- How many there are. -/
def count (l : Lane) : Nat :=
  l.data.countP (l.isLive false) + l.credits.countP (l.isLive true)

end Lane

/-! ## 2. Ports of which only the first channel is in use -/

theorem flatMap_range_of_zero {f : Nat → List PacketId} {n : Nat} (h : ∀ v, v ≠ 0 → f v = [])
    (h0 : n = 0 → f 0 = []) : (List.range n).flatMap f = f 0 := by
  cases n with
  | zero => exact (h0 rfl).symm
  | succ n =>
      have hrest : ((List.range n).map Nat.succ).flatMap f = [] :=
        List.flatMap_eq_nil_iff.mpr fun v hv => by
          obtain ⟨w, -, rfl⟩ := List.mem_map.mp hv
          exact h _ (Nat.succ_ne_zero w)
      rw [List.range_succ_eq_map, List.flatMap_cons, hrest, List.append_nil]

variable {ρ : Type}

/-- A `DownstreamPort` with nothing queued does nothing in its `tick`. -/
theorem DownstreamPort.tick_of_empty {d : DownstreamPort} (h : ∀ v, (d.vc v).buffer = [])
    (peer : Peer ρ) (w : Heap × ρ) : d.tick peer w = (d, w) := by
  have hloop : ∀ is : List Nat,
      is.foldl (fun s i => (s.1.trySend peer i s.2).2) (d, w) = (d, w) := by
    intro is
    induction is with
    | nil => rfl
    | cons i is ih => rw [List.foldl_cons, DownstreamPort.trySend_nil (h i), ih]
  exact hloop _

/-- An `UpstreamPort` offers the head of its first channel only. -/
theorem UpstreamPort.tick_of_zero {u : UpstreamPort} (h : ∀ v, v ≠ 0 → (u.vc v).buffer = [])
    (handle : Handler ρ) (w : Heap × ρ) :
    u.tick handle w = UpstreamPort.tickVc handle (u, w) 0 := by
  have hidle : ∀ (is : List Nat) (s : UpstreamPort × (Heap × ρ)),
      (∀ i ∈ is, (s.1.vc i).buffer = []) → is.foldl (UpstreamPort.tickVc handle) s = s := by
    intro is
    induction is with
    | nil => exact fun _ _ => rfl
    | cons i is ih =>
        intro s hs
        have hi : UpstreamPort.tickVc handle s i = s := by
          rw [UpstreamPort.tickVc, hs i List.mem_cons_self]
        rw [List.foldl_cons, hi]
        exact ih s fun j hj => hs j (List.mem_cons_of_mem i hj)
  have hother : ∀ v, v ≠ 0 → ((UpstreamPort.tickVc handle (u, w) 0).1.vc v).buffer = [] := by
    intro v hv
    unfold UpstreamPort.tickVc
    split
    · exact h v hv
    · dsimp only
      split
      · rw [UpstreamPort.setVc_vc_ne _ (Ne.symm hv)]
        exact h v hv
      · exact h v hv
  unfold UpstreamPort.tick
  cases hn : u.inputVcs.length with
  | zero =>
      have hb : (u.vc 0).buffer = [] := by
        rw [UpstreamPort.vc_of_length_le (Nat.le_of_eq hn)]
        rfl
      rw [List.range_zero, List.foldl_nil, UpstreamPort.tickVc, hb]
  | succ n =>
      rw [List.range_succ_eq_map, List.foldl_cons]
      refine hidle _ _ fun i hi => ?_
      obtain ⟨j, -, rfl⟩ := List.mem_map.mp hi
      exact hother _ (Nat.succ_ne_zero j)

/-! ## 3. What the ports leave alone in a packet -/

/-- The packets issued before `h` keep their kind and their stream. -/
structure Heap.KeepsLabels (h h' : Heap) : Prop where
  next : h.nextPacket ≤ h'.nextPacket
  type : ∀ p, p < h.nextPacket → (h'.packet p).type = (h.packet p).type
  streamId : ∀ p, p < h.nextPacket → (h'.packet p).streamId = (h.packet p).streamId

namespace Heap

theorem KeepsLabels.refl (h : Heap) : KeepsLabels h h :=
  ⟨Nat.le_refl _, fun _ _ => rfl, fun _ _ => rfl⟩

theorem KeepsLabels.trans {h₁ h₂ h₃ : Heap} (h12 : KeepsLabels h₁ h₂) (h23 : KeepsLabels h₂ h₃) :
    KeepsLabels h₁ h₃ where
  next := Nat.le_trans h12.next h23.next
  type p hp := (h23.type p (Nat.lt_of_lt_of_le hp h12.next)).trans (h12.type p hp)
  streamId p hp := (h23.streamId p (Nat.lt_of_lt_of_le hp h12.next)).trans (h12.streamId p hp)

theorem keepsLabels_new (h : Heap) (x : Packet) : KeepsLabels h (h.new x).2 :=
  ⟨Nat.le_succ _, fun p hp => by rw [new_packet_of_lt h x hp],
    fun p hp => by rw [new_packet_of_lt h x hp]⟩

theorem keepsLabels_setDstCycle (h : Heap) (p : PacketId) (now : UInt64) :
    KeepsLabels h (h.setDstCycle p now) :=
  ⟨Nat.le_refl _, fun r _ => setDstCycle_field h p r now Packet.type fun _ _ => rfl,
    fun r _ => setDstCycle_field h p r now Packet.streamId fun _ _ => rfl⟩

theorem keepsLabels_delete (h : Heap) (p : PacketId) : KeepsLabels h (h.delete p) :=
  ⟨Nat.le_refl _, fun _ _ => rfl, fun _ _ => rfl⟩

end Heap

/-- The packets of `l` are alive and different. A released packet may be released again. -/
structure Heap.Holds (h : Heap) (l : List PacketId) : Prop where
  once : ∀ p, l.count p ≤ 1
  alive : ∀ p ∈ l, p ∉ h.released
  issued : ∀ p, p ∈ l ∨ p ∈ h.released → p < h.nextPacket

namespace Heap.Holds

variable {h : Heap} {l : List PacketId}

theorem lt (ho : Holds h l) {p : PacketId} (hp : p ∈ l) : p < h.nextPacket :=
  ho.issued p (Or.inl hp)

/-- Packets that change their place, or are lost. -/
theorem mono (ho : Holds h l) {l' : List PacketId} (hle : ∀ p, l'.count p ≤ l.count p) :
    Holds h l' := by
  have hmem : ∀ p, p ∈ l' → p ∈ l := fun p hp =>
    List.count_pos_iff.mp (Nat.lt_of_lt_of_le (List.count_pos_iff.mpr hp) (hle p))
  exact ⟨fun p => Nat.le_trans (hle p) (ho.once p), fun p hp => ho.alive p (hmem p hp),
    fun p hp => ho.issued p (hp.imp (hmem p) id)⟩

theorem congr (ho : Holds h l) {h' : Heap} (hn : h'.nextPacket = h.nextPacket)
    (hr : h'.released = h.released) : Holds h' l :=
  ⟨ho.once, fun p hp => hr ▸ ho.alive p hp, fun p hp => hn ▸ ho.issued p (hr ▸ hp)⟩

theorem new (ho : Holds h l) (x : Packet) : Holds (h.new x).2 (h.nextPacket :: l) := by
  have hnot : h.nextPacket ∉ l := fun hm => Nat.lt_irrefl _ (ho.lt hm)
  refine ⟨fun p => ?_, fun p hp => ?_, fun p hp => ?_⟩
  · rw [List.count_cons]
    by_cases hp : h.nextPacket = p
    · subst hp
      have hcount : l.count h.nextPacket = 0 := List.count_eq_zero_of_not_mem hnot
      rw [beq_self_eq_true, if_pos rfl]
      omega
    · rw [beq_eq_false_iff_ne.mpr hp, if_neg Bool.false_ne_true]
      exact ho.once p
  · rcases List.mem_cons.mp hp with rfl | hp
    · exact fun hr => Nat.lt_irrefl _ (ho.issued _ (Or.inr hr))
    · exact ho.alive p hp
  · rcases hp with hp | hp
    · rcases List.mem_cons.mp hp with rfl | hp
      · exact Nat.lt_succ_self _
      · exact Nat.lt_succ_of_lt (ho.lt hp)
    · exact Nat.lt_succ_of_lt (ho.issued p (Or.inr hp))

/-- A packet that is not there is deleted. -/
theorem deleteLost (ho : Holds h l) {p : PacketId} (hp : p ∉ l) (hlt : p < h.nextPacket) :
    Holds (h.delete p) l := by
  refine ⟨ho.once, fun q hq hr => ?_, fun q hq => ?_⟩
  · rcases List.mem_cons.mp hr with rfl | hr
    · exact hp hq
    · exact ho.alive q hq hr
  · rcases hq with hq | hq
    · exact ho.lt hq
    · rcases List.mem_cons.mp hq with rfl | hq
      · exact hlt
      · exact ho.issued q (Or.inr hq)

/-- A packet that is there is deleted. -/
theorem delete {p : PacketId} (ho : Holds h (p :: l)) : Holds (h.delete p) l := by
  have hp : p ∉ l := fun hm => by
    have h1 := ho.once p
    have h2 := List.count_pos_iff.mpr hm
    rw [List.count_cons_self] at h1
    omega
  exact (ho.mono fun q => (List.sublist_cons_self p l).count_le q).deleteLost hp
    (ho.lt List.mem_cons_self)

end Heap.Holds

theorem UpstreamPort.recv_keepsLabels (now : UInt64) (u : UpstreamPort) (p : PacketId) (h : Heap) :
    h.KeepsLabels (u.recv now p h).2.2 := by
  have h1 := h.keepsLabels_setDstCycle p now
  have h2 := h1.trans ((h.setDstCycle p now).keepsLabels_setDstCycle p now)
  unfold UpstreamPort.recv UpstreamPort.recvReq
  dsimp only
  split
  · split
    · exact h2
    · exact h2.trans (Heap.keepsLabels_delete _ p)
  · exact h1.trans (Heap.keepsLabels_delete _ p)

theorem Link.sendReq_keepsLabels (l : Link) (pkt : Packet) (now : UInt64) :
    (l.heap.new pkt).2.KeepsLabels (l.sendReq pkt now).heap := by
  have hrecv := l.up.recv_keepsLabels now (l.heap.new pkt).1 (l.heap.new pkt).2
  have hqueue : ∀ (d : DownstreamPort) (i : Nat) (w : Heap × UpstreamPort),
      w.1.KeepsLabels (d.enqueueOrDrop i (l.heap.new pkt).1 w).2.2.1 := by
    intro d i w
    unfold DownstreamPort.enqueueOrDrop
    dsimp only
    split
    · exact Heap.KeepsLabels.refl _
    · exact Heap.keepsLabels_delete _ _
  show (l.heap.new pkt).2.KeepsLabels (l.down.sendReq (Link.peer now) (l.heap.new pkt).1
    ((l.heap.new pkt).2, l.up)).2.2.1
  unfold DownstreamPort.sendReq
  dsimp only
  split
  · split
    · split
      · exact hrecv
      · exact hrecv.trans (hqueue _ _ (l.down.toMasterPort.send (Link.peer now)
          (l.heap.new pkt).1 ((l.heap.new pkt).2, l.up)).2.2)
    · exact hqueue _ _ ((l.heap.new pkt).2, l.up)
  · exact Heap.keepsLabels_delete _ _

/-! ## 4. One lane -/

namespace Lane

/-- Packets are in the first channels of the two receiving ports only. -/
structure Quiet (l : Lane) : Prop where
  out : ∀ v, l.link.out v = []
  inp : ∀ v, v ≠ 0 → l.link.inp v = []
  creditOut : ∀ v, (l.creditOut.vc v).buffer = []
  creditIn : ∀ v, v ≠ 0 → (l.creditIn.vc v).buffer = []

/-- A lane that has lost no packet: every one is in its place, once, and alive. -/
structure Sound (l : Lane) : Prop extends Quiet l where
  holds : l.link.heap.Holds ((l.link.inp 0 ++ l.held) ++ (l.creditIn.vc 0).buffer)
  isData : ∀ p ∈ l.link.inp 0 ++ l.held, (l.link.heap.packet p).type = .streamData ∧
    (l.link.heap.packet p).streamId = l.info.streamId
  isCredit : ∀ p ∈ (l.creditIn.vc 0).buffer, (l.link.heap.packet p).type = .creditReturn ∧
    (l.link.heap.packet p).streamId = l.info.streamId

namespace Sound

variable {l : Lane}

theorem slots_eq (h : Sound l) : l.link.slots = l.link.inp 0 := by
  have hout : (List.range l.link.down.outputVcs.length).flatMap l.link.out = [] :=
    List.flatMap_eq_nil_iff.mpr fun v _ => h.out v
  rw [Link.slots, hout, List.nil_append]
  refine flatMap_range_of_zero h.inp fun hn => ?_
  unfold Link.inp
  rw [UpstreamPort.vc_of_length_le (Nat.le_of_eq hn)]
  rfl

theorem data_eq (h : Sound l) : l.data = l.link.inp 0 ++ l.held := by
  rw [data, h.slots_eq]

theorem credits_eq (h : Sound l) : l.credits = (l.creditIn.vc 0).buffer := by
  have hout : (List.range l.creditOut.outputVcs.length).flatMap
      (fun v => (l.creditOut.vc v).buffer) = [] :=
    List.flatMap_eq_nil_iff.mpr fun v _ => h.creditOut v
  rw [credits, hout, List.nil_append]
  refine flatMap_range_of_zero h.creditIn fun hn => ?_
  rw [UpstreamPort.vc_of_length_le (Nat.le_of_eq hn)]
  rfl

/-- The credits are in the first channel. -/
theorem creditIn_buffer (h : Sound l) (v : Nat) :
    (l.creditIn.vc v).buffer = if 0 = v then (l.creditIn.vc 0).buffer else [] := by
  by_cases hv : 0 = v
  · rw [if_pos hv, hv]
  · rw [if_neg hv]
    exact h.creditIn v (Ne.symm hv)

theorem live_data (h : Sound l) : ∀ p ∈ l.data, l.isLive false p = true := by
  intro p hp
  rw [h.data_eq] at hp
  have halive := h.holds.alive p (List.mem_append_left _ hp)
  obtain ⟨ht, hs⟩ := h.isData p hp
  simp [isLive, halive, hs, Packet.isStream, ht]

theorem live_credits (h : Sound l) : ∀ p ∈ l.credits, l.isLive true p = true := by
  intro p hp
  rw [h.credits_eq] at hp
  have halive := h.holds.alive p (List.mem_append_right _ hp)
  obtain ⟨ht, hs⟩ := h.isCredit p hp
  simp [isLive, halive, hs, Packet.isCredit, ht]

theorem count_eq (h : Sound l) : l.count = l.data.length + l.credits.length := by
  rw [count, List.countP_eq_length.mpr h.live_data, List.countP_eq_length.mpr h.live_credits]

/-- The packets of a lane by number. -/
theorem count_eq_lengths (h : Sound l) :
    l.count = (l.link.inp 0).length + l.held.length + (l.creditIn.vc 0).buffer.length := by
  rw [h.count_eq, h.data_eq, h.credits_eq, List.length_append]

/-- A lane by its contents. -/
theorem of_contents (a held c : List PacketId) (hq : Quiet l) (ha : l.link.inp 0 = a)
    (hh : l.held = held) (hc : (l.creditIn.vc 0).buffer = c)
    (ho : l.link.heap.Holds ((a ++ held) ++ c))
    (hdata : ∀ p ∈ a ++ held, (l.link.heap.packet p).type = .streamData ∧
      (l.link.heap.packet p).streamId = l.info.streamId)
    (hcredit : ∀ p ∈ c, (l.link.heap.packet p).type = .creditReturn ∧
      (l.link.heap.packet p).streamId = l.info.streamId) :
    Sound l ∧ l.count = a.length + held.length + c.length := by
  subst ha hh hc
  have hs : Sound l := ⟨hq, ho, hdata, hcredit⟩
  exact ⟨hs, hs.count_eq_lengths⟩

/-- The lane after one of its packets has been deleted where it is. -/
theorem count_delete_lt (h : Sound l) {p : PacketId} (hp : p ∈ l.data ∨ p ∈ l.credits) :
    ({ l with link := { l.link with heap := l.link.heap.delete p } } : Lane).count < l.count := by
  have hdead : ∀ b, isLive { l with link := { l.link with heap := l.link.heap.delete p } } b p =
      false := fun b => by simp [isLive]
  rw [h.count_eq]
  show l.data.countP _ + l.credits.countP _ < _
  rcases hp with hp | hp
  · have h1 := List.countP_lt_length_iff.mpr ⟨p, hp, hdead false⟩
    have h2 := l.credits.countP_le_length (p := isLive
      { l with link := { l.link with heap := l.link.heap.delete p } } true)
    omega
  · have h1 := List.countP_lt_length_iff.mpr ⟨p, hp, hdead true⟩
    have h2 := l.data.countP_le_length (p := isLive
      { l with link := { l.link with heap := l.link.heap.delete p } } false)
    omega

end Sound

theorem sound_create (x : LaneShape) : Sound (create x) ∧ (create x).count = 0 :=
  Sound.of_contents [] [] [] ⟨fun _ => Link.out_create .., fun _ _ => Link.inp_create ..,
      fun _ => DownstreamPort.create_buffer .., fun _ _ => UpstreamPort.create_buffer ..⟩
    (Link.inp_create ..) rfl (UpstreamPort.create_buffer ..)
    ⟨fun _ => Nat.zero_le _, fun _ hp => absurd hp List.not_mem_nil,
      fun _ hp => absurd hp (not_or.mpr ⟨List.not_mem_nil, List.not_mem_nil⟩)⟩
    (fun _ hp => absurd hp List.not_mem_nil) (fun _ hp => absurd hp List.not_mem_nil)

end Lane

end Gem5Sc
