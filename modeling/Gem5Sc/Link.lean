/-
  File:      Gem5Sc/Link.lean
  Subject:   ONE LINK: a `DownstreamPort` and an `UpstreamPort` bound by a `PortPair`, and what
             every run of sends and ticks does to the packets in between.

  The actions are the calls the two sides can make: `sendReq` with a new packet, the two port
  ticks, and the owner of the `UpstreamPort` deleting a packet it has accepted. The owner is not
  modelled: each `upTick` carries its answers, so a run may answer in any way.

  `sent` and `accepted` are history: the packets for which `sendReq` returned true, and the
  packets for which the owner's `handleUpstreamRequest` did, in this order.

  The proofs of the files over this one do not unfold the port functions. They use
  * `sendReq_cases` -- the six ways a `sendReq` can end, guards included;
  * `forward_cases`, `offer_cases` -- what one round of either `tick` can do; a round of the
    `DownstreamPort` never reaches the other port;
  * `Inv` -- a packet sits in the channel its `vc_id` names, and its identity has been issued.
-/
import Gem5Sc.Port
import Gem5Sc.Library.Runs

namespace Gem5Sc

/-- The owner's answer to one request; an owner that accepts may delete the packet at once. -/
inductive Answer where
  | refuse
  | accept (deletes : Bool)
  deriving DecidableEq, Repr

/-- A bound pair of ports with the history of the run. -/
structure Link where
  heap : Heap := {}
  down : DownstreamPort
  up : UpstreamPort
  sent : List PacketId := []
  accepted : List PacketId := []

namespace Link

/-- The calls on a link. -/
inductive Action where
  | sendReq (pkt : Packet) (now : UInt64)
  | downTick (now : UInt64)
  | upTick (answer : PacketId → Answer)
  | release (p : PacketId)

/-- What `send` on the `DownstreamPort` reaches. -/
def peer (now : UInt64) : Peer UpstreamPort := some fun p w =>
  let r := w.2.recv now p w.1
  (r.1, (r.2.2, r.2.1))

/-- The owner of the `UpstreamPort`; its state is the list of packets it has accepted. -/
def owner (answer : PacketId → Answer) : Handler (List PacketId) := fun p _ _ w =>
  match answer p with
  | .refuse => (false, w)
  | .accept deletes => (true, (if deletes then w.1.delete p else w.1, w.2 ++ [p]))

/-- The link after `sendReq` on packet `p` has returned `r`. -/
def afterSend (l : Link) (p : PacketId) (r : Bool × DownstreamPort × (Heap × UpstreamPort)) : Link :=
  { l with heap := r.2.2.1, down := r.2.1, up := r.2.2.2,
           sent := if r.1 then l.sent ++ [p] else l.sent }

/-- `new Packet` followed by `sendReq` on the `DownstreamPort`. -/
def sendReq (l : Link) (pkt : Packet) (now : UInt64) : Link :=
  l.afterSend (l.heap.new pkt).1
    (l.down.sendReq (peer now) (l.heap.new pkt).1 ((l.heap.new pkt).2, l.up))

/-- `tick` of the `DownstreamPort`. -/
def downTick (l : Link) (now : UInt64) : Link :=
  let r := l.down.tick (peer now) (l.heap, l.up)
  { l with heap := r.2.1, down := r.1, up := r.2.2 }

/-- `tick` of the `UpstreamPort`. -/
def upTick (l : Link) (answer : PacketId → Answer) : Link :=
  let r := l.up.tick (owner answer) (l.heap, l.accepted)
  { l with heap := r.2.1, up := r.1, accepted := r.2.2 }

def step (l : Link) : Action → Link
  | .sendReq pkt now => l.sendReq pkt now
  | .downTick now => l.downTick now
  | .upTick answer => l.upTick answer
  | .release p =>
      -- an owner deletes what it has accepted and not deleted yet
      if p ∈ l.accepted ∧ p ∉ l.heap.released then { l with heap := l.heap.delete p } else l

/-- A freshly built link: the buffer sizes and priorities of both ends. -/
def create (outSizes outPriorities inSizes inPriorities : List Nat) : Link where
  down := DownstreamPort.create 0 outSizes outPriorities ""
  up := UpstreamPort.create 0 inSizes inPriorities ""

/-- The content of output channel `v`. -/
def out (l : Link) (v : Nat) : List PacketId := (l.down.vc v).buffer

/-- The content of input channel `v`. -/
def inp (l : Link) (v : Nat) : List PacketId := (l.up.vc v).buffer

/-- The channel a packet asks for. -/
def vcOf (l : Link) (p : PacketId) : Int := (l.heap.packet p).vcId

/-! ## 1. The six ways a `sendReq` can end -/

/-- How the buffers, the released packets and the history change over one `sendReq`. -/
inductive SendCase (l : Link) (pkt : Packet) (l' : Link) : Prop where
  /-- No such output channel: deleted. -/
  | invalid (hv : validVc pkt.vcId l.down.outputVcs.length = false)
      (hout : l'.out = l.out) (hinp : l'.inp = l.inp) (hsent : l'.sent = l.sent)
      (hrel : l'.heap.released = l.heap.nextPacket :: l.heap.released)
  /-- The output channel is in use and has room: queued. -/
  | queued (hv : validVc pkt.vcId l.down.outputVcs.length = true)
      (hne : l.out pkt.vcId.toNat ≠ [])
      (hout : l'.out = Function.update l.out pkt.vcId.toNat
        (l.out pkt.vcId.toNat ++ [l.heap.nextPacket]))
      (hinp : l'.inp = l.inp) (hsent : l'.sent = l.sent ++ [l.heap.nextPacket])
      (hrel : l'.heap.released = l.heap.released)
  /-- The output channel is in use and full: dropped and deleted. -/
  | dropped (hv : validVc pkt.vcId l.down.outputVcs.length = true)
      (hne : l.out pkt.vcId.toNat ≠ [])
      (hout : l'.out = l.out) (hinp : l'.inp = l.inp) (hsent : l'.sent = l.sent)
      (hrel : l'.heap.released = l.heap.nextPacket :: l.heap.released)
  /-- The output channel is empty and the `UpstreamPort` takes the packet. -/
  | direct (hv : validVc pkt.vcId l.down.outputVcs.length = true)
      (he : l.out pkt.vcId.toNat = []) (ha : l.up.accepts pkt.vcId = true)
      (hout : l'.out = l.out)
      (hinp : l'.inp = Function.update l.inp pkt.vcId.toNat
        (l.inp pkt.vcId.toNat ++ [l.heap.nextPacket]))
      (hsent : l'.sent = l.sent ++ [l.heap.nextPacket])
      (hrel : l'.heap.released = l.heap.released)
  /-- The `UpstreamPort` refuses and deletes; the released packet is queued. -/
  | refusedQueued (hv : validVc pkt.vcId l.down.outputVcs.length = true)
      (he : l.out pkt.vcId.toNat = []) (ha : l.up.accepts pkt.vcId = false)
      (hout : l'.out = Function.update l.out pkt.vcId.toNat [l.heap.nextPacket])
      (hinp : l'.inp = l.inp) (hsent : l'.sent = l.sent ++ [l.heap.nextPacket])
      (hrel : l'.heap.released = l.heap.nextPacket :: l.heap.released)
  /-- The `UpstreamPort` refuses and deletes; there is no room and the packet is deleted again. -/
  | refusedDropped (hv : validVc pkt.vcId l.down.outputVcs.length = true)
      (he : l.out pkt.vcId.toNat = []) (ha : l.up.accepts pkt.vcId = false)
      (hout : l'.out = l.out) (hinp : l'.inp = l.inp) (hsent : l'.sent = l.sent)
      (hrel : l'.heap.released =
        l.heap.nextPacket :: l.heap.nextPacket :: l.heap.released)

/-- What a `sendReq` never touches: the shape of both ports, the channel of any packet, the
    packets the owner has accepted. -/
structure Kept (l l' : Link) (h : Heap) : Prop where
  heap : Heap.SameVc h l'.heap
  downLength : l'.down.outputVcs.length = l.down.outputVcs.length
  upShape : UpstreamPort.SameShape l.up l'.up
  accepted : l'.accepted = l.accepted

theorem out_setVc_buffer (l : Link) (d : DownstreamPort) (hd : ∀ j, d.vc j = l.down.vc j) {i : Nat}
    {x : OutputVC} (hx : x.buffer = (d.vc i).buffer) :
    (fun j => ((d.setVc i x).vc j).buffer) = l.out := by
  funext j
  rw [DownstreamPort.setVc_buffer d hx, hd]
  rfl

theorem out_setVc (l : Link) (d : DownstreamPort) (hd : ∀ j, d.vc j = l.down.vc j) {i : Nat}
    (hi : i < d.outputVcs.length) (x : OutputVC) :
    (fun j => ((d.setVc i x).vc j).buffer) = Function.update l.out i x.buffer := by
  funext j
  by_cases hij : j = i
  · subst hij
    rw [DownstreamPort.setVc_vc_self hi, Function.update_self]
  · rw [DownstreamPort.setVc_vc_ne _ (Ne.symm hij), Function.update_of_ne hij, hd]
    rfl

theorem peer_send (now : UInt64) (p : PacketId) (h : Heap) (u : UpstreamPort) :
    SimplePort.send (peer now) p (h, u) =
      ((u.recv now p h).1, ((u.recv now p h).2.2, (u.recv now p h).2.1)) := rfl

/-- **Every `sendReq` ends in one of the six ways**, whatever the state of the link. -/
theorem sendReq_cases (l : Link) (pkt : Packet) (now : UInt64) :
    SendCase l pkt (l.sendReq pkt now) ∧ Kept l (l.sendReq pkt now) (l.heap.new pkt).2 := by
  have hvc : ((l.heap.new pkt).2.packet l.heap.nextPacket).vcId = pkt.vcId := by simp
  have hvalid : validVc ((l.heap.new pkt).2.packet l.heap.nextPacket).vcId
      l.down.outputVcs.length = validVc pkt.vcId l.down.outputVcs.length := by rw [hvc]
  have haccepts : l.up.accepts ((l.heap.new pkt).2.packet l.heap.nextPacket).vcId =
      l.up.accepts pkt.vcId := by rw [hvc]
  have hsame : UpstreamPort.SameShape l.up l.up := ⟨rfl, fun _ => rfl⟩
  unfold sendReq
  rw [Heap.new_fst]
  cases hv : validVc pkt.vcId l.down.outputVcs.length with
  | false =>
      rw [DownstreamPort.sendReq_invalid (w := ((l.heap.new pkt).2, l.up)) (hvalid.trans hv)]
      exact ⟨.invalid hv rfl rfl rfl rfl, Heap.sameVc_delete _ _, rfl, hsame, rfl⟩
  | true =>
      have hi := validVc_toNat hv
      by_cases hb : l.out pkt.vcId.toNat = []
      · have hb' : (l.down.vc ((l.heap.new pkt).2.packet l.heap.nextPacket).vcId.toNat).buffer =
            [] := by
          rw [hvc]
          exact hb
        rw [DownstreamPort.sendReq_direct (w := ((l.heap.new pkt).2, l.up)) (hvalid.trans hv) hb',
          hvc, peer_send]
        cases ha : l.up.accepts pkt.vcId with
        | true =>
            obtain ⟨h1, h2, h3, h4, h5⟩ := UpstreamPort.recv_accepted now (haccepts.trans ha)
            rw [h1, if_pos rfl]
            refine ⟨.direct hv hb ha rfl ?_ rfl h4, h5, rfl, h2, rfl⟩
            funext j
            rw [hvc] at h3
            refine (h3 j).trans ?_
            by_cases hj : pkt.vcId.toNat = j
            · subst hj; rw [if_pos rfl, Function.update_self]; rfl
            · rw [if_neg hj, Function.update_of_ne (Ne.symm hj)]; rfl
        | false =>
            obtain ⟨h1, h2, h3, h4, h5⟩ := UpstreamPort.recv_refused now (haccepts.trans ha)
            rw [h1, if_neg Bool.false_ne_true]
            let d := l.down.counted l.heap.nextPacket (l.heap.new pkt).2
            have hd : ∀ j, d.vc j = l.down.vc j := fun _ => rfl
            cases hf : (d.vc pkt.vcId.toNat).full with
            | true =>
                rw [DownstreamPort.enqueueOrDrop_of_full hf]
                exact ⟨.refusedDropped hv hb ha (out_setVc_buffer l d hd rfl) (funext h3) rfl
                  (congrArg _ h4), h5.trans (Heap.sameVc_delete _ _),
                  DownstreamPort.setVc_length d _ _, h2, rfl⟩
            | false =>
                rw [DownstreamPort.enqueueOrDrop_of_not_full hf]
                have e := out_setVc l d hd hi ((d.vc pkt.vcId.toNat).push l.heap.nextPacket)
                rw [OutputVC.push_buffer, show (d.vc pkt.vcId.toNat).buffer = [] from hb] at e
                exact ⟨.refusedQueued hv hb ha e (funext h3) rfl h4, h5,
                  DownstreamPort.setVc_length d _ _, h2, rfl⟩
      · have hb' : (l.down.vc ((l.heap.new pkt).2.packet l.heap.nextPacket).vcId.toNat).buffer ≠
            [] := by
          rw [hvc]
          exact hb
        rw [DownstreamPort.sendReq_queued (w := ((l.heap.new pkt).2, l.up)) (hvalid.trans hv) hb',
          hvc]
        cases hf : (l.down.vc pkt.vcId.toNat).full with
        | true =>
            rw [DownstreamPort.enqueueOrDrop_of_full hf]
            exact ⟨.dropped hv hb (out_setVc_buffer l _ (fun _ => rfl) rfl) rfl rfl rfl,
              Heap.sameVc_delete _ _, DownstreamPort.setVc_length _ _ _, hsame, rfl⟩
        | false =>
            rw [DownstreamPort.enqueueOrDrop_of_not_full hf]
            exact ⟨.queued hv hb (out_setVc l _ (fun _ => rfl) hi _) rfl rfl rfl,
              Heap.SameVc.refl _, DownstreamPort.setVc_length _ _ _, hsame, rfl⟩

/-! ## 2. The two ticks, channel by channel -/

/-- One round of the loop of the `DownstreamPort`'s `tick`. -/
def forward (now : UInt64) (l : Link) (i : Nat) : Link :=
  let r := l.down.trySend (peer now) i (l.heap, l.up)
  { l with heap := r.2.2.1, down := r.2.1, up := r.2.2.2 }

/-- One round of the loop of the `UpstreamPort`'s `tick`. -/
def offer (answer : PacketId → Answer) (l : Link) (i : Nat) : Link :=
  let r := UpstreamPort.tickVc (owner answer) (l.up, (l.heap, l.accepted)) i
  { l with heap := r.2.1, up := r.1, accepted := r.2.2 }

theorem downTick_eq (l : Link) (now : UInt64) :
    l.downTick now =
      Library.run (forward now) l (List.range l.down.outputVcs.length) := by
  have h : ∀ (is : List Nat) (l : Link),
      { l with
        heap := (is.foldl (fun s i => (s.1.trySend (peer now) i s.2).2)
          (l.down, (l.heap, l.up))).2.1,
        down := (is.foldl (fun s i => (s.1.trySend (peer now) i s.2).2)
          (l.down, (l.heap, l.up))).1,
        up := (is.foldl (fun s i => (s.1.trySend (peer now) i s.2).2)
          (l.down, (l.heap, l.up))).2.2 } = Library.run (forward now) l is := by
    intro is
    induction is with
    | nil => intro l; rfl
    | cons i is ih => intro l; exact ih (l.forward now i)
  exact h _ l

theorem upTick_eq (l : Link) (answer : PacketId → Answer) :
    l.upTick answer = Library.run (offer answer) l (List.range l.up.inputVcs.length) := by
  have h : ∀ (is : List Nat) (l : Link),
      { l with
        heap := (is.foldl (UpstreamPort.tickVc (owner answer))
          (l.up, (l.heap, l.accepted))).2.1,
        up := (is.foldl (UpstreamPort.tickVc (owner answer)) (l.up, (l.heap, l.accepted))).1,
        accepted := (is.foldl (UpstreamPort.tickVc (owner answer))
          (l.up, (l.heap, l.accepted))).2.2 } = Library.run (offer answer) l is := by
    intro is
    induction is with
    | nil => intro l; rfl
    | cons i is ih => intro l; exact ih (l.offer answer i)
  exact h _ l

/-- How one round of the `DownstreamPort`'s `tick` changes the link. -/
inductive ForwardCase (l : Link) (i : Nat) (l' : Link) : Prop where
  | idle (he : l.out i = []) (h : l' = l)
  /-- The channel is full: the head is deleted and stays. -/
  | dropped (p : PacketId) (rest : List PacketId) (hb : l.out i = p :: rest)
      (hout : l'.out = l.out) (hheap : l'.heap = l.heap.delete p)
  /-- The channel has room: the head is deleted and moves to the end of its own channel. -/
  | rotated (p : PacketId) (rest : List PacketId) (hb : l.out i = p :: rest)
      (hout : l'.out = Function.update l.out i (rest ++ [p])) (hheap : l'.heap = l.heap.delete p)

/-- Only the channels of the port hold packets. -/
theorem lt_of_out_cons {l : Link} {i : Nat} {p : PacketId} {rest : List PacketId}
    (hb : l.out i = p :: rest) : i < l.down.outputVcs.length := by
  by_contra hge
  unfold out at hb
  rw [DownstreamPort.vc_of_length_le (Nat.le_of_not_lt hge)] at hb
  cases hb

theorem lt_of_inp_cons {l : Link} {i : Nat} {p : PacketId} {rest : List PacketId}
    (hb : l.inp i = p :: rest) : i < l.up.inputVcs.length := by
  by_contra hge
  unfold inp at hb
  rw [UpstreamPort.vc_of_length_le (Nat.le_of_not_lt hge)] at hb
  cases hb

/-- **A `tick` of the `DownstreamPort` forwards nothing**: whatever a channel holds, the round
    for it leaves the `UpstreamPort` and the history alone. -/
theorem forward_cases (l : Link) (now : UInt64) (i : Nat) (hvc : ∀ p ∈ l.out i, l.vcOf p = i) :
    ForwardCase l i (l.forward now i) ∧ (l.forward now i).up = l.up ∧
      (l.forward now i).sent = l.sent ∧ (l.forward now i).accepted = l.accepted ∧
      (l.forward now i).down.outputVcs.length = l.down.outputVcs.length := by
  unfold forward
  cases hb : l.out i with
  | nil =>
      rw [DownstreamPort.trySend_nil hb]
      exact ⟨.idle hb rfl, rfl, rfl, rfl, rfl⟩
  | cons p rest =>
      have hi := lt_of_out_cons hb
      have hp : (l.heap.packet p).vcId = i := hvc p (by rw [hb]; exact List.mem_cons_self)
      rw [DownstreamPort.trySend_cons hi hb hp]
      cases hf : (l.down.vc i).full with
      | true =>
          rw [if_pos rfl]
          exact ⟨.dropped p rest hb (out_setVc_buffer l _ (fun _ => rfl) rfl) rfl, rfl, rfl, rfl,
            DownstreamPort.setVc_length _ _ _⟩
      | false =>
          rw [if_neg Bool.false_ne_true]
          have e := out_setVc l l.down (fun _ => rfl) hi ((l.down.vc i).push p).popForwarded
          rw [OutputVC.popForwarded_buffer, OutputVC.push_buffer,
            show (l.down.vc i).buffer = p :: rest from hb] at e
          exact ⟨.rotated p rest hb e rfl, rfl, rfl, rfl, DownstreamPort.setVc_length _ _ _⟩

/-- How one round of the `UpstreamPort`'s `tick` changes the link. -/
inductive OfferCase (answer : PacketId → Answer) (l : Link) (i : Nat) (l' : Link) : Prop where
  /-- Nothing to offer, or refused. -/
  | idle (h : l' = l)
  /-- The owner takes the head, and deletes it or not. -/
  | accepted (p : PacketId) (rest : List PacketId) (hb : l.inp i = p :: rest)
      (hinp : l'.inp = Function.update l.inp i rest) (hacc : l'.accepted = l.accepted ++ [p])
      (hheap : l'.heap = l.heap ∨ l'.heap = l.heap.delete p)

theorem offer_cases (l : Link) (answer : PacketId → Answer) (i : Nat) :
    OfferCase answer l i (l.offer answer i) ∧ (l.offer answer i).down = l.down ∧
      (l.offer answer i).sent = l.sent ∧
      UpstreamPort.SameShape l.up (l.offer answer i).up := by
  have hsame : UpstreamPort.SameShape l.up l.up := ⟨rfl, fun _ => rfl⟩
  cases hb : l.inp i with
  | nil =>
      have e : l.offer answer i = l := by
        unfold offer UpstreamPort.tickVc
        rw [show (l.up.vc i).buffer = [] from hb]
      rw [e]
      exact ⟨.idle rfl, rfl, rfl, hsame⟩
  | cons p rest =>
      have hb' : (l.up.vc i).buffer = p :: rest := hb
      cases ha : answer p with
      | refuse =>
          have e : l.offer answer i = l := by
            simp [offer, UpstreamPort.tickVc, hb', owner, ha]
          rw [e]
          exact ⟨.idle rfl, rfl, rfl, hsame⟩
      | accept deletes =>
          have hi := lt_of_inp_cons hb
          have e : l.offer answer i =
              { l with up := l.up.setVc i (l.up.vc i).pop,
                       heap := if deletes then l.heap.delete p else l.heap,
                       accepted := l.accepted ++ [p] } := by
            simp [offer, UpstreamPort.tickVc, hb', owner, ha]
          rw [e]
          refine ⟨.accepted p rest hb (funext fun j => ?_) rfl ?_, rfl, rfl,
            UpstreamPort.sameShape_setVc _ (InputVC.pop_capacity _)⟩
          · unfold inp
            by_cases hj : j = i
            · subst hj
              rw [UpstreamPort.setVc_vc_self hi, Function.update_self, InputVC.pop_buffer, hb',
                List.tail_cons]
            · rw [UpstreamPort.setVc_vc_ne _ (Ne.symm hj), Function.update_of_ne hj]
          · cases deletes <;> simp

/-! ## 3. Every packet sits in the channel it asks for -/

/-- The invariant of every link. -/
structure Inv (l : Link) : Prop where
  outVc : ∀ v, ∀ p ∈ l.out v, l.vcOf p = v
  inpVc : ∀ v, ∀ p ∈ l.inp v, l.vcOf p = v
  outLt : ∀ v, ∀ p ∈ l.out v, p < l.heap.nextPacket
  inpLt : ∀ v, ∀ p ∈ l.inp v, p < l.heap.nextPacket
  sentLt : ∀ p ∈ l.sent, p < l.heap.nextPacket
  sentNodup : l.sent.Nodup
  acceptedLt : ∀ p ∈ l.accepted, p < l.heap.nextPacket

@[simp] theorem out_create (outSizes outPriorities inSizes inPriorities : List Nat) (v : Nat) :
    (create outSizes outPriorities inSizes inPriorities).out v = [] :=
  DownstreamPort.create_buffer 0 outSizes outPriorities "" v

@[simp] theorem inp_create (outSizes outPriorities inSizes inPriorities : List Nat) (v : Nat) :
    (create outSizes outPriorities inSizes inPriorities).inp v = [] :=
  UpstreamPort.create_buffer 0 inSizes inPriorities "" v

theorem inv_create (outSizes outPriorities inSizes inPriorities : List Nat) :
    Inv (create outSizes outPriorities inSizes inPriorities) where
  outVc v p h := by simp at h
  inpVc v p h := by simp at h
  outLt v p h := by simp at h
  inpLt v p h := by simp at h
  sentLt p h := absurd h List.not_mem_nil
  sentNodup := List.nodup_nil
  acceptedLt p h := absurd h List.not_mem_nil

/-- A step keeps the invariant when it keeps the channel of every issued packet, every packet it
    adds to a list has been issued and sits in the channel it asks for, and `sent` grows by the
    packet issued in this step at most. -/
theorem Inv.grow {l l' : Link} (hI : Inv l) (hnext : l.heap.nextPacket ≤ l'.heap.nextPacket)
    (hvc : ∀ p, p < l.heap.nextPacket → l'.vcOf p = l.vcOf p)
    (hout : ∀ v, ∀ p ∈ l'.out v, p ∈ l.out v ∨ p < l'.heap.nextPacket ∧ l'.vcOf p = v)
    (hinp : ∀ v, ∀ p ∈ l'.inp v, p ∈ l.inp v ∨ p < l'.heap.nextPacket ∧ l'.vcOf p = v)
    (hsent : l'.sent = l.sent ∨
      l'.sent = l.sent ++ [l.heap.nextPacket] ∧ l.heap.nextPacket < l'.heap.nextPacket)
    (hacc : ∀ p ∈ l'.accepted, p ∈ l.accepted ∨ p < l'.heap.nextPacket) : Inv l' where
  outVc v p h := (hout v p h).elim
    (fun h => (hvc p (hI.outLt v p h)).trans (hI.outVc v p h)) And.right
  inpVc v p h := (hinp v p h).elim
    (fun h => (hvc p (hI.inpLt v p h)).trans (hI.inpVc v p h)) And.right
  outLt v p h := (hout v p h).elim (fun h => Nat.lt_of_lt_of_le (hI.outLt v p h) hnext) And.left
  inpLt v p h := (hinp v p h).elim (fun h => Nat.lt_of_lt_of_le (hI.inpLt v p h) hnext) And.left
  sentLt p h := by
    have hold : ∀ q ∈ l.sent, q < l'.heap.nextPacket := fun q hq =>
      Nat.lt_of_lt_of_le (hI.sentLt q hq) hnext
    rcases hsent with e | ⟨e, hp⟩
    · exact hold p (e ▸ h)
    · rw [e, List.mem_append, List.mem_singleton] at h
      exact h.elim (hold p) fun e => e ▸ hp
  sentNodup := by
    rcases hsent with e | ⟨e, -⟩
    · exact e ▸ hI.sentNodup
    · rw [e, List.nodup_append]
      refine ⟨hI.sentNodup, List.pairwise_singleton _ _, fun p hp q hq => ?_⟩
      rw [List.mem_singleton] at hq
      exact hq ▸ Nat.ne_of_lt (hI.sentLt p hp)
  acceptedLt p h := (hacc p h).elim (fun h => Nat.lt_of_lt_of_le (hI.acceptedLt p h) hnext) id

/-- A member of one list after one position of a family of lists has been replaced. -/
theorem mem_update {f : Nat → List PacketId} {i : Nat} {x : List PacketId} {v : Nat} {p : PacketId}
    (h : p ∈ Function.update f i x v) : v = i ∧ p ∈ x ∨ p ∈ f v := by
  by_cases hv : v = i
  · subst hv
    rw [Function.update_self] at h
    exact Or.inl ⟨rfl, h⟩
  · rw [Function.update_of_ne hv] at h
    exact Or.inr h

/-- And back: a member stays if it stays at the position that has been replaced. -/
theorem mem_update_of_mem {f : Nat → List PacketId} {i : Nat} {x : List PacketId} {v : Nat}
    {p : PacketId} (h : p ∈ f v) (hx : p ∈ f i → p ∈ x) : p ∈ Function.update f i x v := by
  by_cases hv : v = i
  · subst hv
    rw [Function.update_self]
    exact hx h
  · rw [Function.update_of_ne hv]
    exact h

theorem nodup_update {f : Nat → List PacketId} {i : Nat} {x : List PacketId}
    (h : ∀ v, (f v).Nodup) (hx : x.Nodup) (v : Nat) : (Function.update f i x v).Nodup := by
  by_cases hv : v = i
  · subst hv
    rw [Function.update_self]
    exact hx
  · rw [Function.update_of_ne hv]
    exact h v

section Kept

variable {l l' : Link} {pkt : Packet}

theorem Kept.next (hk : Kept l l' (l.heap.new pkt).2) :
    l'.heap.nextPacket = l.heap.nextPacket + 1 := by
  rw [hk.heap.next, Heap.new_nextPacket]

theorem Kept.vcOf_new (hk : Kept l l' (l.heap.new pkt).2) :
    l'.vcOf l.heap.nextPacket = pkt.vcId := by
  unfold vcOf
  rw [hk.heap.vcId, Heap.new_packet_self]

theorem Kept.vcOf_new_ne (hk : Kept l l' (l.heap.new pkt).2)
    (hv : validVc pkt.vcId l.down.outputVcs.length = true) {v : Nat} (hne : v ≠ pkt.vcId.toNat) :
    l'.vcOf l.heap.nextPacket ≠ v := by
  have hcast := validVc_cast hv
  rw [hk.vcOf_new]
  omega

theorem Kept.vcOf_old (hk : Kept l l' (l.heap.new pkt).2) {p : PacketId}
    (hp : p < l.heap.nextPacket) : l'.vcOf p = l.vcOf p := by
  unfold vcOf
  rw [hk.heap.vcId, Heap.new_packet_of_lt _ _ hp]

end Kept

theorem inv_sendReq {l : Link} (hI : Inv l) (pkt : Packet) (now : UInt64) :
    Inv (l.sendReq pkt now) := by
  obtain ⟨hc, hk⟩ := sendReq_cases l pkt now
  generalize l.sendReq pkt now = l' at hc hk
  have hp : l.heap.nextPacket < l'.heap.nextPacket := by rw [hk.next]; omega
  have hv : validVc pkt.vcId l.down.outputVcs.length = true →
      l'.vcOf l.heap.nextPacket = (pkt.vcId.toNat : Int) := by
    intro hv
    rw [hk.vcOf_new, validVc_cast hv]
  -- what is new in each list is the packet just issued, in the channel it asks for
  have happ : ∀ {xs : List PacketId} {p : PacketId}, p ∈ xs ++ [l.heap.nextPacket] →
      p ∈ xs ∨ p = l.heap.nextPacket := by
      intro xs p h
      simpa using h
  refine hI.grow (by omega) (fun p => hk.vcOf_old) (fun v p h => ?_) (fun v p h => ?_)
    ?_ (fun p h => Or.inl (hk.accepted ▸ h))
  · cases hc with
    | queued hvalid hne hout =>
        rw [hout] at h
        rcases mem_update h with ⟨rfl, hx⟩ | hx
        · exact (happ hx).imp id fun e => by subst e; exact ⟨hp, hv hvalid⟩
        · exact Or.inl hx
    | refusedQueued hvalid he ha hout =>
        rw [hout] at h
        rcases mem_update h with ⟨rfl, hx⟩ | hx
        · rw [List.mem_singleton] at hx
          subst hx
          exact Or.inr ⟨hp, hv hvalid⟩
        · exact Or.inl hx
    | invalid _ hout => exact Or.inl (hout ▸ h)
    | dropped _ _ hout => exact Or.inl (hout ▸ h)
    | direct _ _ _ hout => exact Or.inl (hout ▸ h)
    | refusedDropped _ _ _ hout => exact Or.inl (hout ▸ h)
  · cases hc with
    | direct hvalid he ha hout hinp =>
        rw [hinp] at h
        rcases mem_update h with ⟨rfl, hx⟩ | hx
        · exact (happ hx).imp id fun e => by subst e; exact ⟨hp, hv hvalid⟩
        · exact Or.inl hx
    | invalid _ _ hinp => exact Or.inl (hinp ▸ h)
    | queued _ _ _ hinp => exact Or.inl (hinp ▸ h)
    | dropped _ _ _ hinp => exact Or.inl (hinp ▸ h)
    | refusedQueued _ _ _ _ hinp => exact Or.inl (hinp ▸ h)
    | refusedDropped _ _ _ _ hinp => exact Or.inl (hinp ▸ h)
  · cases hc with
    | invalid _ _ _ hsent => exact Or.inl hsent
    | queued _ _ _ _ hsent => exact Or.inr ⟨hsent, hp⟩
    | dropped _ _ _ _ hsent => exact Or.inl hsent
    | direct _ _ _ _ _ hsent => exact Or.inr ⟨hsent, hp⟩
    | refusedQueued _ _ _ _ _ hsent => exact Or.inr ⟨hsent, hp⟩
    | refusedDropped _ _ _ _ _ hsent => exact Or.inl hsent

theorem inv_forward {l : Link} (hI : Inv l) (now : UInt64) (i : Nat) : Inv (l.forward now i) := by
  obtain ⟨hc, hup, hsent, hacc, -⟩ := forward_cases l now i (hI.outVc i)
  have hinp : (l.forward now i).inp = l.inp := by unfold inp; rw [hup]
  generalize l.forward now i = l' at hc hinp hsent hacc
  -- the head is deleted in both cases
  have hdeleted : ∀ p, l'.heap = l.heap.delete p →
      l'.heap.nextPacket = l.heap.nextPacket ∧ ∀ q, l'.vcOf q = l.vcOf q := by
    intro p hheap
    refine ⟨by rw [hheap]; rfl, fun q => ?_⟩
    unfold vcOf
    rw [hheap]
    rfl
  cases hc with
  | idle _ h => rw [h]; exact hI
  | dropped p rest hb hout hheap =>
      obtain ⟨hnext, hvc⟩ := hdeleted p hheap
      refine hI.grow (by omega) (fun q _ => hvc q)
        (fun v q h => Or.inl (hout ▸ h)) (fun v q h => Or.inl (hinp ▸ h))
        (Or.inl hsent) (fun q h => Or.inl (hacc ▸ h))
  | rotated p rest hb hout hheap =>
      obtain ⟨hnext, hvc⟩ := hdeleted p hheap
      refine hI.grow (by omega) (fun q _ => hvc q)
        (fun v q h => Or.inl ?_) (fun v q h => Or.inl (hinp ▸ h))
        (Or.inl hsent) (fun q h => Or.inl (hacc ▸ h))
      rw [hout] at h
      rcases mem_update h with ⟨rfl, hx⟩ | hx
      · rw [hb]
        exact (List.mem_append.mp hx).elim (List.mem_cons_of_mem p)
          fun hx => List.mem_singleton.mp hx ▸ List.mem_cons_self
      · exact hx

theorem inv_offer {l : Link} (hI : Inv l) (answer : PacketId → Answer) (i : Nat) :
    Inv (l.offer answer i) := by
  obtain ⟨hc, hdown, hsent, -⟩ := offer_cases l answer i
  have hout : (l.offer answer i).out = l.out := by unfold out; rw [hdown]
  generalize l.offer answer i = l' at hc hout hsent
  cases hc with
  | idle h => rw [h]; exact hI
  | accepted p rest hb hinp hacc hheap =>
      have hnext : l'.heap.nextPacket = l.heap.nextPacket := by
        rcases hheap with e | e <;> simp [e]
      have hvc : ∀ q, l'.vcOf q = l.vcOf q := by
        intro q
        rcases hheap with e | e <;> simp [vcOf, e]
      have hmem : p ∈ l.inp i := by rw [hb]; exact List.mem_cons_self
      refine hI.grow (by omega) (fun q _ => hvc q) (fun v q h => Or.inl (hout ▸ h))
        (fun v q h => Or.inl ?_) (Or.inl hsent) (fun q h => ?_)
      · rw [hinp] at h
        rcases mem_update h with ⟨rfl, hx⟩ | hx
        · rw [hb]; exact List.mem_cons_of_mem _ hx
        · exact hx
      · rw [hacc] at h
        rcases List.mem_append.mp h with h | h
        · exact Or.inl h
        · rw [List.mem_singleton] at h
          subst h
          exact Or.inr (hnext ▸ hI.inpLt i q hmem)

theorem inv_step {l : Link} (hI : Inv l) (a : Action) : Inv (l.step a) := by
  cases a with
  | sendReq pkt now => exact inv_sendReq hI pkt now
  | downTick now =>
      rw [step, downTick_eq]
      exact Library.run_invariant hI (fun l i h => inv_forward h now i) _
  | upTick answer =>
      rw [step, upTick_eq]
      exact Library.run_invariant hI (fun l i h => inv_offer h answer i) _
  | release p =>
      rw [step]
      split
      · exact ⟨hI.outVc, hI.inpVc, hI.outLt, hI.inpLt, hI.sentLt, hI.sentNodup, hI.acceptedLt⟩
      · exact hI

/-- **The invariant on every run of every link.** -/
theorem inv_run (outSizes outPriorities inSizes inPriorities : List Nat) (acts : List Action) :
    Inv (Library.run step (create outSizes outPriorities inSizes inPriorities) acts) :=
  Library.run_invariant (inv_create ..) (fun _ a h => inv_step h a) acts

end Link

end Gem5Sc
