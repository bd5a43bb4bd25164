/-
  File:      Gem5Sc/Network/Bare.lean
  Subject:   WHAT NO CODE READS: the two cycles of a packet, the statistics of a port, the counters
             of a channel.

  They are only written. `bare` leaves them out. In two worlds that are the same but for them
  (`SameWorld`), with clocks that may differ, each function of the ports and of the modules gives
  the same answer and leaves such worlds behind, if the functions that it calls do. `updateStats`
  reads the cycles, but only for the statistics.
-/
import Gem5Sc.Network

namespace Gem5Sc

/-! ## 1. Packets and the heap -/

/-- A packet without its two cycles. -/
def Packet.bare (p : Packet) : Packet := { p with srcCycle := 0, dstCycle := 0 }

namespace Heap

/-- The heap with bare packets. -/
def bare (h : Heap) : Heap := { h with packet := fun r => (h.packet r).bare }

variable {h h' : Heap}

/-- Every other field of every packet is the same. -/
theorem field_of_bare {α : Type} (field : Packet → α) (hfield : ∀ p, field p.bare = field p)
    (hh : h'.bare = h.bare) (r : PacketId) : field (h'.packet r) = field (h.packet r) := by
  have hr : (h'.packet r).bare = (h.packet r).bare := congrFun (congrArg Heap.packet hh) r
  rw [← hfield, hr, hfield]

theorem address_of_bare (hh : h'.bare = h.bare) (r : PacketId) : h'.address r = h.address r := by
  show h'.bare.address r = h.bare.address r
  rw [hh]

theorem nextPacket_of_bare (hh : h'.bare = h.bare) : h'.nextPacket = h.nextPacket := by
  show h'.bare.nextPacket = h.bare.nextPacket
  rw [hh]

theorem nextPayload_of_bare (hh : h'.bare = h.bare) : h'.nextPayload = h.nextPayload := by
  show h'.bare.nextPayload = h.bare.nextPayload
  rw [hh]

theorem bare_setDstCycle (h : Heap) (p : PacketId) (now : UInt64) :
    (h.setDstCycle p now).bare = h.bare := by
  refine congrArg (fun pk => { h with packet := pk }) (funext fun r => ?_)
  by_cases hr : r = p
  · subst hr
    simp [setDstCycle, Packet.bare]
  · simp [setDstCycle, hr]

theorem bare_new (h : Heap) (p : Packet) : (h.new p).2.bare = (h.bare.new p.bare).2 := by
  refine congrArg (fun pk => { h with packet := pk, nextPacket := h.nextPacket + 1 })
    (funext fun r => ?_)
  by_cases hr : r = h.nextPacket
  · subst hr
    simp [bare]
  · simp [bare, new, hr]

theorem setDstCycle_of_bare (hh : h'.bare = h.bare) (p : PacketId) (now now' : UInt64) :
    (h'.setDstCycle p now').bare = (h.setDstCycle p now).bare := by
  rw [bare_setDstCycle, bare_setDstCycle, hh]

theorem delete_of_bare (hh : h'.bare = h.bare) (p : PacketId) :
    (h'.delete p).bare = (h.delete p).bare := by
  show h'.bare.delete p = h.bare.delete p
  rw [hh]

theorem new_of_bare (hh : h'.bare = h.bare) {p p' : Packet} (hp : p'.bare = p.bare) :
    (h'.new p').1 = (h.new p).1 ∧ (h'.new p').2.bare = (h.new p).2.bare := by
  refine ⟨nextPacket_of_bare hh, ?_⟩
  rw [bare_new, bare_new, hh, hp]

theorem setResponseOk_of_bare (hh : h'.bare = h.bare) (p : PacketId) :
    (h'.setResponseOk p).bare = (h.setResponseOk p).bare := by
  have hcomm : ∀ h : Heap, (h.setResponseOk p).bare = h.bare.setResponseOk p := by
    intro h
    unfold setResponseOk
    rw [show (h.bare.packet p).payload = (h.packet p).payload from rfl]
    split <;> rfl
  rw [hcomm, hcomm, hh]

theorem newResp_of_bare (hh : h'.bare = h.bare) (now now' : UInt64) (req : PacketId) (vcId : Int) :
    (h'.newResp now' req vcId).1 = (h.newResp now req vcId).1 ∧
      (h'.newResp now' req vcId).2.bare = (h.newResp now req vcId).2.bare := by
  refine new_of_bare hh ?_
  rw [field_of_bare Packet.payload (fun _ => rfl) hh]
  rfl

theorem newPayload_of_bare (hh : h'.bare = h.bare) (t : Payload) :
    (h'.newPayload t).2.bare = (h.newPayload t).2.bare := by
  show (h'.bare.newPayload t).2 = (h.bare.newPayload t).2
  rw [hh]

theorem newRequest_of_bare (hh : h'.bare = h.bare) (t : Payload) {p p' : Packet}
    (hp : p'.bare = p.bare) :
    (h'.newRequest t p').1 = (h.newRequest t p).1 ∧
      (h'.newRequest t p').2.bare = (h.newRequest t p).2.bare := by
  refine new_of_bare (newPayload_of_bare hh t) ?_
  show ({ p'.bare with payload := some h'.nextPayload } : Packet) =
    { p.bare with payload := some h.nextPayload }
  rw [hp, nextPayload_of_bare hh]

end Heap

/-! ## 2. Worlds -/

section Worlds

variable {ρ κ τ β : Type} (key : τ → β) (view : ρ → κ)

/-- The same heap but for what is bare, and the same view of what is around. -/
structure SameWorld (w w' : Heap × ρ) : Prop where
  heap : w'.1.bare = w.1.bare
  rest : view w'.2 = view w.2

/-- The same answer. -/
structure SameAnswer (r r' : Bool × (Heap × ρ)) : Prop where
  answer : r'.1 = r.1
  world : SameWorld view r.2 r'.2

/-- The same effect on an object, as far as `key` shows it. -/
structure SameEffect (r r' : τ × (Heap × ρ)) : Prop where
  object : key r'.1 = key r.1
  world : SameWorld view r.2 r'.2

/-- Both. -/
structure SameResult (r r' : Bool × τ × (Heap × ρ)) : Prop where
  answer : r'.1 = r.1
  effect : SameEffect key view r.2 r'.2

/-- What `send` reaches answers the same. -/
def SamePeer (peer peer' : Peer ρ) : Prop :=
  ∀ p w w', SameWorld view w w' →
    SameAnswer view (SimplePort.send peer p w) (SimplePort.send peer' p w')

/-- The owner answers the same. -/
def SameHandler (handle handle' : Handler ρ) : Prop :=
  ∀ p id label w w', SameWorld view w w' →
    SameAnswer view (handle p id label w) (handle' p id label w')

variable {view}

theorem SameWorld.delete {w w' : Heap × ρ} (hw : SameWorld view w w') (p : PacketId) :
    SameWorld view (w.1.delete p, w.2) (w'.1.delete p, w'.2) :=
  ⟨Heap.delete_of_bare hw.heap p, hw.rest⟩

end Worlds

/-! ## 3. Ports -/

section Ports

variable {ρ κ : Type} {view : ρ → κ} {w w' : Heap × ρ}

namespace UpstreamPort

/-- The port without its statistics and its delay, the channels without their counters. -/
def bare (u : UpstreamPort) : UpstreamPort where
  id := u.id
  label := u.label
  inputVcs := u.channels.map fun c => { buffer := c.buffer, capacity := c.capacity }

theorem channels_bare (u : UpstreamPort) : u.bare.channels = u.channels := by
  simp [bare, channels]

variable {u u' : UpstreamPort}

theorem id_of_bare (hu : u'.bare = u.bare) : u'.id = u.id := by
  show u'.bare.id = u.bare.id
  rw [hu]

theorem label_of_bare (hu : u'.bare = u.bare) : u'.label = u.label := by
  show u'.bare.label = u.bare.label
  rw [hu]

theorem channels_of_bare (hu : u'.bare = u.bare) : u'.channels = u.channels := by
  rw [← channels_bare, hu, channels_bare]

theorem length_of_bare (hu : u'.bare = u.bare) : u'.inputVcs.length = u.inputVcs.length := by
  rw [← channels_length, ← channels_length, channels_of_bare hu]

theorem vc_of_bare (hu : u'.bare = u.bare) (i : Nat) :
    (u'.vc i).buffer = (u.vc i).buffer ∧ (u'.vc i).capacity = (u.vc i).capacity := by
  have hi := congrArg (fun cs => List.getD cs i default) (channels_of_bare hu)
  rw [channels_getD, channels_getD] at hi
  exact ⟨congrArg Channel.buffer hi, congrArg Channel.capacity hi⟩

theorem full_of_bare (hu : u'.bare = u.bare) (i : Nat) : (u'.vc i).full = (u.vc i).full := by
  rw [InputVC.full, InputVC.full, (vc_of_bare hu i).1, (vc_of_bare hu i).2]

theorem setVc_of_bare (hu : u'.bare = u.bare) (i : Nat) {x x' : InputVC}
    (hbuffer : x'.buffer = x.buffer) (hcapacity : x'.capacity = x.capacity) :
    (u'.setVc i x').bare = (u.setVc i x).bare := by
  have hchannels : (u'.setVc i x').channels = (u.setVc i x).channels := by
    rw [channels_setVc, channels_setVc, channels_of_bare hu, hbuffer, hcapacity]
  rw [bare, bare, hchannels]
  exact congrArg₂ (fun id label => { (u.setVc i x).bare with id := id, label := label })
    (id_of_bare hu) (label_of_bare hu)

theorem recv_of_bare {h h' : Heap} (hu : u'.bare = u.bare) (hh : h'.bare = h.bare)
    (now now' : UInt64) (p : PacketId) :
    (u'.recv now' p h').1 = (u.recv now p h).1 ∧
      (u'.recv now' p h').2.1.bare = (u.recv now p h).2.1.bare ∧
      (u'.recv now' p h').2.2.bare = (u.recv now p h).2.2.bare := by
  have hvc : (h'.packet p).vcId = (h.packet p).vcId :=
    Heap.field_of_bare Packet.vcId (fun _ => rfl) hh p
  have hrec : (u'.received now' p h').bare = (u.received now p h).bare := hu
  have hstamp := Heap.setDstCycle_of_bare hh p now now'
  have hbuf := vc_of_bare hu (h.packet p).vcId.toNat
  cases hv : validVc (h.packet p).vcId u.inputVcs.length with
  | false =>
      have hv' : validVc (h'.packet p).vcId u'.inputVcs.length = false := by
        rw [hvc, length_of_bare hu, hv]
      rw [recv_invalid now hv, recv_invalid now' hv']
      exact ⟨rfl, hrec, Heap.delete_of_bare hstamp p⟩
  | true =>
      have hv' : validVc (h'.packet p).vcId u'.inputVcs.length = true := by
        rw [hvc, length_of_bare hu, hv]
      have hfull : (u'.vc (h'.packet p).vcId.toNat).full =
          (u.vc (h.packet p).vcId.toNat).full := by
        rw [hvc, full_of_bare hu]
      have hstamp' := Heap.setDstCycle_of_bare hstamp p now now'
      cases hf : (u.vc (h.packet p).vcId.toNat).full with
      | true =>
          rw [recv_full now hv hf, recv_full now' hv' (hfull.trans hf), hvc]
          exact ⟨rfl, setVc_of_bare hrec _ hbuf.1 hbuf.2, Heap.delete_of_bare hstamp' p⟩
      | false =>
          rw [recv_enqueued now hv hf, recv_enqueued now' hv' (hfull.trans hf), hvc]
          exact ⟨rfl, setVc_of_bare hrec _ (congrArg (· ++ [p]) hbuf.1) hbuf.2, hstamp'⟩

theorem tickVc_of_bare {handle handle' : Handler ρ} (hhandle : SameHandler view handle handle')
    {s s' : UpstreamPort × (Heap × ρ)} (hs : SameEffect bare view s s') (i : Nat) :
    SameEffect bare view (tickVc handle s i) (tickVc handle' s' i) := by
  obtain ⟨hbuffer, hcapacity⟩ := vc_of_bare hs.object i
  unfold tickVc
  rw [hbuffer]
  cases hb : (s.1.vc i).buffer with
  | nil => exact hs
  | cons p rest =>
      have hans := hhandle p s.1.id s.1.label _ _ hs.world
      rw [id_of_bare hs.object, label_of_bare hs.object]
      dsimp only
      rw [hans.answer]
      split
      · refine ⟨setVc_of_bare hs.object i ?_ ?_, hans.world⟩
        · rw [InputVC.pop_buffer, InputVC.pop_buffer, hbuffer]
        · rw [InputVC.pop_capacity, InputVC.pop_capacity, hcapacity]
      · exact ⟨hs.object, hans.world⟩

theorem tick_of_bare {handle handle' : Handler ρ} (hhandle : SameHandler view handle handle')
    (hu : u'.bare = u.bare) (hw : SameWorld view w w') :
    SameEffect bare view (u.tick handle w) (u'.tick handle' w') := by
  have hloop : ∀ (is : List Nat) (s s' : UpstreamPort × (Heap × ρ)), SameEffect bare view s s' →
      SameEffect bare view (is.foldl (tickVc handle) s) (is.foldl (tickVc handle') s') := by
    intro is
    induction is with
    | nil => exact fun _ _ hs => hs
    | cons i is ih => exact fun s s' hs => ih _ _ (tickVc_of_bare hhandle hs i)
  rw [tick, tick, length_of_bare hu]
  exact hloop _ _ _ ⟨hu, hw⟩

end UpstreamPort

namespace DownstreamPort

/-- The same of a downstream port. -/
def bare (d : DownstreamPort) : DownstreamPort where
  id := d.id
  label := d.label
  outputVcs := d.channels.map fun c => { buffer := c.buffer, capacity := c.capacity }

theorem channels_bare (d : DownstreamPort) : d.bare.channels = d.channels := by
  simp [bare, channels]

variable {d d' : DownstreamPort}

theorem id_of_bare (hd : d'.bare = d.bare) : d'.id = d.id := by
  show d'.bare.id = d.bare.id
  rw [hd]

theorem label_of_bare (hd : d'.bare = d.bare) : d'.label = d.label := by
  show d'.bare.label = d.bare.label
  rw [hd]

theorem channels_of_bare (hd : d'.bare = d.bare) : d'.channels = d.channels := by
  rw [← channels_bare, hd, channels_bare]

theorem length_of_bare (hd : d'.bare = d.bare) : d'.outputVcs.length = d.outputVcs.length := by
  rw [← channels_length, ← channels_length, channels_of_bare hd]

theorem vc_of_bare (hd : d'.bare = d.bare) (i : Nat) :
    (d'.vc i).buffer = (d.vc i).buffer ∧ (d'.vc i).capacity = (d.vc i).capacity := by
  have hi := congrArg (fun cs => List.getD cs i default) (channels_of_bare hd)
  rw [channels_getD, channels_getD] at hi
  exact ⟨congrArg Channel.buffer hi, congrArg Channel.capacity hi⟩

theorem full_of_bare (hd : d'.bare = d.bare) (i : Nat) : (d'.vc i).full = (d.vc i).full := by
  rw [OutputVC.full, OutputVC.full, (vc_of_bare hd i).1, (vc_of_bare hd i).2]

theorem setVc_of_bare (hd : d'.bare = d.bare) (i : Nat) {x x' : OutputVC}
    (hbuffer : x'.buffer = x.buffer) (hcapacity : x'.capacity = x.capacity) :
    (d'.setVc i x').bare = (d.setVc i x).bare := by
  have hchannels : (d'.setVc i x').channels = (d.setVc i x).channels := by
    rw [channels_setVc, channels_setVc, channels_of_bare hd, hbuffer, hcapacity]
  rw [bare, bare, hchannels]
  exact congrArg₂ (fun id label => { (d.setVc i x).bare with id := id, label := label })
    (id_of_bare hd) (label_of_bare hd)

theorem enqueueOrDrop_of_bare (hd : d'.bare = d.bare) (hw : SameWorld view w w') (i : Nat)
    (p : PacketId) :
    SameResult bare view (d.enqueueOrDrop i p w) (d'.enqueueOrDrop i p w') := by
  obtain ⟨hbuffer, hcapacity⟩ := vc_of_bare hd i
  cases hf : (d.vc i).full with
  | true =>
      rw [enqueueOrDrop_of_full hf, enqueueOrDrop_of_full ((full_of_bare hd i).trans hf)]
      exact ⟨rfl, setVc_of_bare hd i hbuffer hcapacity, hw.delete p⟩
  | false =>
      rw [enqueueOrDrop_of_not_full hf, enqueueOrDrop_of_not_full ((full_of_bare hd i).trans hf)]
      exact ⟨rfl, setVc_of_bare hd i (congrArg (· ++ [p]) hbuffer) hcapacity, hw⟩

theorem sendReq_of_bare {peer peer' : Peer ρ} (hpeer : SamePeer view peer peer')
    (hd : d'.bare = d.bare) (hw : SameWorld view w w') (p : PacketId) :
    SameResult bare view (d.sendReq peer p w) (d'.sendReq peer' p w') := by
  have hvc : (w'.1.packet p).vcId = (w.1.packet p).vcId :=
    Heap.field_of_bare Packet.vcId (fun _ => rfl) hw.heap p
  have hvalid : validVc (w'.1.packet p).vcId d'.outputVcs.length =
      validVc (w.1.packet p).vcId d.outputVcs.length := by
    rw [hvc, length_of_bare hd]
  have hbuffer : (d'.vc (w'.1.packet p).vcId.toNat).buffer =
      (d.vc (w.1.packet p).vcId.toNat).buffer := by
    rw [hvc, (vc_of_bare hd _).1]
  cases hv : validVc (w.1.packet p).vcId d.outputVcs.length with
  | false =>
      rw [sendReq_invalid hv, sendReq_invalid (hvalid.trans hv)]
      exact ⟨rfl, hd, hw.delete p⟩
  | true =>
      by_cases hb : (d.vc (w.1.packet p).vcId.toNat).buffer = []
      · have hans := hpeer p w w' hw
        have hcounted : (d'.counted p w'.1).bare = (d.counted p w.1).bare := hd
        rw [sendReq_direct hv hb, sendReq_direct (hvalid.trans hv) (hbuffer.trans hb), hans.answer]
        split
        · exact ⟨rfl, hcounted, hans.world⟩
        · rw [hvc]
          exact enqueueOrDrop_of_bare hcounted hans.world _ p
      · rw [sendReq_queued hv hb, sendReq_queued (hvalid.trans hv) (hbuffer.symm ▸ hb), hvc]
        exact enqueueOrDrop_of_bare hd hw _ p

theorem trySend_of_bare {peer peer' : Peer ρ} (hpeer : SamePeer view peer peer')
    (hd : d'.bare = d.bare) (hw : SameWorld view w w') (i : Nat) :
    SameResult bare view (d.trySend peer i w) (d'.trySend peer' i w') := by
  unfold trySend
  rw [(vc_of_bare hd i).1]
  cases hb : (d.vc i).buffer with
  | nil => exact ⟨rfl, hd, hw⟩
  | cons p rest =>
      have hsend := sendReq_of_bare hpeer hd hw p
      dsimp only
      rw [hsend.answer]
      split
      · obtain ⟨hbuffer, hcapacity⟩ := vc_of_bare hsend.effect.object i
        exact ⟨rfl, setVc_of_bare hsend.effect.object i (congrArg List.tail hbuffer) hcapacity,
          hsend.effect.world.delete p⟩
      · exact hsend

theorem tick_of_bare {peer peer' : Peer ρ} (hpeer : SamePeer view peer peer')
    (hd : d'.bare = d.bare) (hw : SameWorld view w w') :
    SameEffect bare view (d.tick peer w) (d'.tick peer' w') := by
  have hloop : ∀ (is : List Nat) (s s' : DownstreamPort × (Heap × ρ)), SameEffect bare view s s' →
      SameEffect bare view (is.foldl (fun s i => (s.1.trySend peer i s.2).2) s)
        (is.foldl (fun s i => (s.1.trySend peer' i s.2).2) s') := by
    intro is
    induction is with
    | nil => exact fun _ _ hs => hs
    | cons i is ih =>
        exact fun s s' hs => ih _ _ (trySend_of_bare hpeer hs.object hs.world i).effect
  rw [tick, tick, length_of_bare hd]
  exact hloop _ _ _ ⟨hd, hw⟩

end DownstreamPort

end Ports

/-! ## 4. Modules -/

section Modules

variable {ρ κ : Type} (view : ρ → κ)

/-- Surroundings that answer the same, whatever the cycle. -/
structure SameContext (c c' : Context ρ) : Prop where
  upstream : c'.upstream = c.upstream
  downstream : c'.downstream = c.downstream
  sendReq : ∀ i p w w', SameWorld view w w' → SameAnswer view (c.sendReq i p w) (c'.sendReq i p w')
  sendResp : ∀ j p w w', SameWorld view w w' →
    SameAnswer view (c.sendResp j p w) (c'.sendResp j p w')
  schedule : ∀ e t r r', view r' = view r → view (c'.schedule e t r') = view (c.schedule e t r)

variable {view} {c c' : Context ρ} {w w' : Heap × ρ} (hc : SameContext view c c')
  (hw : SameWorld view w w')
include hw

theorem SameWorld.originalReq (p : PacketId) :
    (w'.1.packet p).originalReq = (w.1.packet p).originalReq :=
  Heap.field_of_bare Packet.originalReq (fun _ => rfl) hw.heap p

theorem SameWorld.vcId (p : PacketId) : (w'.1.packet p).vcId = (w.1.packet p).vcId :=
  Heap.field_of_bare Packet.vcId (fun _ => rfl) hw.heap p

theorem SameWorld.isResponse (p : PacketId) :
    (w'.1.packet p).isResponse = (w.1.packet p).isResponse :=
  Heap.field_of_bare Packet.isResponse (fun _ => rfl) hw.heap p

/-- A module without a handler of its own. -/
theorem SimObject.handleDefault_of_bare (m : Module) (p : PacketId) :
    SameResult id view ((handleDefault p w).1, m, (handleDefault p w).2)
      ((handleDefault p w').1, m, (handleDefault p w').2) :=
  ⟨rfl, rfl, hw.delete p⟩

theorem CPUSim.handleDownstreamResponse_of_bare (m : CPUSim) (p : PacketId) :
    SameResult id view (m.handleDownstreamResponse p w) (m.handleDownstreamResponse p w') := by
  unfold handleDownstreamResponse
  rw [hw.isResponse p, hw.originalReq p]
  split
  · refine ⟨rfl, ?_, hw.delete p⟩
    dsimp only
    split
    · rw [Heap.address_of_bare hw.heap]
    · rfl
  · exact ⟨rfl, rfl, hw.delete p⟩

/-- The packet that is handed on is the same but for the cycle in it. -/
theorem SameWorld.newRequest (t : Payload) (now now' : UInt64) (type : PacketType) :
    (w'.1.newRequest t { srcCycle := now', type := type }).1 =
        (w.1.newRequest t { srcCycle := now, type := type }).1 ∧
      SameWorld view ((w.1.newRequest t { srcCycle := now, type := type }).2, w.2)
        ((w'.1.newRequest t { srcCycle := now', type := type }).2, w'.2) := by
  have hpacket : ({ srcCycle := now', type := type } : Packet).bare =
      ({ srcCycle := now, type := type } : Packet).bare := rfl
  obtain ⟨hfst, hsnd⟩ := Heap.newRequest_of_bare hw.heap t hpacket
  exact ⟨hfst, hsnd, hw.rest⟩

/-- And so is a response. -/
theorem SameWorld.newResp (now now' : UInt64) (req : PacketId) (vcId : Int) :
    (w'.1.newResp now' req vcId).1 = (w.1.newResp now req vcId).1 ∧
      SameWorld view ((w.1.newResp now req vcId).2, w.2)
        ((w'.1.newResp now' req vcId).2, w'.2) := by
  obtain ⟨hfst, hsnd⟩ := Heap.newResp_of_bare hw.heap now now' req vcId
  exact ⟨hfst, hsnd, hw.rest⟩

theorem SameWorld.setResponseOk (p : PacketId) :
    SameWorld view (w.1.setResponseOk p, w.2) (w'.1.setResponseOk p, w'.2) :=
  ⟨Heap.setResponseOk_of_bare hw.heap p, hw.rest⟩

theorem TrafficGenerator.handleDownstreamResponse_of_bare (m : TrafficGenerator) (p : PacketId) :
    SameResult id view (m.handleDownstreamResponse p w) (m.handleDownstreamResponse p w') := by
  unfold handleDownstreamResponse
  rw [hw.isResponse p]
  split
  · exact ⟨rfl, rfl, hw.delete p⟩
  · exact ⟨rfl, rfl, hw⟩

include hc

theorem SameWorld.schedule (e : Deferred) (delay : UInt64) :
    SameWorld view (w.1, c.schedule e delay w.2) (w'.1, c'.schedule e delay w'.2) :=
  ⟨hw.heap, hc.schedule e delay _ _ hw.rest⟩

/-- The response to `p` is made, `p` is deleted, and the response is sent later. -/
theorem SameWorld.respond (p : PacketId) (j : Nat) (delay : UInt64) :
    let x := (w.1.setResponseOk p).newResp c.now p ((w.1.setResponseOk p).packet p).vcId
    let x' := (w'.1.setResponseOk p).newResp c'.now p ((w'.1.setResponseOk p).packet p).vcId
    SameWorld view (x.2.delete p, c.schedule (.respond j x.1) delay w.2)
      (x'.2.delete p, c'.schedule (.respond j x'.1) delay w'.2) := by
  have hok := hw.setResponseOk p
  obtain ⟨hfst, hsnd⟩ := hok.newResp c.now c'.now p ((w.1.setResponseOk p).packet p).vcId
  dsimp only
  rw [hok.vcId p, hfst]
  exact (hsnd.delete p).schedule hc _ delay

theorem CPUSim.tick_of_bare (rand : Nat) (m : CPUSim) :
    SameEffect id view (m.tick c rand w) (m.tick c' rand w') := by
  unfold tick
  rw [hc.downstream]
  split
  · exact ⟨rfl, hw⟩
  · split
    · obtain ⟨hfst, hnew⟩ := hw.newRequest
        { command := .read, address := m.nextAddr, dataLength := 4 } c.now c'.now .reqRead
      have hans := hc.sendReq (m.nextAddr.toNat % c.downstream)
        (w.1.newRequest { command := .read, address := m.nextAddr, dataLength := 4 }
          { srcCycle := c.now, type := .reqRead }).1 _ _ hnew
      dsimp only
      rw [hfst, hans.answer]
      split
      · exact ⟨rfl, hans.world⟩
      · exact ⟨rfl, hans.world.delete _⟩
    · exact ⟨rfl, hw⟩

theorem CacheSim.tryForward_of_bare (m : CacheSim) :
    SameResult id view (m.tryForward c w) (m.tryForward c' w') := by
  have hroute : ∀ p, routeToDownstream c' p w'.1 = routeToDownstream c p w.1 := by
    intro p
    rw [routeToDownstream, routeToDownstream, hc.downstream, Heap.address_of_bare hw.heap]
  unfold tryForward
  split
  · exact ⟨rfl, rfl, hw⟩
  · next p rest _ =>
      rw [hroute p]
      split
      · exact ⟨rfl, rfl, hw⟩
      · next i _ =>
          have hans := hc.sendReq i p w w' hw
          dsimp only
          rw [hans.answer]
          split
          · exact ⟨rfl, rfl, hans.world⟩
          · exact ⟨rfl, rfl, hans.world⟩

theorem CacheSim.handleUpstreamRequest_of_bare (m : CacheSim) (p : PacketId) (srcId : Nat) :
    SameResult id view (m.handleUpstreamRequest c p srcId w)
      (m.handleUpstreamRequest c' p srcId w') := by
  have hhit : hit w'.1 p = hit w.1 p := by
    rw [hit, hit, Heap.address_of_bare hw.heap]
  cases hf : m.full with
  | true =>
      rw [handleUpstreamRequest_full hf, handleUpstreamRequest_full hf]
      exact ⟨rfl, rfl, hw.delete p⟩
  | false =>
      cases hh : hit w.1 p with
      | true =>
          rw [handleUpstreamRequest_hit hf hh, handleUpstreamRequest_hit hf (hhit.trans hh)]
          exact ⟨rfl, rfl, hw.respond hc p srcId 1⟩
      | false =>
          rw [handleUpstreamRequest_miss hf hh, handleUpstreamRequest_miss hf (hhit.trans hh)]
          exact ⟨rfl, rfl, hw.schedule hc .tryForward 1⟩

theorem CacheSim.handleDownstreamResponse_of_bare (m : CacheSim) (p : PacketId) (srcId : Nat) :
    SameResult id view (m.handleDownstreamResponse c p srcId w)
      (m.handleDownstreamResponse c' p srcId w') := by
  unfold handleDownstreamResponse
  rw [hw.originalReq p]
  split
  · exact ⟨rfl, rfl, hw⟩
  · next req _ =>
      obtain ⟨hfst, hnew⟩ := hw.newResp c.now c'.now req (w.1.packet p).vcId
      dsimp only
      rw [hw.vcId p, hc.upstream, hfst]
      exact ⟨rfl, rfl, ((hnew.delete p).delete req).schedule hc _ 1⟩

theorem MemorySim.handleUpstreamRequest_of_bare (p : PacketId) (srcId : Nat) :
    SameAnswer view (handleUpstreamRequest c p srcId w) (handleUpstreamRequest c' p srcId w') :=
  ⟨rfl, hw.respond hc p srcId 100⟩

theorem Crossbar.tick_of_bare (m : Crossbar) : SameEffect id view (m.tick c w) (m.tick c' w') := by
  have hroute : ∀ p, route c' p w'.1 = route c p w.1 := by
    intro p
    rw [route, route, hc.downstream, Heap.address_of_bare hw.heap]
  unfold tick
  split
  · exact ⟨rfl, hw⟩
  · next p srcId rest _ =>
      dsimp only
      rw [hroute p, hc.downstream]
      split
      · have hans := hc.sendReq (route c p w.1) p w w' hw
        rw [hans.answer]
        split
        · exact ⟨rfl, hans.world⟩
        · exact ⟨rfl, hans.world⟩
      · exact ⟨rfl, hw.delete p⟩

theorem Arbiter.tick_of_bare (m : Arbiter) : SameEffect id view (m.tick c w) (m.tick c' w') := by
  unfold tick
  split
  · exact ⟨rfl, hw⟩
  · next p srcId rest _ =>
      rw [hc.downstream]
      split
      · have hans := hc.sendReq 0 p w w' hw
        dsimp only
        rw [hans.answer]
        split
        · exact ⟨rfl, hans.world⟩
        · exact ⟨rfl, hans.world⟩
      · exact ⟨rfl, hw.delete p⟩

theorem TrafficGenerator.tick_of_bare (d : Draw) (m : TrafficGenerator) :
    SameEffect id view (m.tick c d w) (m.tick c' d w') := by
  have hissue : SameEffect id view (m.issueRequest c d w) (m.issueRequest c' d w') := by
    unfold issueRequest
    split
    · exact ⟨rfl, Heap.newPayload_of_bare hw.heap _, hw.rest⟩
    · next addr isWrite m _ =>
        generalize (if isWrite then TlmCommand.write else .read) = command
        generalize (if isWrite then PacketType.reqWrite else .reqRead) = type
        obtain ⟨hfst, hnew⟩ := hw.newRequest
          { command := command, address := addr, dataLength := 4 } c.now c'.now type
        have hans := hc.sendReq 0 (w.1.newRequest
          { command := command, address := addr, dataLength := 4 }
          { srcCycle := c.now, type := type }).1 _ _ hnew
        dsimp only
        rw [hfst, hans.answer]
        split
        · exact ⟨rfl, hans.world⟩
        · exact ⟨rfl, hans.world.delete _⟩
  unfold tick
  rw [hc.downstream]
  split
  · exact hissue
  · exact ⟨rfl, hw⟩

/-! ### The virtual calls -/

theorem Module.tick_of_bare (d : Draw) (m : Module) :
    SameEffect id view (m.tick c d w) (m.tick c' d w') := by
  cases m with
  | cpu m =>
      have h := CPUSim.tick_of_bare hc hw d.rand m
      exact ⟨congrArg Module.cpu h.object, h.world⟩
  | cache m =>
      have h := (CacheSim.tryForward_of_bare hc hw m).effect
      exact ⟨congrArg Module.cache h.object, h.world⟩
  | memory => exact ⟨rfl, hw⟩
  | crossbar m =>
      have h := Crossbar.tick_of_bare hc hw m
      exact ⟨congrArg Module.crossbar h.object, h.world⟩
  | arbiter m =>
      have h := Arbiter.tick_of_bare hc hw m
      exact ⟨congrArg Module.arbiter h.object, h.world⟩
  | router => exact ⟨rfl, hw⟩
  | trafficGen m =>
      have h := TrafficGenerator.tick_of_bare hc hw d m
      exact ⟨congrArg Module.trafficGen h.object, h.world⟩

theorem Module.handleUpstreamRequest_of_bare (m : Module) (p : PacketId) (srcId : Nat) :
    SameResult id view (m.handleUpstreamRequest c p srcId w)
      (m.handleUpstreamRequest c' p srcId w') := by
  cases m with
  | cache m =>
      have h := CacheSim.handleUpstreamRequest_of_bare hc hw m p srcId
      exact ⟨h.answer, congrArg Module.cache h.effect.object, h.effect.world⟩
  | memory =>
      have h := MemorySim.handleUpstreamRequest_of_bare hc hw p srcId
      exact ⟨h.answer, rfl, h.world⟩
  | cpu m => exact SimObject.handleDefault_of_bare hw _ p
  | crossbar m => exact SimObject.handleDefault_of_bare hw _ p
  | arbiter m => exact SimObject.handleDefault_of_bare hw _ p
  | router => exact SimObject.handleDefault_of_bare hw _ p
  | trafficGen m => exact SimObject.handleDefault_of_bare hw _ p

theorem Module.handleDownstreamResponse_of_bare (m : Module) (p : PacketId) (srcId : Nat) :
    SameResult id view (m.handleDownstreamResponse c p srcId w)
      (m.handleDownstreamResponse c' p srcId w') := by
  cases m with
  | cpu m =>
      have h := CPUSim.handleDownstreamResponse_of_bare hw m p
      exact ⟨h.answer, congrArg Module.cpu h.effect.object, h.effect.world⟩
  | cache m =>
      have h := CacheSim.handleDownstreamResponse_of_bare hc hw m p srcId
      exact ⟨h.answer, congrArg Module.cache h.effect.object, h.effect.world⟩
  | memory => exact SimObject.handleDefault_of_bare hw _ p
  | crossbar m => exact SimObject.handleDefault_of_bare hw _ p
  | arbiter m => exact SimObject.handleDefault_of_bare hw _ p
  | router => exact SimObject.handleDefault_of_bare hw _ p
  | trafficGen m => exact SimObject.handleDefault_of_bare hw _ p

theorem Module.runDeferred_of_bare (m : Module) (e : Deferred) :
    SameEffect id view (m.runDeferred c e w) (m.runDeferred c' e w') := by
  cases e with
  | respond j p => exact ⟨rfl, (hc.sendResp j p w w' hw).world⟩
  | tryForward =>
      cases m with
      | cache m =>
          have h := (CacheSim.tryForward_of_bare hc hw m).effect
          exact ⟨congrArg Module.cache h.object, h.world⟩
      | cpu m => exact ⟨rfl, hw⟩
      | memory => exact ⟨rfl, hw⟩
      | crossbar m => exact ⟨rfl, hw⟩
      | arbiter m => exact ⟨rfl, hw⟩
      | router => exact ⟨rfl, hw⟩
      | trafficGen m => exact ⟨rfl, hw⟩

end Modules

end Gem5Sc
