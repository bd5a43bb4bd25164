/-
  File:      Gem5Sc/Modules/Around.lean
  Subject:   What is around a module: its downstream ports, its pending events, and the rest of the
             system behind them.

  The rest of the system does anything (`PeerAnswer`, `PeerOp`) except release a packet it does not
  have. A send goes one of two ways. It is taken, and the packet is the peer's or the channel's
  (`sendReq_taken`); or it is refused, in one of three places, and all three delete the packet
  (`sendReq_refused`).
-/
import Gem5Sc.Modules.Custody
import Mathlib.Data.List.Perm.Basic

namespace Gem5Sc

/-! ## 1. The rest of the system -/

/-- What is around a module. -/
structure Around where
  ports : List DownstreamPort := []
  /-- The scheduled `LambdaEvent`s of the module. -/
  events : List Deferred := []
  /-- The packets the rest of the system has. -/
  held : List PacketId := []
  /-- The packets for which `sendReq` returned false, and whether they were alive then. -/
  refused : List (PacketId × Bool) := []

/-- Something the rest of the system does. -/
inductive PeerOp where
  /-- It writes to packets and payloads. -/
  | write (packet : PacketId → Packet) (payload : PayloadId → Payload)
  | new (x : Packet)
  | newPayload (t : Payload)
  /-- It deletes a packet, if it has it. -/
  | release (p : PacketId)

/-- What the peer does with a packet. A peer that refuses may delete it, as `UpstreamPort` does. -/
structure PeerAnswer where
  accept : Bool
  deletes : Bool := false
  ops : List PeerOp := []

namespace Around

def perform (w : Heap × Around) : PeerOp → Heap × Around
  | .write packet payload => ({ w.1 with packet := packet, payload := payload }, w.2)
  | .new x => ((w.1.new x).2, { w.2 with held := w.1.nextPacket :: w.2.held })
  | .newPayload t => ((w.1.newPayload t).2, w.2)
  | .release p =>
      if p ∈ w.2.held then (w.1.delete p, { w.2 with held := w.2.held.erase p }) else w

def performAll (ops : List PeerOp) (w : Heap × Around) : Heap × Around := ops.foldl perform w

/-- The peer gets a packet. -/
def hand (p : PacketId) (w : Heap × Around) : Heap × Around :=
  (w.1, { w.2 with held := p :: w.2.held })

/-- `other->recv(pkt)`. -/
def recv (a : PeerAnswer) (p : PacketId) (w : Heap × Around) : Bool × (Heap × Around) :=
  (a.accept, performAll a.ops
    (if a.accept then hand p w else if a.deletes then (w.1.delete p, w.2) else w))

/-- `getDownstreamPorts()[i]`. -/
def port (x : Around) (i : Nat) : DownstreamPort := x.ports.getD i default

/-- `getDownstreamPorts()[i]->sendReq(pkt)`, with a note of a refusal. -/
def sendReq (a : PeerAnswer) (i : Nat) (p : PacketId) (w : Heap × Around) :
    Bool × (Heap × Around) :=
  let r := (w.2.port i).sendReq (some (recv a)) p w
  let x := { r.2.2.2 with ports := r.2.2.2.ports.set i r.2.1 }
  (r.1, (r.2.2.1,
    if r.1 then x else { x with refused := x.refused ++ [(p, decide (p ∉ r.2.2.1.released))] }))

/-- A call of the module in cycle `now`, with `n` downstream and `upstream` upstream ports. -/
def context (now : UInt64) (upstream n : Nat) (a : PeerAnswer) : Context Around where
  now := now
  upstream := upstream
  downstream := n
  sendReq := sendReq a
  sendResp _ p w := (a.accept, performAll a.ops (hand p w))
  tickUpstream _ w := w
  tickDownstream _ w := w
  schedule e _ x := { x with events := x.events ++ [e] }

/-- The responses that wait for their cycle. -/
def responses (x : Around) : List PacketId :=
  x.events.filterMap fun e => match e with
    | .respond _ p => some p
    | .tryForward => none

/-- The `k`-th event is taken out. -/
def pop (x : Around) (k : Nat) : Around := { x with events := x.events.eraseIdx k }

end Around
/-! ## 2. A send that is taken, and one that is not -/

/-- The channel exists, and has room, or is empty and the peer takes the packet. -/
def DownstreamPort.Takes (d : DownstreamPort) (vcId : Int) (accept : Bool) : Prop :=
  validVc vcId d.outputVcs.length = true ∧
    ((d.vc vcId.toNat).full = false ∨ (d.vc vcId.toNat).buffer = [] ∧ accept = true)

namespace DownstreamPort

variable {ρ : Type} (recv : PacketId → Heap × ρ → Bool × (Heap × ρ)) {d : DownstreamPort}
  {p : PacketId} {w : Heap × ρ}

/-- A packet that is taken goes to the peer, or to the channel with or without a refusal. -/
theorem sendReq_of_takes (h : d.Takes (w.1.packet p).vcId (recv p w).1) :
    (d.sendReq (some recv) p w).1 = true ∧
      ((d.sendReq (some recv) p w).2.2 = w ∨ (d.sendReq (some recv) p w).2.2 = (recv p w).2) := by
  obtain ⟨hv, hroom⟩ := h
  by_cases hb : (d.vc (w.1.packet p).vcId.toNat).buffer = []
  · rw [sendReq_direct hv hb]
    cases ha : (recv p w).1 with
    | true =>
        have hsend : (SimplePort.send (some recv) p w).1 = true := ha
        rw [if_pos hsend]
        exact ⟨rfl, Or.inr rfl⟩
    | false =>
        have hf : ((d.counted p w.1).vc (w.1.packet p).vcId.toNat).full = false := by
          rcases hroom with hf | ⟨-, h⟩
          · exact hf
          · rw [ha] at h
            cases h
        have hsend : (SimplePort.send (some recv) p w).1 = false := ha
        rw [if_neg (by rw [hsend]; decide), enqueueOrDrop_of_not_full hf]
        exact ⟨rfl, Or.inr rfl⟩
  · rw [sendReq_queued hv hb, enqueueOrDrop_of_not_full (hroom.resolve_right fun h => hb h.1)]
    exact ⟨rfl, Or.inl rfl⟩

/-- **Every refusal deletes the packet.** -/
theorem sendReq_of_not_takes (h : ¬ d.Takes (w.1.packet p).vcId (recv p w).1) :
    (d.sendReq (some recv) p w).1 = false ∧ p ∈ (d.sendReq (some recv) p w).2.2.1.released := by
  cases hv : validVc (w.1.packet p).vcId d.outputVcs.length with
  | false =>
      rw [sendReq_invalid hv]
      exact ⟨rfl, List.mem_cons_self⟩
  | true =>
      have hroom : ¬ ((d.vc (w.1.packet p).vcId.toNat).full = false ∨
          (d.vc (w.1.packet p).vcId.toNat).buffer = [] ∧ (recv p w).1 = true) :=
        fun hroom => h ⟨hv, hroom⟩
      rw [not_or, Bool.not_eq_false] at hroom
      by_cases hb : (d.vc (w.1.packet p).vcId.toNat).buffer = []
      · rw [sendReq_direct hv hb]
        have hsend : ¬ (SimplePort.send (some recv) p w).1 = true := fun ha => hroom.2 ⟨hb, ha⟩
        rw [if_neg hsend]
        have hf : ((d.counted p w.1).vc (w.1.packet p).vcId.toNat).full = true := hroom.1
        rw [enqueueOrDrop_of_full hf]
        exact ⟨rfl, List.mem_cons_self⟩
      · rw [sendReq_queued hv hb, enqueueOrDrop_of_full hroom.1]
        exact ⟨rfl, List.mem_cons_self⟩

end DownstreamPort

namespace Around

/-- The scheduled events and the notes are those of before. -/
structure Apart (x x' : Around) : Prop where
  events : x'.events = x.events
  refused : x'.refused = x.refused

theorem Apart.refl (x : Around) : Apart x x := ⟨rfl, rfl⟩

theorem Apart.trans {x₁ x₂ x₃ : Around} (h : Apart x₁ x₂) (h' : Apart x₂ x₃) : Apart x₁ x₃ :=
  ⟨h'.events.trans h.events, h'.refused.trans h.refused⟩

theorem Apart.responses {x x' : Around} (h : Apart x x') : x'.responses = x.responses := by
  unfold Around.responses
  rw [h.events]

/-- The rest of the system keeps to what it has. -/
theorem perform_owns {l : List PacketId} {w : Heap × Around} (ho : w.1.Owns (l ++ w.2.held))
    (op : PeerOp) : (perform w op).1.Owns (l ++ (perform w op).2.held) ∧
      Apart w.2 (perform w op).2 := by
  cases op with
  | write packet payload => exact ⟨ho.congr rfl rfl, Apart.refl _⟩
  | new x =>
      refine ⟨(ho.new x).mono fun p => ?_, ⟨rfl, rfl⟩⟩
      show (l ++ w.1.nextPacket :: w.2.held).count p ≤ _
      rw [List.count_append, List.count_cons, List.count_cons, List.count_append]
      omega
  | newPayload t => exact ⟨ho.congr rfl rfl, Apart.refl _⟩
  | release p =>
      by_cases hp : p ∈ w.2.held
      · rw [show perform w (.release p) =
            (w.1.delete p, { w.2 with held := w.2.held.erase p }) from if_pos hp]
        refine ⟨Heap.Owns.delete (ho.mono fun r => ?_), ⟨rfl, rfl⟩⟩
        have hperm := (List.perm_cons_erase hp).count_eq r
        rw [List.count_cons] at hperm
        show (p :: (l ++ w.2.held.erase p)).count r ≤ _
        rw [List.count_cons, List.count_append, List.count_append]
        omega
      · rw [show perform w (.release p) = w from if_neg hp]
        exact ⟨ho, Apart.refl _⟩

theorem performAll_owns {l : List PacketId} (ops : List PeerOp) {w : Heap × Around}
    (ho : w.1.Owns (l ++ w.2.held)) : (performAll ops w).1.Owns (l ++ (performAll ops w).2.held) ∧
      Apart w.2 (performAll ops w).2 := by
  induction ops generalizing w with
  | nil => exact ⟨ho, Apart.refl _⟩
  | cons op ops ih =>
      obtain ⟨h1, h2⟩ := perform_owns ho op
      obtain ⟨h3, h4⟩ := ih h1
      exact ⟨h3, h2.trans h4⟩

/-- A packet that the peer gets. -/
theorem hand_owns {l : List PacketId} {p : PacketId} {w : Heap × Around} (ops : List PeerOp)
    (ho : w.1.Owns (p :: (l ++ w.2.held))) :
    (performAll ops (hand p w)).1.Owns (l ++ (performAll ops (hand p w)).2.held) ∧
      Apart w.2 (performAll ops (hand p w)).2 := by
  have hhand : (hand p w).1.Owns (l ++ (hand p w).2.held) := by
    refine ho.mono fun r => ?_
    show (l ++ p :: w.2.held).count r ≤ _
    rw [List.count_append, List.count_cons, List.count_cons, List.count_append]
    omega
  obtain ⟨h1, h2⟩ := performAll_owns ops hhand
  exact ⟨h1, ⟨h2.events, h2.refused⟩⟩

theorem recv_owns {l : List PacketId} {p : PacketId} {w : Heap × Around} (a : PeerAnswer)
    (ho : w.1.Owns (p :: (l ++ w.2.held))) :
    (recv a p w).2.1.Owns (l ++ (recv a p w).2.2.held) ∧ Apart w.2 (recv a p w).2.2 := by
  unfold recv
  split
  · exact hand_owns a.ops ho
  · split
    · exact performAll_owns (w := (w.1.delete p, w.2)) a.ops ho.delete
    · refine performAll_owns a.ops (ho.mono fun r => ?_)
      rw [List.count_cons]
      omega

variable {a : PeerAnswer} {i : Nat} {p : PacketId} {w : Heap × Around}

/-- **A send that is taken**: the packet is no longer the module's. -/
theorem sendReq_taken {l : List PacketId} (ho : w.1.Owns (p :: (l ++ w.2.held)))
    (ht : (w.2.port i).Takes (w.1.packet p).vcId a.accept) :
    (sendReq a i p w).1 = true ∧
      (sendReq a i p w).2.1.Owns (l ++ (sendReq a i p w).2.2.held) ∧
      Apart w.2 (sendReq a i p w).2.2 := by
  obtain ⟨hok, hw⟩ := DownstreamPort.sendReq_of_takes (recv a) ht
  have hafter : ((w.2.port i).sendReq (some (recv a)) p w).2.2.1.Owns
      (l ++ ((w.2.port i).sendReq (some (recv a)) p w).2.2.2.held) ∧
      Apart w.2 ((w.2.port i).sendReq (some (recv a)) p w).2.2.2 := by
    rcases hw with hw | hw
    · rw [hw]
      refine ⟨ho.mono fun r => ?_, Apart.refl _⟩
      rw [List.count_cons]
      omega
    · rw [hw]
      exact recv_owns a ho
  refine ⟨hok, ?_⟩
  unfold sendReq
  dsimp only
  rw [if_pos hok]
  exact ⟨hafter.1, ⟨hafter.2.events, hafter.2.refused⟩⟩

/-- **A send that is refused**: the packet has been deleted. -/
theorem sendReq_refused (ht : ¬ (w.2.port i).Takes (w.1.packet p).vcId a.accept) :
    (sendReq a i p w).1 = false ∧ (p, false) ∈ (sendReq a i p w).2.2.refused := by
  obtain ⟨hno, hdead⟩ := DownstreamPort.sendReq_of_not_takes (recv a) ht
  refine ⟨hno, ?_⟩
  unfold sendReq
  dsimp only
  rw [if_neg (by rw [hno]; decide)]
  refine List.mem_append_right _ (List.mem_singleton.mpr ?_)
  rw [decide_eq_false (not_not_intro hdead)]

theorem count_responses_pop {x : Around} {k : Nat} {e : Deferred} (hk : x.events[k]? = some e)
    (r : PacketId) : x.responses.count r =
      ({ x with events := e :: (x.pop k).events } : Around).responses.count r := by
  obtain ⟨hlt, rfl⟩ := List.getElem?_eq_some_iff.mp hk
  exact ((List.getElem_cons_eraseIdx_perm hlt).symm.filterMap _).count_eq r

theorem count_responses_pop_respond {x : Around} {k j : Nat} {p : PacketId}
    (hk : x.events[k]? = some (.respond j p)) (r : PacketId) :
    x.responses.count r = (p :: (x.pop k).responses).count r := count_responses_pop hk r

theorem count_responses_pop_tryForward {x : Around} {k : Nat}
    (hk : x.events[k]? = some .tryForward) (r : PacketId) :
    x.responses.count r = (x.pop k).responses.count r := count_responses_pop hk r

end Around

end Gem5Sc
