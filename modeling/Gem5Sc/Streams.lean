/-
  File:      Gem5Sc/Streams.lean
  Subject:   Credit-controlled streams: `StreamProducer`, `StreamConsumer`, and what is known of the
             `CreditPool` between them.

  `createStream` gives each stream the next number and a port of its own (`created_createStreams`,
  `streamIds_nodup`). The producer takes a credit of a stream for each packet and gives it back at
  once when the packet is refused. The consumer schedules a completion for each packet it takes,
  five cycles later, and the completion sends a packet with one credit back.

  `credit_pool.hh` is not part of the repository. `CreditPool` says what the two calls of `tick` do
  to the account of a stream, and leaves open when a credit is free; `reserveCredits` may answer
  and do anything.
-/
import Gem5Sc.Library.Runs
import Gem5Sc.Modules
import Gem5Sc.PortManager
import Mathlib.Data.List.Nodup
import Mathlib.Logic.Function.Iterate

namespace Gem5Sc

/-- `class CreditPool`. -/
structure CreditPool where
  Carrier : Type
  /-- The credits of a stream that have been taken and not given back. -/
  used : Carrier → UInt64 → Nat
  tryGetCredit : UInt64 → Carrier → Bool × Carrier
  returnCredit : UInt64 → Carrier → Carrier
  used_take : ∀ s k, used (tryGetCredit s k).2 s = used k s + (tryGetCredit s k).1.toNat
  used_take_ne : ∀ s t k, t ≠ s → used (tryGetCredit s k).2 t = used k t
  used_return : ∀ s k, used (returnCredit s k) s = used k s - 1
  used_return_ne : ∀ s t k, t ≠ s → used (returnCredit s k) t = used k t

variable {ρ : Type}

/-! ## 1. StreamProducer -/

/-- `struct StreamInfo`; nothing reads its `reserved_credits`. -/
structure StreamInfo where
  streamId : UInt64
  totalPackets : UInt64
  sentCount : UInt64 := 0
  deriving DecidableEq, Repr

/-- What a `StreamProducer` keeps of its streams. -/
structure StreamProducer (κ : Type) where
  creditPool : κ
  streams : List StreamInfo := []
  nextStreamId : UInt64 := 1001
  portManager : PortManager := .empty

namespace StreamProducer

/-! ### Creating streams -/

section Create

variable {κ : Type}

/-- `StreamProducer::createStream`; `reserve` is the pool's `reserveCredits`. A refused stream
    has used up its number. -/
def createStream (reserve : UInt64 → Int → κ → Bool × κ) (packetCount : UInt64)
    (reservedCredits : Int) (s : StreamProducer κ) : StreamProducer κ :=
  let sid := s.nextStreamId
  let r := reserve sid reservedCredits s.creditPool
  if r.1 then
    { creditPool := r.2
      streams := s.streams ++ [{ streamId := sid, totalPackets := packetCount }]
      nextStreamId := sid + 1
      portManager := s.portManager.addDownstreamPort [4] [] ("stream_" ++ toString sid) }
  else { s with creditPool := r.2, nextStreamId := sid + 1 }

/-- A call of it, and what has become of the pool since the last one. -/
structure StreamCall (κ : Type) where
  packetCount : UInt64
  reservedCredits : Int := 2
  since : κ → κ := id

/-- A producer after a sequence of calls. -/
def createStreams (reserve : UInt64 → Int → κ → Bool × κ) (s : StreamProducer κ)
    (calls : List (StreamCall κ)) : StreamProducer κ :=
  Library.run (fun s c => createStream reserve c.packetCount c.reservedCredits
    { s with creditPool := c.since s.creditPool }) s calls

/-- The number of the `n`-th call. -/
def streamNumber (n : Nat) : UInt64 := 1001 + UInt64.ofNat n

theorem streamNumber_succ (n : Nat) : streamNumber n + 1 = streamNumber (n + 1) := by
  unfold streamNumber
  rw [UInt64.ofNat_add n 1, ← UInt64.add_assoc]
  rfl

theorem streamNumber_inj {i j : Nat} (hi : i < 2 ^ 64) (hj : j < 2 ^ 64)
    (h : streamNumber i = streamNumber j) : i = j := by
  have hn := congrArg UInt64.toNat ((UInt64.add_right_inj 1001).mp h)
  rw [UInt64.toNat_ofNat_of_lt' hi, UInt64.toNat_ofNat_of_lt' hj] at hn
  exact hn

/-- What `n` calls leave: each stream has the number of a call of its own, and the port with its
    number at its own index. -/
structure Created (n : Nat) (s : StreamProducer κ) : Prop where
  next : s.nextStreamId = streamNumber n
  ids : (s.streams.map (·.streamId)).Sublist ((List.range n).map streamNumber)
  ports : s.portManager.downstreamPorts = s.streams.mapIdx fun i x =>
    DownstreamPort.create i [4] [] ("stream_" ++ toString x.streamId)

theorem created_new (k : κ) : Created 0 ({ creditPool := k } : StreamProducer κ) :=
  ⟨rfl, List.Sublist.refl [], rfl⟩

/-- One call, whatever the pool answers. -/
theorem Created.createStream {n : Nat} {s : StreamProducer κ} (h : Created n s)
    (reserve : UInt64 → Int → κ → Bool × κ) (packetCount : UInt64) (reservedCredits : Int) :
    Created (n + 1) (s.createStream reserve packetCount reservedCredits) := by
  have hnext : s.nextStreamId + 1 = streamNumber (n + 1) := by
    rw [h.next, streamNumber_succ]
  have hrange : (List.range (n + 1)).map streamNumber =
      (List.range n).map streamNumber ++ [s.nextStreamId] := by
    rw [List.range_succ, List.map_append, h.next]
    rfl
  unfold StreamProducer.createStream
  dsimp only
  split
  · refine ⟨hnext, ?_, ?_⟩
    · rw [hrange, List.map_append]
      exact h.ids.append (List.Sublist.refl _)
    · have hlen : s.portManager.downstreamPorts.length = s.streams.length := by
        rw [h.ports, List.length_mapIdx]
      show s.portManager.downstreamPorts ++ [_] = _
      rw [hlen, h.ports, List.mapIdx_concat]
  · refine ⟨hnext, ?_, h.ports⟩
    rw [hrange]
    exact h.ids.trans (List.sublist_append_left _ _)

/-- **The streams of a producer**, after any number of calls. -/
theorem created_createStreams (reserve : UInt64 → Int → κ → Bool × κ) (k : κ)
    (calls : List (StreamCall κ)) :
    Created calls.length (createStreams reserve { creditPool := k } calls) := by
  have hrun : ∀ (calls : List (StreamCall κ)) (n : Nat) (s : StreamProducer κ), Created n s →
      Created (n + calls.length) (createStreams reserve s calls) := by
    intro calls
    induction calls with
    | nil => exact fun _ _ h => h
    | cons c calls ih =>
        intro n s h
        have hpool : Created n { s with creditPool := c.since s.creditPool } := { h with }
        rw [List.length_cons, ← Nat.add_assoc, Nat.add_right_comm]
        exact ih (n + 1) _ (hpool.createStream reserve c.packetCount c.reservedCredits)
  have h := hrun calls 0 _ (created_new k)
  rwa [Nat.zero_add] at h

/-- **The streams of a producer are different**, as long as the numbers do not repeat. -/
theorem streamIds_nodup (reserve : UInt64 → Int → κ → Bool × κ) (k : κ)
    {calls : List (StreamCall κ)} (hn : calls.length ≤ 2 ^ 64) :
    ((createStreams reserve { creditPool := k } calls).streams.map (·.streamId)).Nodup := by
  refine (created_createStreams reserve k calls).ids.nodup ?_
  refine List.Nodup.map_on (fun i hi j hj h => ?_) List.nodup_range
  exact streamNumber_inj (Nat.lt_of_lt_of_le (List.mem_range.mp hi) hn)
    (Nat.lt_of_lt_of_le (List.mem_range.mp hj) hn) h

end Create

/-! ### Sending -/

/-- The packet `tick` makes for a stream. -/
def newData (now : UInt64) (s : StreamInfo) (h : Heap) : PacketId × Heap :=
  h.newRequest { command := .write, dataLength := 4 }
    { srcCycle := now, type := .streamData, streamId := s.streamId, seqNum := s.sentCount }

/-- A credit is taken for the next packet of the stream. -/
def takes (P : CreditPool) (rand : Nat) (s : StreamInfo) (k : P.Carrier) : Bool :=
  s.sentCount < s.totalPackets && rand % 5 == 0 && (P.tryGetCredit s.streamId k).1

/-- The body of the loop of `tick`, for one stream and its port; `rand` is what `rand()` returns. -/
def tickStream (P : CreditPool) (sendReq : PacketId → Heap × ρ → Bool × (Heap × ρ)) (now : UInt64)
    (rand : Nat) (s : StreamInfo) (k : P.Carrier) (w : Heap × ρ) :
    StreamInfo × P.Carrier × (Heap × ρ) :=
  if s.sentCount ≥ s.totalPackets then (s, k, w)
  else if rand % 5 = 0 then
    let g := P.tryGetCredit s.streamId k
    if g.1 then
      let x := newData now s w.1
      let r := sendReq x.1 (x.2, w.2)
      if r.1 then ({ s with sentCount := s.sentCount + 1 }, g.2, r.2)
      else (s, P.returnCredit s.streamId g.2, (r.2.1.delete x.1, r.2.2))
    else (s, g.2, w)
  else (s, k, w)

/-- `StreamProducer::handleDownstreamResponse`, with two arguments. -/
def handleDownstreamResponse (P : CreditPool) (k : P.Carrier) (p : PacketId) (h : Heap) :
    Bool × P.Carrier × Heap :=
  if (h.packet p).isCredit then
    (true, (P.returnCredit (h.packet p).streamId)^[(h.packet p).credits.toNat] k, h.delete p)
  else (false, k, h)

/-- What an upstream port of a producer calls: the class has no `handleUpstreamRequest`. -/
def handleUpstreamRequest (p : PacketId) (w : Heap × ρ) : Bool × (Heap × ρ) :=
  SimObject.handleDefault p w

section Tick

variable {P : CreditPool} {sendReq : PacketId → Heap × ρ → Bool × (Heap × ρ)} {now : UInt64}
  {rand : Nat} {s : StreamInfo} {k : P.Carrier} {w : Heap × ρ}

/-- Without a credit nothing happens, but for what the pool does when it has none. -/
theorem tickStream_idle (sendReq : PacketId → Heap × ρ → Bool × (Heap × ρ)) (now : UInt64)
    (w : Heap × ρ) (h : takes P rand s k = false) :
    ∃ k', tickStream P sendReq now rand s k w = (s, k', w) ∧
      ∀ t, P.used k' t = P.used k t := by
  unfold tickStream
  split
  · exact ⟨k, rfl, fun _ => rfl⟩
  · next hlt =>
      split
      · next hr =>
          have hg : (P.tryGetCredit s.streamId k).1 = false := by
            have hlt' : s.sentCount < s.totalPackets := UInt64.not_le.mp hlt
            simpa [takes, hlt', hr] using h
          rw [if_neg (by rw [hg]; exact Bool.false_ne_true)]
          refine ⟨_, rfl, fun t => ?_⟩
          by_cases ht : t = s.streamId
          · rw [ht, P.used_take, hg]
            rfl
          · exact P.used_take_ne _ _ _ ht
      · exact ⟨k, rfl, fun _ => rfl⟩

/-- With a credit the next packet is sent: it counts, or the credit goes back. -/
theorem tickStream_takes (h : takes P rand s k = true) :
    tickStream P sendReq now rand s k w =
      if (sendReq (newData now s w.1).1 ((newData now s w.1).2, w.2)).1 then
        ({ s with sentCount := s.sentCount + 1 }, (P.tryGetCredit s.streamId k).2,
          (sendReq (newData now s w.1).1 ((newData now s w.1).2, w.2)).2)
      else
        (s, P.returnCredit s.streamId (P.tryGetCredit s.streamId k).2,
          ((sendReq (newData now s w.1).1 ((newData now s w.1).2, w.2)).2.1.delete
            (newData now s w.1).1,
            (sendReq (newData now s w.1).1 ((newData now s w.1).2, w.2)).2.2)) := by
  simp only [takes, Bool.and_eq_true, decide_eq_true_eq, beq_iff_eq] at h
  unfold tickStream
  rw [if_neg (UInt64.not_le.mpr h.1.1), if_pos h.1.2]
  exact if_pos h.2

/-- One credit more is taken, and a packet is left to send. -/
theorem used_takes (h : takes P rand s k = true) :
    s.sentCount < s.totalPackets ∧
      P.used (P.tryGetCredit s.streamId k).2 s.streamId = P.used k s.streamId + 1 := by
  simp only [takes, Bool.and_eq_true, decide_eq_true_eq] at h
  have hused := P.used_take s.streamId k
  rw [h.2, Bool.toNat_true] at hused
  exact ⟨h.1.1, hused⟩

end Tick

end StreamProducer

/-! ## 2. StreamConsumer -/

namespace StreamConsumer

/-- The test for a full buffer: `getUpstreamPorts().size() > 4`. -/
def full (upstream : Nat) : Bool := upstream > 4

/-- `StreamConsumer::handleUpstreamRequest`, with two arguments; `schedule` is that of the event
    that completes the packet. -/
def handleUpstreamRequest (upstream : Nat) (schedule : PacketId → UInt64 → ρ → ρ) (p : PacketId)
    (w : Heap × ρ) : Bool × (Heap × ρ) :=
  if full upstream then (false, (w.1.delete p, w.2)) else (true, (w.1, schedule p 5 w.2))

/-- The packet with the credit for packet `p`. -/
def newCredit (now : UInt64) (p : PacketId) (h : Heap) : PacketId × Heap :=
  h.new { srcCycle := now, type := .creditReturn, credits := 1, streamId := (h.packet p).streamId }

/-- The body of that event; `send` is that of the first downstream port. -/
def complete (downstream : Nat) (send : PacketId → Heap × ρ → Bool × (Heap × ρ)) (now : UInt64)
    (p : PacketId) (w : Heap × ρ) : Heap × ρ :=
  let x := newCredit now p w.1
  let w := if downstream ≠ 0 then (send x.1 (x.2, w.2)).2 else (x.2.delete x.1, w.2)
  (w.1.delete p, w.2)

end StreamConsumer

end Gem5Sc
