/-
  File:      Gem5Sc/Link/Books.lean
  Subject:   THE STATISTICS OF THE TWO ENDS OF A LINK, counter by counter.

  A packet is counted twice, once by each end, and by different code: `MasterPort::send` and
  `SlavePort::updateStats` on the way out, `sendResp` and `MasterPort::updateStats` on the way
  back. They agree on requests and on responses. They differ on stream packets (counted by the
  receiver only), on credits (counted as such by the `MasterPort` only, in both directions) and on
  whatever `sendResp` carries besides responses (counted as a response by the sender only).

  `Tally` is what a run has put through these gaps, `Apart` says that the books of the two ends
  are apart by exactly a tally. The counters are 64 bits wide, and so are the tallies.

  The `SlavePort` is any (`recvReq` is a parameter), and so is the owner of the `DownstreamPort`.
-/
import Gem5Sc.Link

namespace Gem5Sc

/-- `SlavePort::recv`, with the `recvReq` of the subclass. -/
def SlavePort.recv {ρ : Type} (recvReq : PacketId → Heap × ρ → Bool × (Heap × ρ)) (now : UInt64)
    (s : SlavePort) (p : PacketId) (w : Heap × ρ) : Bool × SlavePort × (Heap × ρ) :=
  let h := w.1.setDstCycle p now
  let r := recvReq p (h, w.2)
  (r.1, { s with stats := updateStats h p s.stats }, r.2)

/-- The `recvReq` of an `UpstreamPort`, on its channels. -/
def UpstreamPort.recvReqVcs (now : UInt64) (u : UpstreamPort) (p : PacketId)
    (w : Heap × List InputVC) : Bool × (Heap × List InputVC) :=
  let r := { u with inputVcs := w.2 }.recvReq now p w.1
  (r.1, (r.2.2, r.2.1.inputVcs))

/-- An `UpstreamPort` is such a `SlavePort`. -/
theorem UpstreamPort.recv_eq (now : UInt64) (u : UpstreamPort) (p : PacketId) (h : Heap) :
    let r := SlavePort.recv (u.recvReqVcs now) now u.toSlavePort p (h, u.inputVcs)
    u.recv now p h = (r.1, { u with toSlavePort := r.2.1, inputVcs := r.2.2.2 }, r.2.2.1) := by
  intro r
  show (u.received now p h).recvReq now p (h.setDstCycle p now) = _
  have hr : r = SlavePort.recv (u.recvReqVcs now) now u.toSlavePort p (h, u.inputVcs) := rfl
  simp only [SlavePort.recv, UpstreamPort.recvReqVcs] at hr
  cases hv : validVc ((h.setDstCycle p now).packet p).vcId u.inputVcs.length with
  | false =>
      rw [UpstreamPort.recvReq_invalid (u := u) now hv] at hr
      rw [UpstreamPort.recvReq_invalid (u := u.received now p h) now hv, hr]
      rfl
  | true =>
      cases hf : (u.vc ((h.setDstCycle p now).packet p).vcId.toNat).full with
      | true =>
          rw [UpstreamPort.recvReq_full (u := u) now hv hf] at hr
          rw [UpstreamPort.recvReq_full (u := u.received now p h) now hv hf, hr]
          rfl
      | false =>
          rw [UpstreamPort.recvReq_enqueued (u := u) now hv hf] at hr
          rw [UpstreamPort.recvReq_enqueued (u := u.received now p h) now hv hf, hr]
          rfl

/-- A `DownstreamPort` and a `SlavePort` bound by a `PortPair`. -/
structure Books (ρ : Type) where
  heap : Heap
  env : ρ
  master : DownstreamPort
  slave : SlavePort

namespace Books

variable {ρ : Type}

/-- The calls on the two ports, and whatever else happens (`other`). -/
inductive Call (ρ : Type) where
  | sendReq (p : PacketId)
  | send (p : PacketId)
  | sendResp (p : PacketId)
  | other (act : Heap × ρ → Heap × ρ)

section Step

variable (recvReq : UInt64 → PacketId → Heap × ρ → Bool × (Heap × ρ))
variable (response : UInt64 → Handler ρ)

/-- What `send` on the `DownstreamPort` reaches. -/
def slaveEnd (now : UInt64) : Peer (SlavePort × ρ) := some fun p w =>
  let r := SlavePort.recv (recvReq now) now w.2.1 p (w.1, w.2.2)
  (r.1, (r.2.2.1, (r.2.1, r.2.2.2)))

/-- What `send` on the `SlavePort` reaches. -/
def masterEnd (now : UInt64) : Peer (DownstreamPort × ρ) := some fun p w =>
  let d := w.2.1
  let r := d.toMasterPort.recv (response now) now d.id d.label p (w.1, w.2.2)
  (r.1, (r.2.2.1, ({ d with toMasterPort := r.2.1 }, r.2.2.2)))

/-- One call, at a cycle. -/
def step (b : Books ρ) : UInt64 × Call ρ → Books ρ
  | (now, .sendReq p) =>
      let r := b.master.sendReq (slaveEnd recvReq now) p (b.heap, (b.slave, b.env))
      { heap := r.2.2.1, env := r.2.2.2.2, master := r.2.1, slave := r.2.2.2.1 }
  | (now, .send p) =>
      let r := b.master.toMasterPort.send (slaveEnd recvReq now) p (b.heap, (b.slave, b.env))
      { heap := r.2.2.1, env := r.2.2.2.2, master := { b.master with toMasterPort := r.2.1 },
        slave := r.2.2.2.1 }
  | (now, .sendResp p) =>
      let r := b.slave.sendResp (masterEnd response now) p (b.heap, (b.master, b.env))
      { heap := r.2.2.1, env := r.2.2.2.2, master := r.2.2.2.1, slave := r.2.1 }
  | (_, .other act) =>
      { b with heap := (act (b.heap, b.env)).1, env := (act (b.heap, b.env)).2 }

end Step

/-- A bound pair with fresh statistics. -/
def fresh (heap : Heap) (env : ρ) (master : DownstreamPort) (slave : SlavePort) : Books ρ where
  heap := heap
  env := env
  master := { master with stats := {} }
  slave := { slave with stats := {} }

/-- **The books agree.** -/
structure Agree (m s : PortStats) : Prop where
  reqCount : m.reqCount = s.reqCount
  respCount : m.respCount = s.respCount
  byteCount : m.byteCount = s.byteCount
  creditSent : m.creditSent = s.creditReceived
  creditReceived : s.creditSent = m.creditReceived

/-- What only one end counts. -/
structure Tally where
  /-- Stream packets to the `SlavePort`. -/
  streams : UInt64 := 0
  /-- Credits to the `SlavePort`. -/
  credits : UInt64 := 0
  /-- Packets back that are no responses. -/
  back : UInt64 := 0
  /-- The bytes of their payloads. -/
  backBytes : UInt64 := 0
  /-- The credits among them. -/
  backCredits : UInt64 := 0
  deriving DecidableEq, Repr

/-- Two tallies together. -/
def Tally.plus (t t' : Tally) : Tally where
  streams := t.streams + t'.streams
  credits := t.credits + t'.credits
  back := t.back + t'.back
  backBytes := t.backBytes + t'.backBytes
  backCredits := t.backCredits + t'.backCredits

theorem Tally.zero_plus (t : Tally) : Tally.plus {} t = t := by
  simp [Tally.plus]

theorem Tally.plus_zero (t : Tally) : t.plus {} = t := by
  simp [Tally.plus]

theorem Tally.plus_plus (t₁ t₂ t₃ : Tally) :
    (t₁.plus t₂).plus t₃ = t₂.plus (t₁.plus t₃) := by
  simp only [Tally.plus, Tally.mk.injEq]
  refine ⟨?_, ?_, ?_, ?_, ?_⟩ <;> grind

/-- A packet handed to the `SlavePort`. -/
def handed (h : Heap) (p : PacketId) : Tally :=
  if (h.packet p).isStream then { streams := 1 }
  else if (h.packet p).isCredit then { credits := 1 }
  else {}

/-- A packet handed back. -/
def handedBack (h : Heap) (p : PacketId) : Tally :=
  if (h.packet p).isResponse then {}
  else { back := 1, backBytes := h.dataLength p,
         backCredits := if (h.packet p).isCredit then 1 else 0 }

/-- `sendReq` hands a packet on when it has a channel and this is empty. -/
def handsOn (b : Books ρ) (p : PacketId) : Bool :=
  validVc (b.heap.packet p).vcId b.master.outputVcs.length &&
    (b.master.vc (b.heap.packet p).vcId.toNat).buffer.isEmpty

/-- What one call adds to the tally. -/
def tallyOf (b : Books ρ) : Call ρ → Tally
  | .sendReq p => if b.handsOn p then handed b.heap p else {}
  | .send p => handed b.heap p
  | .sendResp p => handedBack b.heap p
  | .other _ => {}

/-- The tally of a run. -/
def tally (recvReq : UInt64 → PacketId → Heap × ρ → Bool × (Heap × ρ))
    (response : UInt64 → Handler ρ) : Books ρ → List (UInt64 × Call ρ) → Tally
  | _, [] => {}
  | b, a :: as => (tallyOf b a.2).plus (tally recvReq response (step recvReq response b a) as)

/-- The books of the two ends are apart by the tally `t`. -/
structure Apart (t : Tally) (m s : PortStats) : Prop where
  reqCount : s.reqCount = m.reqCount + t.streams
  respCount : s.respCount = m.respCount + t.back
  byteCount : s.byteCount = m.byteCount + t.backBytes
  creditSent : m.creditSent = s.creditReceived + t.credits
  creditReceived : m.creditReceived = s.creditSent + t.backCredits

theorem Apart.agree_iff {t : Tally} {m s : PortStats} (h : Apart t m s) :
    Agree m s ↔ t = {} := by
  constructor
  · intro hA
    have h1 := UInt64.left_eq_add.mp (hA.reqCount.trans h.reqCount)
    have h2 := UInt64.left_eq_add.mp (hA.respCount.trans h.respCount)
    have h3 := UInt64.left_eq_add.mp (hA.byteCount.trans h.byteCount)
    have h4 := UInt64.left_eq_add.mp (hA.creditSent.symm.trans h.creditSent)
    have h5 := UInt64.left_eq_add.mp (hA.creditReceived.trans h.creditReceived)
    obtain ⟨streams, credits, back, backBytes, backCredits⟩ := t
    subst h1 h2 h3 h4 h5
    rfl
  · rintro rfl
    obtain ⟨h1, h2, h3, h4, h5⟩ := h
    rw [UInt64.add_zero] at h1 h2 h3 h4 h5
    exact ⟨h1.symm, h2.symm, h3.symm, h4, h5.symm⟩

/-! ## 1. One packet -/

theorem setDstCycle_type (h : Heap) (p : PacketId) (now : UInt64) :
    ((h.setDstCycle p now).packet p).type = (h.packet p).type := by
  simp [Heap.setDstCycle]

theorem setDstCycle_dataLength (h : Heap) (p : PacketId) (now : UInt64) :
    (h.setDstCycle p now).dataLength p = h.dataLength p := by
  simp [Heap.setDstCycle, Heap.dataLength]

/-- A delay sample leaves these counters alone, on either side. -/
theorem Apart.addDelay {t : Tally} {m s : PortStats} (h : Apart t m s) (d : UInt64) :
    Apart t m (s.addDelay d) ∧ Apart t (m.addDelay d) s :=
  ⟨⟨h.reqCount, h.respCount, h.byteCount, h.creditSent, h.creditReceived⟩,
    ⟨h.reqCount, h.respCount, h.byteCount, h.creditSent, h.creditReceived⟩⟩

/-- **A packet to the `SlavePort`**, counted by both ends. -/
theorem Apart.handed {t : Tally} {m s : PortStats} (h : Apart t m s) (heap : Heap) (p : PacketId)
    (now : UInt64) :
    Apart ((Books.handed heap p).plus t) (MasterPort.countSend heap p m)
      (SlavePort.updateStats (heap.setDstCycle p now) p s) := by
  have hcount : ∀ s', Apart t m s' → Apart ((Books.handed heap p).plus t)
      (MasterPort.countSend heap p m)
      (if ((heap.setDstCycle p now).packet p).isRequest then
        { s' with reqCount := s'.reqCount + 1,
                  byteCount := s'.byteCount + (heap.setDstCycle p now).dataLength p }
      else if ((heap.setDstCycle p now).packet p).isStream then
        { s' with reqCount := s'.reqCount + 1 }
      else s') := by
    intro s' ⟨h1, h2, h3, h4, h5⟩
    cases htype : (heap.packet p).type <;>
      simp only [Books.handed, MasterPort.countSend, Packet.isRequest, Packet.isStream,
        Packet.isCredit, setDstCycle_type, setDstCycle_dataLength, htype] <;>
      constructor <;> simp [Tally.plus] <;> grind
  refine hcount _ ?_
  split
  · exact (h.addDelay _).1
  · exact h

/-- **A packet back**, counted by both ends. -/
theorem Apart.handedBack {t : Tally} {m s : PortStats} (h : Apart t m s) (heap : Heap)
    (p : PacketId) (now : UInt64) :
    Apart ((Books.handedBack heap p).plus t)
      (MasterPort.updateStats (heap.setDstCycle p now) p m)
      { s with respCount := s.respCount + 1, byteCount := s.byteCount + heap.dataLength p } := by
  obtain ⟨h1, h2, h3, h4, h5⟩ := h
  cases htype : (heap.packet p).type with
  | resp =>
      have hboth : Apart ((Books.handedBack heap p).plus t)
          { m with respCount := m.respCount + 1, byteCount := m.byteCount + heap.dataLength p }
          { s with respCount := s.respCount + 1,
                   byteCount := s.byteCount + heap.dataLength p } := by
        simp only [Books.handedBack, Packet.isResponse, htype]
        constructor <;> simp [Tally.plus] <;> grind
      simp only [MasterPort.updateStats, Packet.isResponse, setDstCycle_type,
        setDstCycle_dataLength, htype, beq_self_eq_true, if_true]
      split
      · exact (hboth.addDelay _).2
      · exact hboth
  | _ =>
      simp only [Books.handedBack, MasterPort.updateStats, Packet.isResponse, Packet.isCredit,
        setDstCycle_type, htype]
      constructor <;> simp [Tally.plus] <;> grind

/-! ## 2. One call -/

section Step

variable (recvReq : UInt64 → PacketId → Heap × ρ → Bool × (Heap × ρ))
variable (response : UInt64 → Handler ρ)

/-- The statistics of a port do not depend on its channels. -/
theorem enqueueOrDrop_stats {σ : Type} (d : DownstreamPort) (i : Nat) (p : PacketId)
    (w : Heap × σ) :
    (d.enqueueOrDrop i p w).2.1.stats = d.stats ∧ (d.enqueueOrDrop i p w).2.2.2 = w.2 := by
  unfold DownstreamPort.enqueueOrDrop
  dsimp only
  split <;> exact ⟨rfl, rfl⟩

/-- The statistics after a `sendReq`: both ends have counted the packet, or neither has. -/
theorem sendReq_stats (b : Books ρ) (now : UInt64) (p : PacketId) :
    (step recvReq response b (now, .sendReq p)).master.stats =
        (if b.handsOn p then MasterPort.countSend b.heap p b.master.stats else b.master.stats) ∧
      (step recvReq response b (now, .sendReq p)).slave.stats =
        (if b.handsOn p then SlavePort.updateStats (b.heap.setDstCycle p now) p b.slave.stats
          else b.slave.stats) := by
  unfold step
  dsimp only
  cases hv : validVc (b.heap.packet p).vcId b.master.outputVcs.length with
  | false =>
      have hh : b.handsOn p = false := by rw [handsOn, hv]; rfl
      rw [DownstreamPort.sendReq_invalid (w := (b.heap, (b.slave, b.env))) hv, hh]
      exact ⟨rfl, rfl⟩
  | true =>
      by_cases he : (b.master.vc (b.heap.packet p).vcId.toNat).buffer = []
      · have hh : b.handsOn p = true := by rw [handsOn, hv, he]; rfl
        rw [DownstreamPort.sendReq_direct (w := (b.heap, (b.slave, b.env))) hv he, hh]
        split
        · exact ⟨rfl, rfl⟩
        · obtain ⟨h1, h2⟩ := enqueueOrDrop_stats (b.master.counted p b.heap)
            (b.heap.packet p).vcId.toNat p
            (SimplePort.send (slaveEnd recvReq now) p (b.heap, (b.slave, b.env))).2
          exact ⟨h1, congrArg (fun x => x.1.stats) h2⟩
      · have hh : b.handsOn p = false := by
          rw [handsOn, hv]
          simpa using he
        rw [DownstreamPort.sendReq_queued (w := (b.heap, (b.slave, b.env))) hv he, hh]
        obtain ⟨h1, h2⟩ := enqueueOrDrop_stats b.master (b.heap.packet p).vcId.toNat p
          (b.heap, (b.slave, b.env))
        exact ⟨h1, congrArg (fun x => x.1.stats) h2⟩

/-- **A call moves the books apart by its tally.** -/
theorem apart_step {t : Tally} {b : Books ρ} (h : Apart t b.master.stats b.slave.stats)
    (a : UInt64 × Call ρ) :
    Apart ((tallyOf b a.2).plus t) (step recvReq response b a).master.stats
      (step recvReq response b a).slave.stats := by
  obtain ⟨now, call⟩ := a
  have hzero : Apart (Tally.plus {} t) b.master.stats b.slave.stats := by
    rw [Tally.zero_plus]
    exact h
  cases call with
  | sendReq p =>
      obtain ⟨h1, h2⟩ := sendReq_stats recvReq response b now p
      rw [h1, h2, tallyOf]
      cases b.handsOn p with
      | true => exact h.handed b.heap p now
      | false => exact hzero
  | send p => exact h.handed b.heap p now
  | sendResp p => exact h.handedBack b.heap p now
  | other act => exact hzero

/-- **A run moves the books apart by its tally.** -/
theorem apart_run {t : Tally} {b : Books ρ} (h : Apart t b.master.stats b.slave.stats)
    (as : List (UInt64 × Call ρ)) :
    Apart ((tally recvReq response b as).plus t)
      (Library.run (step recvReq response) b as).master.stats
      (Library.run (step recvReq response) b as).slave.stats := by
  induction as generalizing b t with
  | nil =>
      show Apart (Tally.plus {} t) b.master.stats b.slave.stats
      rw [Tally.zero_plus]
      exact h
  | cons a as ih =>
      have h' := ih (apart_step recvReq response h a)
      rw [tally, Tally.plus_plus]
      exact h'

end Step

/-- **BOTH ENDS KEEP THE SAME BOOKS exactly when nothing falls into the gaps.** For every bound
    pair with fresh statistics, whatever the two owners do, and for every sequence of `sendReq`,
    `send` and `sendResp` calls: the five counters agree if and only if, modulo 2^64, no stream
    packet and no credit has been handed to the `SlavePort`, and no packet but responses (and no
    byte of such a packet) has been handed back. -/
theorem agree_iff_tally (recvReq : UInt64 → PacketId → Heap × ρ → Bool × (Heap × ρ))
    (response : UInt64 → Handler ρ) (heap : Heap) (env : ρ) (master : DownstreamPort)
    (slave : SlavePort) (as : List (UInt64 × Call ρ)) :
    let b := Library.run (step recvReq response) (fresh heap env master slave) as
    Agree b.master.stats b.slave.stats ↔
      tally recvReq response (fresh heap env master slave) as = {} := by
  intro b
  have h0 : Apart {} (fresh heap env master slave).master.stats
      (fresh heap env master slave).slave.stats := ⟨rfl, rfl, rfl, rfl, rfl⟩
  have h := apart_run recvReq response h0 as
  rw [Tally.plus_zero] at h
  exact h.agree_iff

/-- A stream packet, and one channel to send it on. -/
def oneStream : Books Unit :=
  fresh { packet := fun _ => { type := .streamData } } () (DownstreamPort.create 0 [4] [] "") {}

/-- The receiver counts it, the sender does not. -/
theorem oneStream_not_agree :
    let b := Library.run (step (fun _ _ w => (true, w)) (fun _ _ _ _ w => (true, w))) oneStream
      [(0, .sendReq 0)]
    b.slave.stats.reqCount = 1 ∧ b.master.stats.reqCount = 0 ∧
      ¬ Agree b.master.stats b.slave.stats := by
  refine ⟨by decide, by decide, fun h => ?_⟩
  exact absurd h.reqCount (by decide)

end Books

end Gem5Sc
