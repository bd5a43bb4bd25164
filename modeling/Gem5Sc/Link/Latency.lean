/-
  File:      Gem5Sc/Link/Latency.lean
  Subject:   LINK LATENCY: when the receiving port sees what a port with a delay sends.

  `setDelay` writes `delay_cycles` of the sending port. Every way to send ends in
  `SimplePort::send`, which calls `recv` of the other port there and then.

  A `Wire` is a bound pair in surroundings of any kind: the owners' handlers are parameters, and
  `Call.other` does anything to the heap and to the state of the surroundings. The calls of a run
  are numbered, and `recv` of either port notes each arrival with the number of the call that led
  to it (`Arrival`).

  * `step_arrivals` -- a call adds arrivals of its own number only;
  * `freeSend_arrivals` -- a send with nothing queued ahead of it and room at the receiver adds
    exactly one, in the cycle of the send;
  * `punctual_iff_undelayed` -- so the delay is what the receiver sees exactly when it is 0.
-/
import Gem5Sc.Link

namespace Gem5Sc

/-- The two ports of a pair: the `UpstreamPort` and the `DownstreamPort`. -/
inductive Side where
  | up | down
  deriving DecidableEq, Repr

/-- One `recv`: the call that led to it, the port it ran on, the packet, the cycle it ran in and
    the `dst_cycle` it has written. -/
structure Arrival where
  call : Nat
  side : Side
  packet : PacketId
  cycle : UInt64
  dstCycle : UInt64
  deriving DecidableEq, Repr

structure Wire (ρ : Type) where
  heap : Heap
  env : ρ
  down : DownstreamPort
  up : UpstreamPort
  calls : Nat := 0
  arrivals : List Arrival := []

namespace Wire

variable {ρ : Type}

/-- The calls on a bound pair of ports, and whatever else happens (`other`). -/
inductive Call (ρ : Type) where
  | sendReq (p : PacketId)
  /-- `send` of the `DownstreamPort`, past its channels. -/
  | send (p : PacketId)
  | sendResp (p : PacketId)
  /-- `send` of the `UpstreamPort`, which `sendResp` ends in. -/
  | sendBack (p : PacketId)
  | downTick
  | upTick
  | setDownDelay (d : Nat)
  | setUpDelay (d : Nat)
  | other (act : Heap × ρ → Heap × ρ)

/-- What `send` on the `DownstreamPort` reaches. -/
def upEnd (n : Nat) (now : UInt64) : Peer (UpstreamPort × List Arrival) := some fun p w =>
  let r := w.2.1.recv now p w.1
  let x : Arrival := { call := n, side := .up, packet := p, cycle := now,
                       dstCycle := (r.2.2.packet p).dstCycle }
  (r.1, (r.2.2, (r.2.1, w.2.2 ++ [x])))

/-- The owner of the `DownstreamPort`; the arrival is noted as `recv` hands the packet over. -/
def noting (response : Handler ρ) (n : Nat) (now : UInt64) : Handler (List Arrival × ρ) :=
  fun p id label w =>
    let x : Arrival := { call := n, side := .down, packet := p, cycle := now,
                         dstCycle := (w.1.packet p).dstCycle }
    let r := response p id label (w.1, w.2.2)
    (r.1, (r.2.1, (w.2.1 ++ [x], r.2.2)))

/-- What `send` on the `UpstreamPort` reaches. -/
def downEnd (response : Handler ρ) (n : Nat) (now : UInt64) :
    Peer (DownstreamPort × (List Arrival × ρ)) := some fun p w =>
  let d := w.2.1
  let r := d.toMasterPort.recv (noting response n now) now d.id d.label p (w.1, w.2.2)
  (r.1, (r.2.2.1, ({ d with toMasterPort := r.2.1 }, r.2.2.2)))

/-- The wire after a send on the `UpstreamPort`. -/
def afterUp (w : Wire ρ) (r : SlavePort × (Heap × (DownstreamPort × (List Arrival × ρ)))) :
    Wire ρ :=
  { w with heap := r.2.1, env := r.2.2.2.2, down := r.2.2.1,
           up := { w.up with toSlavePort := r.1 }, arrivals := r.2.2.2.1 }

/-- The wire after a call on the `DownstreamPort`. -/
def afterDown (w : Wire ρ) (r : DownstreamPort × (Heap × (UpstreamPort × List Arrival))) :
    Wire ρ :=
  { w with heap := r.2.1, down := r.1, up := r.2.2.1, arrivals := r.2.2.2 }

section Step

variable (request response : UInt64 → Handler ρ)

/-- What a call does, in cycle `now`. -/
def perform (w : Wire ρ) (now : UInt64) : Call ρ → Wire ρ
  | .sendReq p =>
      w.afterDown (w.down.sendReq (upEnd w.calls now) p (w.heap, (w.up, w.arrivals))).2
  | .send p =>
      let r := w.down.toMasterPort.send (upEnd w.calls now) p (w.heap, (w.up, w.arrivals))
      w.afterDown ({ w.down with toMasterPort := r.2.1 }, r.2.2)
  | .sendResp p =>
      w.afterUp (w.up.toSlavePort.sendResp (downEnd (response now) w.calls now) p
        (w.heap, (w.down, (w.arrivals, w.env)))).2
  | .sendBack p =>
      w.afterUp (w.up.toSlavePort, (SimplePort.send (downEnd (response now) w.calls now) p
        (w.heap, (w.down, (w.arrivals, w.env)))).2)
  | .downTick =>
      w.afterDown (w.down.tick (upEnd w.calls now) (w.heap, (w.up, w.arrivals)))
  | .upTick =>
      let r := w.up.tick (request now) (w.heap, w.env)
      { w with heap := r.2.1, env := r.2.2, up := r.1 }
  | .setDownDelay d => { w with down := { w.down with delayCycles := d } }
  | .setUpDelay d => { w with up := { w.up with delayCycles := d } }
  | .other act => { w with heap := (act (w.heap, w.env)).1, env := (act (w.heap, w.env)).2 }

/-- One call, at a cycle. -/
def step (w : Wire ρ) (a : UInt64 × Call ρ) : Wire ρ :=
  { perform request response w a.1 a.2 with calls := w.calls + 1 }

end Step

/-- A bound pair in any state, before the first call. -/
def start (heap : Heap) (env : ρ) (down : DownstreamPort) (up : UpstreamPort) : Wire ρ :=
  { heap := heap, env := env, down := down, up := up }

/-- The channel a packet asks for. -/
def vcOf (w : Wire ρ) (p : PacketId) : Int := (w.heap.packet p).vcId

/-- The call sends packet `p` to the port `side`, with nothing queued ahead of it and room at
    the receiver. The way back has no queue, and `recvResp` refuses nothing for want of room. -/
inductive FreeSend (w : Wire ρ) : Call ρ → Side → PacketId → Prop where
  | sendReq (p : PacketId) (hv : validVc (w.vcOf p) w.down.outputVcs.length = true)
      (he : (w.down.vc (w.vcOf p).toNat).buffer = []) (ha : w.up.accepts (w.vcOf p) = true) :
      FreeSend w (.sendReq p) .up p
  | send (p : PacketId) (he : (w.down.vc (w.vcOf p).toNat).buffer = [])
      (ha : w.up.accepts (w.vcOf p) = true) : FreeSend w (.send p) .up p
  | sendResp (p : PacketId) : FreeSend w (.sendResp p) .down p
  | sendBack (p : PacketId) : FreeSend w (.sendBack p) .down p

/-- `delay_cycles` of the port that sends to `side`. -/
def delay (w : Wire ρ) : Side → Int
  | .up => w.down.delayCycles
  | .down => w.up.delayCycles

/-- The arrivals call `n` has led to. -/
def arrivalsOf (w : Wire ρ) (n : Nat) : List Arrival := w.arrivals.filter fun x => x.call = n

/-- Call `n` has led to one `recv` on port `side`, of packet `p`, in cycle `c`, and it has left
    `dst_cycle = c`. -/
def ReceivedAt (w : Wire ρ) (n : Nat) (side : Side) (p : PacketId) (c : Int) : Prop :=
  ∃ x, w.arrivalsOf n = [x] ∧ x.side = side ∧ x.packet = p ∧ (x.cycle.toNat : Int) = c ∧
    (x.dstCycle.toNat : Int) = c

/-! ## 1. What a call adds to the arrivals -/

/-- Arrivals of call `n` have been added, and no others. -/
def Grown (n : Nat) (xs ys : List Arrival) : Prop :=
  ∃ new, ys = xs ++ new ∧ ∀ x ∈ new, x.call = n

theorem Grown.refl (n : Nat) (xs : List Arrival) : Grown n xs xs :=
  ⟨[], (List.append_nil xs).symm, fun _ h => absurd h List.not_mem_nil⟩

theorem Grown.snoc {n : Nat} {xs ys : List Arrival} (h : Grown n xs ys) {x : Arrival}
    (hx : x.call = n) : Grown n xs (ys ++ [x]) := by
  obtain ⟨new, rfl, hnew⟩ := h
  refine ⟨new ++ [x], List.append_assoc _ _ _, fun y hy => ?_⟩
  rcases List.mem_append.mp hy with hy | hy
  · exact hnew y hy
  · rw [List.mem_singleton.mp hy]
    exact hx

/-- What the port at the other end adds, is of the call in progress. -/
theorem grown_upEnd {n : Nat} {xs : List Arrival} (now : UInt64) :
    ∀ recv, upEnd n now = some recv → ∀ p w, Grown n xs w.2.2 →
      Grown n xs (recv p w).2.2.2 := by
  intro recv hrecv p w hw
  cases hrecv
  exact hw.snoc rfl

section Step

variable (request response : UInt64 → Handler ρ)

theorem grown_perform (w : Wire ρ) (now : UInt64) (call : Call ρ) :
    Grown w.calls w.arrivals (perform request response w now call).arrivals := by
  have h0 := Grown.refl w.calls w.arrivals
  cases call with
  | sendReq p =>
      exact DownstreamPort.sendReq_keeps (J := fun s => Grown w.calls w.arrivals s.2)
        (grown_upEnd now) w.down p (w.heap, (w.up, w.arrivals)) h0
  | send p => exact h0.snoc rfl
  | sendResp p => exact h0.snoc rfl
  | sendBack p => exact h0.snoc rfl
  | downTick =>
      exact DownstreamPort.tick_keeps (J := fun s => Grown w.calls w.arrivals s.2)
        (grown_upEnd now) w.down (w.heap, (w.up, w.arrivals)) h0
  | upTick => exact h0
  | setDownDelay d => exact h0
  | setUpDelay d => exact h0
  | other act => exact h0

/-- **A call adds arrivals of its own number only.** -/
theorem step_arrivals (w : Wire ρ) (a : UInt64 × Call ρ) :
    Grown w.calls w.arrivals (step request response w a).arrivals :=
  grown_perform request response w a.1 a.2

/-- **A free send arrives at once**: one `recv`, in the cycle of the send, whatever the delay. -/
theorem freeSend_arrivals {w : Wire ρ} {call : Call ρ} {side : Side} {p : PacketId}
    (h : FreeSend w call side p) (now : UInt64) :
    (step request response w (now, call)).arrivals =
      w.arrivals ++ [{ call := w.calls, side := side, packet := p, cycle := now,
                       dstCycle := now }] := by
  cases h with
  | sendReq _ hv he ha =>
      obtain ⟨h1, -⟩ := UpstreamPort.recv_accepted (u := w.up) (p := p) now ha
      have hsend : (SimplePort.send (upEnd w.calls now) p (w.heap, (w.up, w.arrivals))).1 = true :=
        h1
      have e : w.down.sendReq (upEnd w.calls now) p (w.heap, (w.up, w.arrivals)) = _ :=
        DownstreamPort.sendReq_direct (w := (w.heap, (w.up, w.arrivals))) hv he
      rw [if_pos hsend] at e
      simp only [step, perform, e, afterDown]
      simp only [SimplePort.send, upEnd, UpstreamPort.recv_dstCycle]
  | send _ he ha =>
      simp only [step, perform, afterDown, MasterPort.send, SimplePort.send, upEnd,
        UpstreamPort.recv_dstCycle]
  | sendResp =>
      simp only [step, perform, afterUp, SlavePort.sendResp, SimplePort.send, downEnd, noting,
        MasterPort.recv, Heap.setDstCycle_dstCycle]
  | sendBack =>
      simp only [step, perform, afterUp, SimplePort.send, downEnd, noting, MasterPort.recv,
        Heap.setDstCycle_dstCycle]

/-! ## 2. Runs -/

/-- The arrivals noted so far are of calls already made. -/
def Numbered (w : Wire ρ) : Prop := ∀ x ∈ w.arrivals, x.call < w.calls

theorem numbered_step {w : Wire ρ} (h : Numbered w) (a : UInt64 × Call ρ) :
    Numbered (step request response w a) := by
  intro x hx
  obtain ⟨new, e, hnew⟩ := step_arrivals request response w a
  rw [e] at hx
  show x.call < w.calls + 1
  rcases List.mem_append.mp hx with hx | hx
  · exact Nat.lt_succ_of_lt (h x hx)
  · rw [hnew x hx]
    exact Nat.lt_succ_self _

theorem arrivalsOf_step {w : Wire ρ} {n : Nat} (hn : n < w.calls) (a : UInt64 × Call ρ) :
    (step request response w a).arrivalsOf n = w.arrivalsOf n := by
  obtain ⟨new, e, hnew⟩ := step_arrivals request response w a
  have hnone : new.filter (fun x => x.call = n) = [] := by
    refine List.filter_eq_nil_iff.mpr fun x hx => ?_
    have hx := hnew x hx
    simp only [decide_eq_true_eq]
    omega
  rw [arrivalsOf, e, List.filter_append, hnone, List.append_nil]
  rfl

/-- What a call has led to is settled once the call is over. -/
theorem arrivalsOf_run {w : Wire ρ} {n : Nat} (hn : n < w.calls) (as : List (UInt64 × Call ρ)) :
    (Library.run (step request response) w as).arrivalsOf n = w.arrivalsOf n :=
  (Library.run_invariant (I := fun w' : Wire ρ => n < w'.calls ∧ w'.arrivalsOf n = w.arrivalsOf n)
    ⟨hn, rfl⟩
    (fun _ a h => ⟨Nat.lt_succ_of_lt h.1, (arrivalsOf_step request response h.1 a).trans h.2⟩) as).2

/-- In the run, every free send of packet `p` in cycle `t` over a delay `d` leads to exactly one
    `recv` of it, in cycle `t + d` and with `dst_cycle = t + d`. -/
def Punctual (request response : UInt64 → Handler ρ) : Wire ρ → List (UInt64 × Call ρ) → Prop
  | _, [] => True
  | w, a :: as =>
      (∀ side p, FreeSend w a.2 side p →
        (Library.run (step request response) w (a :: as)).ReceivedAt w.calls side p
          (a.1.toNat + w.delay side)) ∧
      Punctual request response (step request response w a) as

/-- A free send goes out of a port whose delay is 0. -/
def Undelayed (w : Wire ρ) (a : UInt64 × Call ρ) : Prop :=
  ∀ side p, FreeSend w a.2 side p → w.delay side = 0

/-- The one arrival of a free send, at the end of the run. -/
theorem arrivalsOf_freeSend {w : Wire ρ} (h : Numbered w) {a : UInt64 × Call ρ} {side : Side}
    {p : PacketId} (hf : FreeSend w a.2 side p) (as : List (UInt64 × Call ρ)) :
    (Library.run (step request response) w (a :: as)).arrivalsOf w.calls =
      [{ call := w.calls, side := side, packet := p, cycle := a.1, dstCycle := a.1 }] := by
  have hrun : (Library.run (step request response) w (a :: as)).arrivalsOf w.calls =
      (step request response w a).arrivalsOf w.calls :=
    arrivalsOf_run request response (Nat.lt_succ_self _) as
  have hold : w.arrivals.filter (fun x => x.call = w.calls) = [] := by
    refine List.filter_eq_nil_iff.mpr fun x hx => ?_
    have hx := h x hx
    simp only [decide_eq_true_eq]
    omega
  rw [hrun, arrivalsOf, freeSend_arrivals request response hf a.1, List.filter_append, hold,
    List.nil_append, List.filter_singleton]
  simp

theorem receivedAt_iff {w : Wire ρ} (h : Numbered w) {a : UInt64 × Call ρ} {side : Side}
    {p : PacketId} (hf : FreeSend w a.2 side p) (as : List (UInt64 × Call ρ)) :
    (Library.run (step request response) w (a :: as)).ReceivedAt w.calls side p
      (a.1.toNat + w.delay side) ↔ w.delay side = 0 := by
  have e := arrivalsOf_freeSend request response h hf as
  constructor
  · rintro ⟨x, hx, -, -, hc, -⟩
    rw [e] at hx
    cases hx
    dsimp only at hc
    omega
  · intro hd
    rw [hd, Int.add_zero]
    exact ⟨_, e, rfl, rfl, rfl, rfl⟩

end Step

/-- **LINK LATENCY.** Over every bound pair of ports, with owners and surroundings of any kind,
    and for every run of sends, ticks, `setDelay` calls and anything else: what is sent in cycle
    `t` over a delay `d` is received in cycle `t + d` with `dst_cycle = t + d`, throughout the
    run, if and only if every such send of the run goes over a delay of 0. -/
theorem punctual_iff_undelayed (request response : UInt64 → Handler ρ) (heap : Heap) (env : ρ)
    (down : DownstreamPort) (up : UpstreamPort) (as : List (UInt64 × Call ρ)) :
    Punctual request response (start heap env down up) as ↔
      Library.Along (step request response) Undelayed (start heap env down up) as := by
  have hstart : Numbered (start heap env down up) := fun _ h => absurd h List.not_mem_nil
  generalize start heap env down up = w at hstart
  induction as generalizing w with
  | nil => exact Iff.rfl
  | cons a as ih =>
      refine and_congr ?_ (ih _ (numbered_step request response hstart a))
      exact forall_congr' fun side => forall_congr' fun p => forall_congr' fun hf =>
        receivedAt_iff request response hstart hf as

/-- Owners that take everything, and ports with one channel each. -/
def taking : UInt64 → Handler Unit := fun _ _ _ _ w => (true, w)

def idle : Wire Unit :=
  start {} () (DownstreamPort.create 0 [4] [0] "") (UpstreamPort.create 0 [4] [0] "")

/-- A delay of five cycles is set, and a packet is sent in cycle 100. -/
def fiveCycles : List (UInt64 × Call Unit) := [(0, .setDownDelay 5), (100, .sendReq 0)]

/-- It arrives in cycle 100. -/
theorem fiveCycles_not_punctual : ¬ Punctual taking taking idle fiveCycles := by
  rintro ⟨-, h, -⟩
  obtain ⟨x, hx, -, -, hc, -⟩ := h .up 0 (.sendReq 0 (by decide) (by decide) (by decide))
  have harr : (Library.run (step taking taking) idle fiveCycles).arrivalsOf 1 =
      [{ call := 1, side := .up, packet := 0, cycle := 100, dstCycle := 100 }] := by decide
  have hx := harr.symm.trans hx
  cases hx
  exact absurd hc (by decide)

end Wire

end Gem5Sc
