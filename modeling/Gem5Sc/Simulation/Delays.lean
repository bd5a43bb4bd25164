/-
  File:      Gem5Sc/Simulation/Delays.lean
  Subject:   END-TO-END DELAYS NEVER WRAP, in any simulation and in every state of a session. Their
             total may (`longTrips_total_wraps`).

  `MasterPort::updateStats` subtracts without a guard. What makes it safe is the clock: a request
  carries the cycle it was created in, and between two events the clock only goes forward
  (`Session.onTime_step`).

  The modules are arbitrary. What their code may do to the packets and to the master ports is
  `Does`: create packets, where a request is stamped with the current cycle and a response names
  an earlier request, change any other field, have a packet delivered at a master port, send, reset.
  `Sound` is the invariant of every such action (`sound_does`) and of the clock (`Sound.later`).
-/
import Gem5Sc.EventQueue.Session
import Gem5Sc.PortStats.Delays
import Mathlib.Logic.Relation

namespace Gem5Sc

universe u

/-- One delay recorded by a `MasterPort`. -/
structure DelaySample where
  /-- What `updateStats` adds to the statistics. -/
  delay : UInt64
  /-- `getEnd2EndCycles()` of the packet at that moment. -/
  endToEnd : UInt64
  /-- The cycle in which the response was delivered. -/
  delivered : UInt64
  /-- The cycle in which its request was created. -/
  created : UInt64
  deriving DecidableEq, Repr

/-- The packets and master ports of a simulation, and whatever else there is. -/
structure PortWorld (τ : Type) where
  heap : Heap := {}
  port : Nat → MasterPort := fun _ => {}
  other : τ
  /-- The cycle each packet was created in. -/
  createdAt : PacketId → UInt64 := fun _ => 0
  /-- What each port has recorded since its last reset. -/
  samples : Nat → List DelaySample := fun _ => []

variable {τ : Type}

namespace PortWorld

/-- `new Packet(..)`. -/
def create (now : UInt64) (pkt : Packet) (w : PortWorld τ) : PortWorld τ :=
  { w with heap := (w.heap.new pkt).2,
           createdAt := Function.update w.createdAt w.heap.nextPacket now }

/-- Port `i` has the statistics `s`, recorded from the samples `l`. -/
def record (i : Nat) (s : PortStats) (l : List DelaySample) (w : PortWorld τ) : PortWorld τ :=
  { w with port := Function.update w.port i { w.port i with stats := s },
           samples := Function.update w.samples i l }

/-- The samples of packet `p`, delivered in cycle `now`. -/
def newSamples (now : UInt64) (p : PacketId) (w : PortWorld τ) : List DelaySample :=
  let h := w.heap.setDstCycle p now
  match MasterPort.sample h p, (h.packet p).originalReq with
  | some d, some r =>
      [{ delay := d, endToEnd := h.getEnd2EndCycles p, delivered := now, created := w.createdAt r }]
  | _, _ => []

/-- `MasterPort::recv` of port `i` up to the call of the owner. -/
def deliver (now : UInt64) (i : Nat) (p : PacketId) (w : PortWorld τ) : PortWorld τ :=
  let h := w.heap.setDstCycle p now
  { w.record i (MasterPort.updateStats h p (w.port i).stats)
      (w.samples i ++ w.newSamples now p) with heap := h }

/-- What `MasterPort::send` of port `i` counts. -/
def countSend (i : Nat) (p : PacketId) (w : PortWorld τ) : PortWorld τ :=
  w.record i (MasterPort.countSend w.heap p (w.port i).stats) (w.samples i)

/-- `MasterPort::resetStats` of port `i`. -/
def resetStats (i : Nat) (w : PortWorld τ) : PortWorld τ := w.record i (w.port i).stats.reset []

end PortWorld

/-- `deliver` is what `MasterPort::recv` does before it calls the owner. -/
theorem recv_deliver {ρ : Type} (handle : Handler ρ) (now : UInt64) (i : Nat) (w : PortWorld τ)
    (id : Nat) (label : String) (p : PacketId) (x : ρ) :
    (w.port i).recv handle now id label p (w.heap, x) =
      ((handle p id label ((w.deliver now i p).heap, x)).1, (w.deliver now i p).port i,
        (handle p id label ((w.deliver now i p).heap, x)).2) := by
  simp only [MasterPort.recv, PortWorld.deliver, PortWorld.record, Function.update_self]

/-! ## 1. What code may do -/

/-- Every response names an earlier request, or none. -/
def Answers (h : Heap) : Prop :=
  ∀ p < h.nextPacket, (h.packet p).isResponse = true → ∀ r, (h.packet p).originalReq = some r →
    r < p ∧ (h.packet r).isRequest = true

/-- A change of the heap that creates nothing and leaves type and `src_cycle` of every packet. -/
structure KeepsStamps (h h' : Heap) : Prop where
  next : h'.nextPacket = h.nextPacket
  type : ∀ r < h.nextPacket, (h'.packet r).type = (h.packet r).type
  srcCycle : ∀ r < h.nextPacket, (h'.packet r).srcCycle = (h.packet r).srcCycle

/-- One action of a module in cycle `now`. -/
inductive Does (now : UInt64) (w : PortWorld τ) : PortWorld τ → Prop where
  /-- A packet is created: a request in the current cycle, a response to an earlier request. -/
  | create (pkt : Packet) (hreq : pkt.isRequest = true → pkt.srcCycle = now)
      (hresp : pkt.isResponse = true → ∀ r, pkt.originalReq = some r →
        r < w.heap.nextPacket ∧ (w.heap.packet r).isRequest = true) :
      Does now w (w.create now pkt)
  /-- Anything else happens to packets and payloads. -/
  | change (h : Heap) (hk : KeepsStamps w.heap h) (ha : Answers h) : Does now w { w with heap := h }
  /-- A packet arrives at master port `i`. -/
  | deliver (i : Nat) (p : PacketId) (hp : p < w.heap.nextPacket) : Does now w (w.deliver now i p)
  /-- A packet is sent from master port `i`. -/
  | send (i : Nat) (p : PacketId) : Does now w (w.countSend i p)
  | resetStats (i : Nat) : Does now w (w.resetStats i)
  /-- Anything happens to the rest. -/
  | other (x : τ) : Does now w { w with other := x }

/-! ## 2. The invariant -/

/-- What the samples of a port say. -/
structure DelayLaw (s : PortStats) (l : List DelaySample) : Prop where
  /-- The statistics are those of the samples. -/
  recorded : s.Summary (l.map DelaySample.delay)
  /-- Each is `getEnd2EndCycles()` and the exact difference of the two cycles. -/
  exact : ∀ x ∈ l, x.delay = x.endToEnd ∧ x.created ≤ x.delivered ∧
    x.delay.toNat = x.delivered.toNat - x.created.toNat

/-- In cycle `now`: no request is from the future, and no recorded delay is wrapped. -/
structure Sound (now : UInt64) (w : PortWorld τ) : Prop where
  created : ∀ r < w.heap.nextPacket, (w.heap.packet r).isRequest = true →
    (w.heap.packet r).srcCycle = w.createdAt r ∧ w.createdAt r ≤ now
  answers : Answers w.heap
  law : ∀ i, DelayLaw (w.port i).stats (w.samples i)

/-- The clock goes forward. -/
theorem Sound.later {now now' : UInt64} {w : PortWorld τ} (h : Sound now w) (hle : now ≤ now') :
    Sound now' w :=
  ⟨fun r hr hreq => ⟨(h.created r hr hreq).1, UInt64.le_trans (h.created r hr hreq).2 hle⟩,
    h.answers, h.law⟩

section Step

variable {now : UInt64} {w : PortWorld τ}

theorem isRequest_of_type {p q : Packet} (h : p.type = q.type) : p.isRequest = q.isRequest := by
  rw [Packet.isRequest, h, Packet.isRequest]

theorem isResponse_of_type {p q : Packet} (h : p.type = q.type) : p.isResponse = q.isResponse := by
  rw [Packet.isResponse, h, Packet.isResponse]

/-- Setting `dst_cycle` leaves the stamps alone. -/
theorem keepsStamps_setDstCycle (h : Heap) (p : PacketId) (now : UInt64) :
    KeepsStamps h (h.setDstCycle p now) ∧
      ∀ r, ((h.setDstCycle p now).packet r).originalReq = (h.packet r).originalReq := by
  refine ⟨⟨rfl, fun r _ => ?_, fun r _ => ?_⟩, fun r => ?_⟩
  · exact h.setDstCycle_field p r now Packet.type fun _ _ => rfl
  · exact h.setDstCycle_field p r now Packet.srcCycle fun _ _ => rfl
  · exact h.setDstCycle_field p r now Packet.originalReq fun _ _ => rfl

/-- A heap that keeps the stamps keeps what is known of the requests. -/
theorem Sound.created_of_keeps {h : Heap} (hs : Sound now w) (hk : KeepsStamps w.heap h) :
    ∀ r < h.nextPacket, (h.packet r).isRequest = true →
      (h.packet r).srcCycle = w.createdAt r ∧ w.createdAt r ≤ now := by
  intro r hr hreq
  rw [hk.next] at hr
  rw [isRequest_of_type (hk.type r hr)] at hreq
  rw [hk.srcCycle r hr]
  exact hs.created r hr hreq

theorem answers_setDstCycle {h : Heap} (ha : Answers h) (p : PacketId) (now : UInt64) :
    Answers (h.setDstCycle p now) := by
  obtain ⟨hk, horig⟩ := keepsStamps_setDstCycle h p now
  intro q hq hresp r hr
  have hq' : q < h.nextPacket := hq
  rw [isResponse_of_type (hk.type q hq')] at hresp
  rw [horig] at hr
  obtain ⟨hlt, hreq⟩ := ha q hq' hresp r hr
  exact ⟨hlt, (isRequest_of_type (hk.type r (Nat.lt_trans hlt hq'))).trans hreq⟩

/-- **A recorded delay is exact.** The request of a delivered response was created in the past. -/
theorem exact_newSamples (hs : Sound now w) {p : PacketId} (hp : p < w.heap.nextPacket) :
    (w.newSamples now p).map DelaySample.delay =
        (MasterPort.sample (w.heap.setDstCycle p now) p).toList ∧
      ∀ x ∈ w.newSamples now p, x.delay = x.endToEnd ∧ x.created ≤ x.delivered ∧
        x.delay.toNat = x.delivered.toNat - x.created.toNat := by
  obtain ⟨hk, horig⟩ := keepsStamps_setDstCycle w.heap p now
  have hdst : ((w.heap.setDstCycle p now).packet p).dstCycle = now :=
    w.heap.setDstCycle_dstCycle p now
  unfold PortWorld.newSamples MasterPort.sample
  dsimp only
  by_cases hresp : ((w.heap.setDstCycle p now).packet p).isResponse = true
  · rw [if_pos hresp]
    cases ho : ((w.heap.setDstCycle p now).packet p).originalReq with
    | none => exact ⟨rfl, fun x hx => absurd hx List.not_mem_nil⟩
    | some r =>
        refine ⟨rfl, fun x hx => ?_⟩
        rw [List.mem_singleton.mp hx]
        obtain ⟨hlt, hreq⟩ := answers_setDstCycle hs.answers p now p hp hresp r ho
        have hr : r < w.heap.nextPacket := Nat.lt_trans hlt hp
        have hreq' : (w.heap.packet r).isRequest = true :=
          (isRequest_of_type (hk.type r hr)).symm.trans hreq
        obtain ⟨hsrc, hle⟩ := hs.created r hr hreq'
        refine ⟨?_, hle, ?_⟩
        · show _ = Heap.getEnd2EndCycles _ p
          unfold Heap.getEnd2EndCycles
          rw [ho]
        · show (((w.heap.setDstCycle p now).packet p).dstCycle -
            ((w.heap.setDstCycle p now).packet r).srcCycle).toNat = now.toNat - _
          rw [hdst, hk.srcCycle r hr, hsrc]
          exact UInt64.toNat_sub_of_le _ _ hle
  · rw [if_neg hresp]
    exact ⟨rfl, fun x hx => absurd hx List.not_mem_nil⟩

theorem DelayLaw.append {s s' : PortStats} {l k : List DelaySample} (h : DelayLaw s l)
    (hs : s'.Summary ((l ++ k).map DelaySample.delay))
    (hk : ∀ x ∈ k, x.delay = x.endToEnd ∧ x.created ≤ x.delivered ∧
      x.delay.toNat = x.delivered.toNat - x.created.toNat) : DelayLaw s' (l ++ k) := by
  refine ⟨hs, fun x hx => ?_⟩
  rcases List.mem_append.mp hx with hx | hx
  · exact h.exact x hx
  · exact hk x hx

/-- A port whose new statistics are lawful, among the others. -/
theorem law_record {s : PortStats} {l : List DelaySample}
    (h : ∀ j, DelayLaw (w.port j).stats (w.samples j)) (i : Nat) (hi : DelayLaw s l) (j : Nat) :
    DelayLaw ((w.record i s l).port j).stats ((w.record i s l).samples j) := by
  by_cases hj : j = i
  · subst hj
    simp only [PortWorld.record, Function.update_self]
    exact hi
  · simp only [PortWorld.record, Function.update_of_ne hj]
    exact h j

/-- A new packet, a request of this cycle or an answer to an earlier one. -/
theorem sound_create (hs : Sound now w) {pkt : Packet}
    (hreq : pkt.isRequest = true → pkt.srcCycle = now)
    (hresp : pkt.isResponse = true → ∀ r, pkt.originalReq = some r →
      r < w.heap.nextPacket ∧ (w.heap.packet r).isRequest = true) :
    Sound now (w.create now pkt) := by
  have hnew : (w.create now pkt).heap.packet w.heap.nextPacket = pkt := w.heap.new_packet_self pkt
  have hold : ∀ r < w.heap.nextPacket, (w.create now pkt).heap.packet r = w.heap.packet r :=
    fun r hr => w.heap.new_packet_of_lt pkt hr
  have hcases : ∀ r < (w.create now pkt).heap.nextPacket,
      r = w.heap.nextPacket ∨ r < w.heap.nextPacket := by
    intro r hr
    have hr' : r < w.heap.nextPacket + 1 := hr
    omega
  refine ⟨fun r hr hrequest => ?_, fun p hp hresponse r hr => ?_, hs.law⟩
  · rcases hcases r hr with rfl | hlt
    · rw [hnew] at hrequest ⊢
      simp only [PortWorld.create, Function.update_self]
      exact ⟨hreq hrequest, UInt64.le_refl _⟩
    · rw [hold r hlt] at hrequest ⊢
      simp only [PortWorld.create, Function.update_of_ne (Nat.ne_of_lt hlt)]
      exact hs.created r hlt hrequest
  · rcases hcases p hp with rfl | hlt
    · rw [hnew] at hresponse hr
      obtain ⟨hrp, hrequest⟩ := hresp hresponse r hr
      rw [hold r hrp]
      exact ⟨hrp, hrequest⟩
    · rw [hold p hlt] at hresponse hr
      obtain ⟨hrp, hrequest⟩ := hs.answers p hlt hresponse r hr
      rw [hold r (Nat.lt_trans hrp hlt)]
      exact ⟨hrp, hrequest⟩

/-- **Every action keeps the invariant.** -/
theorem sound_does {w' : PortWorld τ} (hs : Sound now w) (hd : Does now w w') : Sound now w' := by
  cases hd with
  | create pkt hreq hresp => exact sound_create hs hreq hresp
  | change h hk ha => exact ⟨hs.created_of_keeps hk, ha, hs.law⟩
  | deliver i p hp =>
      obtain ⟨hdelays, hexact⟩ := exact_newSamples hs hp
      have hsum := MasterPort.summary_updateStats (h := w.heap.setDstCycle p now) (p := p)
        (hs.law i).recorded
      rw [← hdelays, ← List.map_append] at hsum
      exact ⟨hs.created_of_keeps (keepsStamps_setDstCycle w.heap p now).1,
        answers_setDstCycle hs.answers p now, law_record hs.law i ((hs.law i).append hsum hexact)⟩
  | send i p =>
      exact ⟨hs.created, hs.answers, law_record hs.law i
        ⟨MasterPort.summary_countSend (hs.law i).recorded, (hs.law i).exact⟩⟩
  | resetStats i =>
      exact ⟨hs.created, hs.answers, law_record hs.law i
        ⟨PortStats.summary_default, fun x hx => absurd hx List.not_mem_nil⟩⟩
  | other x => exact ⟨hs.created, hs.answers, hs.law⟩

/-- And so does any code. -/
theorem sound_code {w' : PortWorld τ} (hs : Sound now w)
    (hc : Relation.ReflTransGen (Does now) w w') :
    Sound now w' := by
  induction hc with
  | refl => exact hs
  | tail _ hd ih => exact sound_does ih hd

end Step

/-! ## 3. Sessions -/

section Session

variable {ε : Type u} {Q : Library.PriorityQueue (Pending ε) Pending.key}

/-- The code that runs in this step consists of such actions, in the cycle it runs in. -/
def Lawful (process : Process ε (PortWorld τ)) (s : Session Q (PortWorld τ)) :
    Move ε (PortWorld τ) → Prop
  | .outside a => Relation.ReflTransGen (Does s.sim.queue.curCycle) s.sim.state
      (a s.sim.queue.curCycle s.sim.state).1
  | .run _ => True
  | .round => ∀ e, s.Due e → Relation.ReflTransGen (Does e.fireTime) s.sim.state
      (process e.event e.fireTime s.sim.state).1

/-- What is known of each master port. -/
structure DelaysExact (s : PortStats) (l : List DelaySample) : Prop extends DelayLaw s l where
  /-- With a sample, minimum and maximum are in order and bound the exact total. -/
  bounds : l ≠ [] → s.minDelay ≤ s.maxDelay ∧
    l.length * s.minDelay.toNat ≤ exactTotal (l.map DelaySample.delay) ∧
    exactTotal (l.map DelaySample.delay) ≤ l.length * s.maxDelay.toNat
  /-- The maximum bounds the field `total_delay`, which is the exact total modulo 2^64. -/
  upper : s.totalDelay.toNat ≤ l.length * s.maxDelay.toNat
  /-- As long as the exact total fits into 64 bits, it is `total_delay`, and the minimum bounds
      that field too. -/
  total : exactTotal (l.map DelaySample.delay) < 2 ^ 64 →
    s.totalDelay.toNat = exactTotal (l.map DelaySample.delay) ∧
      l.length * s.minDelay.toNat ≤ s.totalDelay.toNat

theorem DelayLaw.delaysExact {s : PortStats} {l : List DelaySample} (h : DelayLaw s l) :
    DelaysExact s l := by
  have hb := h.recorded.bounds
  have htotal := h.recorded.total
  rw [List.length_map] at hb
  refine ⟨h, fun hne => ?_, ?_, fun hlt => ?_⟩
  · have hne' : l.map DelaySample.delay ≠ [] := fun h0 => hne (List.map_eq_nil_iff.mp h0)
    exact ⟨h.recorded.min_le_max hne', hb.1, hb.2⟩
  · rw [htotal]
    exact Nat.le_trans (Nat.mod_le _ _) hb.2
  · rw [Nat.mod_eq_of_lt hlt] at htotal
    exact ⟨htotal, htotal.symm ▸ hb.1⟩

/-- The simulator before anything has happened. -/
def PortWorld.start (Q : Library.PriorityQueue (Pending ε) Pending.key) (x : τ) :
    Session Q (PortWorld τ) where
  sim := { state := { other := x } }

/-- A session of the simulator whose clock is on time and whose samples are sound. -/
structure SoundSession (s : Session Q (PortWorld τ)) : Prop where
  onTime : s.OnTime
  sound : Sound s.sim.queue.curCycle s.sim.state

theorem soundSession_start (x : τ) : SoundSession (PortWorld.start Q x) := by
  refine ⟨⟨fun e he => ?_, fun c hc => ?_⟩, ⟨fun r hr => absurd hr (Nat.not_lt_zero r),
    fun p hp => absurd hp (Nat.not_lt_zero p), fun i =>
      ⟨PortStats.summary_default, fun y hy => absurd hy List.not_mem_nil⟩⟩⟩
  · have he' : e ∈ Q.elems Q.empty := he
    rw [Q.elems_empty] at he'
    exact absurd he' (Multiset.notMem_zero e)
  · cases (hc : (none : Option UInt64) = some c)

/-- **One step**: the clock goes forward, and what runs in between is lawful. -/
theorem soundSession_step {process : Process ε (PortWorld τ)} {s : Session Q (PortWorld τ)}
    {m : Move ε (PortWorld τ)} (h : SoundSession s)
    (hc : Session.NoWrap process s m ∧ Lawful process s m) : SoundSession (s.step process m) := by
  obtain ⟨honTime, hforward⟩ := Session.onTime_step h.onTime hc.1
  refine ⟨honTime, ?_⟩
  rcases Session.step_cases process s m with hs | ⟨a, rfl, -, hs⟩ | ⟨n, rfl, -, hs⟩ |
    ⟨e, rfl, hdue, hs⟩ | ⟨endCycle, rfl, -, -, hs⟩
  · rw [hs]
    exact h.sound
  · rw [hs] at hforward ⊢
    exact (sound_code h.sound hc.2).later hforward
  · rw [hs]
    exact h.sound
  · rw [hs] at hforward ⊢
    have hcycle : (s.fire process e).sim.queue.curCycle = e.fireTime :=
      Sim.fire_curCycle process s.sim e
    rw [hcycle] at hforward ⊢
    exact sound_code (h.sound.later hforward) (hc.2 e hdue)
  · rw [hs] at hforward ⊢
    exact h.sound.later hforward

/-- **END-TO-END DELAYS NEVER WRAP, THEIR TOTAL MAY.** For every structure behind the queue, every
    family of modules and every sequence of code outside the queue, runs and rounds, in which no
    addition to the current cycle wraps, every request is stamped with the cycle it is created in
    and every response names an earlier request: in every state and at every master port, each
    delay recorded since the last reset is `getEnd2EndCycles()` of its packet and the exact
    difference between the cycle of the delivery and the cycle in which the request was created;
    minimum and maximum bound the exact total of the delays, and `total_delay` as long as it is
    that total. -/
theorem delays_exact (process : Process ε (PortWorld τ)) (x : τ)
    (moves : List (Move ε (PortWorld τ)))
    (hmoves : Library.Along (Session.step process)
      (fun s m => Session.NoWrap process s m ∧ Lawful process s m) (PortWorld.start Q x) moves) :
    Library.Everywhere (Session.step process)
      (fun s => ∀ i, DelaysExact (s.sim.state.port i).stats (s.sim.state.samples i))
      (PortWorld.start Q x) moves := by
  refine Library.everywhere_of_along (I := SoundSession) (soundSession_start x) ?_ ?_ hmoves
  · exact fun s h i => (h.sound.law i).delaysExact
  · exact fun s m h hc => soundSession_step h hc

end Session

/-! ## 4. A request and its response -/

/-- Code outside the queue creates request 0 and schedules the response for six cycles later. -/
def ask : Act Nat (PortWorld Unit) := fun now w => (w.create now { srcCycle := now }, [(0, 6)])

/-- The response to request 0 is created and delivered at port 0. -/
def answer : Process Nat (PortWorld Unit) := fun _ now w =>
  ((w.create now { type := .resp, srcCycle := now, originalReq := some 0 }).deliver now 0 1, [])

def roundTrip : List (Move Nat (PortWorld Unit)) := [.outside ask, .run 10, .round]

/-- The heap of the standard library. -/
abbrev stdQueue : Library.PriorityQueue (Pending Nat) Pending.key :=
  Library.BinaryHeap.priorityQueue Pending.key

theorem lawful_roundTrip : Library.Along (Session.step answer)
    (fun s m => Session.NoWrap answer s m ∧ Lawful answer s m) (PortWorld.start stdQueue ())
    roundTrip := by
  refine ⟨⟨?_, ?_⟩, ⟨?_, trivial⟩, ⟨fun e _ c hc => ?_, fun e hdue => ?_⟩, trivial⟩
  · show ∀ c ∈ [((0 : Nat), (6 : UInt64))], (0 : UInt64).toNat + c.2.toNat < 2 ^ 64
    decide
  · refine Relation.ReflTransGen.single (Does.create _ (fun _ => rfl) fun h => ?_)
    exact absurd h (by decide)
  · show (0 : UInt64).toNat + (10 : UInt64).toNat < 2 ^ 64
    decide
  · exact absurd hc List.not_mem_nil
  · have htop : some (⟨6, 0⟩ : Pending Nat) = some e := hdue.top
    obtain rfl := Option.some.inj htop
    refine Relation.ReflTransGen.tail (Relation.ReflTransGen.single (Does.create _ (fun h => ?_)
      fun _ r hr => ?_)) (Does.deliver 0 1 (by decide))
    · exact absurd h (by decide)
    · obtain rfl := Option.some.inj hr
      decide

/-- Six cycles from request to response. -/
theorem delays_exact_roundTrip : DelaysExact
    ((Library.run (Session.step answer) (PortWorld.start stdQueue ())
      roundTrip).sim.state.port 0).stats
    [{ delay := 6, endToEnd := 6, delivered := 6, created := 0 }] :=
  Library.everywhere_iff_prefix.mp (delays_exact answer () roundTrip lawful_roundTrip) roundTrip
    (List.prefix_refl _) 0

/-! ## 5. Two requests and a clock that is far -/

/-- Two requests, and an event 2^63 cycles later. -/
def askTwice : Act Nat (PortWorld Unit) := fun now w =>
  ((w.create now { srcCycle := now }).create now { srcCycle := now }, [(0, 0x8000000000000000)])

/-- The response to request `r` is created and delivered at port 0. -/
def respond (now : UInt64) (r : PacketId) (w : PortWorld Unit) : PortWorld Unit :=
  (w.create now { type := .resp, srcCycle := now, originalReq := some r }).deliver now 0
    w.heap.nextPacket

/-- The responses to requests 0 and 1. -/
def answerTwice : Process Nat (PortWorld Unit) := fun _ now w =>
  (respond now 1 (respond now 0 w), [])

def longTrips : List (Move Nat (PortWorld Unit)) :=
  [.outside askTwice, .run 0x8000000000000001, .round]

theorem does_respond {now : UInt64} {r : PacketId} {w : PortWorld Unit}
    (hr : r < w.heap.nextPacket) (hreq : (w.heap.packet r).isRequest = true) :
    Relation.ReflTransGen (Does now) w (respond now r w) := by
  refine Relation.ReflTransGen.tail (Relation.ReflTransGen.single (Does.create _ (fun h => ?_)
    fun _ r' hr' => ?_)) (Does.deliver 0 w.heap.nextPacket (Nat.lt_succ_self _))
  · exact absurd h Bool.false_ne_true
  · obtain rfl := Option.some.inj hr'
    exact ⟨hr, hreq⟩

/-- **The field `total_delay` wraps.** In a session as above two requests of cycle 0 are answered
    in cycle 2^63: the shortest delay is 2^63, the total is 0. -/
theorem longTrips_total_wraps :
    Library.Along (Session.step answerTwice)
      (fun s m => Session.NoWrap answerTwice s m ∧ Lawful answerTwice s m)
      (PortWorld.start stdQueue ()) longTrips ∧
    let w := (Library.run (Session.step answerTwice) (PortWorld.start stdQueue ())
      longTrips).sim.state
    let s := (w.port 0).stats
    (w.samples 0).length = 2 ∧
      ¬ (w.samples 0).length * s.minDelay.toNat ≤ s.totalDelay.toNat := by
  refine ⟨⟨⟨?_, ?_⟩, ⟨?_, trivial⟩, ⟨fun e _ c hc => ?_, fun e hdue => ?_⟩, trivial⟩, ?_⟩
  · show ∀ c ∈ [((0 : Nat), (0x8000000000000000 : UInt64))], (0 : UInt64).toNat + c.2.toNat < 2 ^ 64
    decide
  · refine Relation.ReflTransGen.tail (Relation.ReflTransGen.single
      (Does.create _ (fun _ => rfl) fun h => ?_)) (Does.create _ (fun _ => rfl) fun h => ?_)
    · exact absurd h (by decide)
    · exact absurd h (by decide)
  · show (0 : UInt64).toNat + (0x8000000000000001 : UInt64).toNat < 2 ^ 64
    decide
  · exact absurd hc List.not_mem_nil
  · have htop : some (⟨0x8000000000000000, 0⟩ : Pending Nat) = some e := hdue.top
    obtain rfl := Option.some.inj htop
    exact (does_respond (by decide) (by decide)).trans (does_respond (by decide) (by decide))
  · decide

end Gem5Sc
