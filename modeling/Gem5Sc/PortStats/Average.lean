/-
  File:      Gem5Sc/PortStats/Average.lean
  Subject:   THE AVERAGE DELAY OF `PortStats::toString`: when it lies between minimum and maximum.

  `avg_credit` divides the credits by the number of credit packets they came with. `avg_delay`
  divides the delays by `req_count`, and a request is not a delay sample: a master port counts
  requests when it sends and samples when a response comes back, a slave port counts requests
  without an `original_req`, which leave no sample.

  `StatsReached s n l`: the statistics `s` can be reached, with `n` requests counted and the samples
  `l`
  recorded since the last reset.

  * `average_of_balanced` -- the average is between minimum and maximum if `n` is the number of
    samples; where all samples are equal, only then;
  * `average_below` -- one more request is under way.
-/
import Gem5Sc.PortStats.Delays
import Mathlib.Algebra.Order.Field.Rat

namespace Gem5Sc

/-- `avg_delay` of `toString`, as an exact rational. -/
def PortStats.avgDelay (s : PortStats) : ℚ :=
  if s.reqCount ≠ 0 then (s.totalDelay.toNat : ℚ) / (s.reqCount.toNat : ℚ) else 0

/-- The average lies between the minimum and the maximum. -/
def PortStats.AverageBetween (s : PortStats) : Prop :=
  (s.minDelay.toNat : ℚ) ≤ s.avgDelay ∧ s.avgDelay ≤ (s.maxDelay.toNat : ℚ)

variable {ρ : Type}

/-! ## 1. What an event counts -/

/-- The requests an `UpstreamPort` counts in an event. -/
def UpstreamEvent.requests : UpstreamEvent ρ → Nat
  | .recv _ p h => if (h.packet p).isRequest || (h.packet p).isStream then 1 else 0
  | .sendResp _ _ _ => 0

/-- The delay samples it records. -/
def UpstreamEvent.samples : UpstreamEvent ρ → List UInt64
  | .recv now p h => (SlavePort.sample (h.setDstCycle p now) p).toList
  | .sendResp _ _ _ => []

/-- The requests a `DownstreamPort` counts in an event. -/
def DownstreamEvent.requests : DownstreamEvent ρ → Nat
  | .send _ p w => if (w.1.packet p).isRequest then 1 else 0
  | .recv _ _ _ _ => 0

/-- The delay samples it records. -/
def DownstreamEvent.samples : DownstreamEvent ρ → List UInt64
  | .send _ _ _ => []
  | .recv _ now p w => (MasterPort.sample (w.1.setDstCycle p now) p).toList

/-- The statistics that sends, receives, resets and merges lead to. -/
inductive StatsReached (ρ : Type) : PortStats → Nat → List UInt64 → Prop where
  | fresh : StatsReached ρ {} 0 []
  | upstream {u : UpstreamPort} {n : Nat} {l : List UInt64} (e : UpstreamEvent ρ)
      (h : StatsReached ρ u.stats n l) :
      StatsReached ρ (u.event e).stats (n + e.requests) (l ++ e.samples)
  | downstream {d : DownstreamPort} {n : Nat} {l : List UInt64} (e : DownstreamEvent ρ)
      (h : StatsReached ρ d.stats n l) :
      StatsReached ρ (d.event e).stats (n + e.requests) (l ++ e.samples)
  | reset {s : PortStats} {n : Nat} {l : List UInt64} (h : StatsReached ρ s n l) :
      StatsReached ρ s.reset 0 []
  | merge {s t : PortStats} {n m : Nat} {l k : List UInt64} (hs : StatsReached ρ s n l)
      (ht : StatsReached ρ t m k) : StatsReached ρ (s.merge t) (n + m) (l ++ k)

section Counts

variable {u : UpstreamPort} {d : DownstreamPort} {l : List UInt64}

theorem setDstCycle_type (h : Heap) (p : PacketId) (now : UInt64) :
    ((h.setDstCycle p now).packet p).type = (h.packet p).type := by
  simp [Heap.setDstCycle]

/-- `SlavePort::updateStats` counts requests and stream packets. -/
theorem SlavePort.reqCount_updateStats (h : Heap) (p : PacketId) (s : PortStats) :
    (SlavePort.updateStats h p s).reqCount =
      s.reqCount + if (h.packet p).isRequest || (h.packet p).isStream then 1 else 0 := by
  have hdelay : (if (h.packet p).originalReq.isSome && !(h.packet p).isCredit then
      s.addDelay (h.packet p).getDelayCycles else s).reqCount = s.reqCount := by
    split <;> rfl
  unfold SlavePort.updateStats
  dsimp only
  generalize (if (h.packet p).originalReq.isSome && !(h.packet p).isCredit then
    s.addDelay (h.packet p).getDelayCycles else s) = t at hdelay ⊢
  rw [← hdelay]
  cases (h.packet p).isRequest with
  | true => rfl
  | false =>
      cases (h.packet p).isStream with
      | true => rfl
      | false => exact (UInt64.add_zero _).symm

/-- `MasterPort::send` counts requests. -/
theorem MasterPort.reqCount_countSend (h : Heap) (p : PacketId) (s : PortStats) :
    (MasterPort.countSend h p s).reqCount =
      s.reqCount + if (h.packet p).isRequest then 1 else 0 := by
  unfold MasterPort.countSend
  dsimp only
  split
  · rfl
  · split <;> simp

/-- `MasterPort::updateStats` counts none. -/
theorem MasterPort.reqCount_updateStats (h : Heap) (p : PacketId) (s : PortStats) :
    (MasterPort.updateStats h p s).reqCount = s.reqCount := by
  unfold MasterPort.updateStats
  dsimp only
  split
  · split <;> rfl
  · split <;> rfl

/-- One or nothing, as a counter and as a number. -/
theorem toNat_one_or_zero (b : Bool) :
    (if b then 1 else 0 : UInt64).toNat = if b then 1 else 0 := by
  cases b <;> rfl

theorem UpstreamPort.reqCount_event (e : UpstreamEvent ρ) :
    (u.event e).stats.reqCount.toNat = (u.stats.reqCount.toNat + e.requests) % 2 ^ 64 := by
  cases e with
  | recv now p h =>
      show ((u.received now p h).recvReq now p (h.setDstCycle p now)).2.1.stats.reqCount.toNat = _
      rw [recvReq_stats]
      show (SlavePort.updateStats (h.setDstCycle p now) p u.stats).reqCount.toNat = _
      have hreq : ((h.setDstCycle p now).packet p).isRequest = (h.packet p).isRequest := by
        rw [Packet.isRequest, setDstCycle_type, Packet.isRequest]
      have hstream : ((h.setDstCycle p now).packet p).isStream = (h.packet p).isStream := by
        rw [Packet.isStream, setDstCycle_type, Packet.isStream]
      rw [SlavePort.reqCount_updateStats, UInt64.toNat_add, toNat_one_or_zero, hreq, hstream]
      rfl
  | sendResp peer p w =>
      show u.stats.reqCount.toNat = (u.stats.reqCount.toNat + 0) % 2 ^ 64
      have hlt := u.stats.reqCount.toNat_lt
      omega

theorem DownstreamPort.reqCount_event (e : DownstreamEvent ρ) :
    (d.event e).stats.reqCount.toNat = (d.stats.reqCount.toNat + e.requests) % 2 ^ 64 := by
  cases e with
  | send peer p w =>
      show (MasterPort.countSend w.1 p d.stats).reqCount.toNat = _
      rw [MasterPort.reqCount_countSend, UInt64.toNat_add, toNat_one_or_zero]
      rfl
  | recv handle now p w =>
      show (MasterPort.updateStats (w.1.setDstCycle p now) p d.stats).reqCount.toNat =
        (d.stats.reqCount.toNat + 0) % 2 ^ 64
      rw [MasterPort.reqCount_updateStats]
      have hlt := d.stats.reqCount.toNat_lt
      omega

theorem UpstreamPort.summary_event (e : UpstreamEvent ρ) (h : u.stats.Summary l) :
    (u.event e).stats.Summary (l ++ e.samples) := by
  cases e with
  | recv now p hp =>
      show ((u.received now p hp).recvReq now p (hp.setDstCycle p now)).2.1.stats.Summary _
      rw [recvReq_stats]
      exact SlavePort.summary_updateStats h
  | sendResp peer p w =>
      show PortStats.Summary _ (l ++ [])
      rw [List.append_nil]
      exact h.congr ⟨rfl, rfl, rfl⟩

theorem DownstreamPort.summary_event (e : DownstreamEvent ρ) (h : d.stats.Summary l) :
    (d.event e).stats.Summary (l ++ e.samples) := by
  cases e with
  | send peer p w =>
      show (MasterPort.countSend w.1 p d.stats).Summary (l ++ [])
      rw [List.append_nil]
      exact MasterPort.summary_countSend h
  | recv handle now p w => exact MasterPort.summary_updateStats h

end Counts

/-- **What reached statistics hold**: the samples, and the requests modulo 2^64. -/
theorem StatsReached.summary {s : PortStats} {n : Nat} {l : List UInt64}
    (h : StatsReached ρ s n l) :
    s.Summary l ∧ s.reqCount.toNat = n % 2 ^ 64 := by
  induction h with
  | fresh => exact ⟨PortStats.summary_default, rfl⟩
  | upstream e h ih =>
      refine ⟨UpstreamPort.summary_event e ih.1, ?_⟩
      rw [UpstreamPort.reqCount_event, ih.2, Nat.mod_add_mod]
  | downstream e h ih =>
      refine ⟨DownstreamPort.summary_event e ih.1, ?_⟩
      rw [DownstreamPort.reqCount_event, ih.2, Nat.mod_add_mod]
  | reset h ih => exact ⟨PortStats.summary_default, rfl⟩
  | merge hs ht ihs iht =>
      refine ⟨ihs.1.merge iht.1, ?_⟩
      show (_ + _ : UInt64).toNat = _
      rw [UInt64.toNat_add, ihs.2, iht.2, ← Nat.add_mod]

/-! ## 2. The average -/

section Average

variable {s : PortStats}

/-- The comparisons with the average, cross-multiplied. -/
theorem averageBetween_iff (h : s.reqCount.toNat ≠ 0) :
    s.AverageBetween ↔ s.minDelay.toNat * s.reqCount.toNat ≤ s.totalDelay.toNat ∧
      s.totalDelay.toNat ≤ s.maxDelay.toNat * s.reqCount.toNat := by
  have hne : s.reqCount ≠ 0 := fun h0 => h (by rw [h0]; rfl)
  have hpos : (0 : ℚ) < (s.reqCount.toNat : ℚ) := Nat.cast_pos.mpr (Nat.pos_of_ne_zero h)
  unfold PortStats.AverageBetween PortStats.avgDelay
  rw [if_pos hne, le_div_iff₀ hpos, div_le_iff₀ hpos, ← Nat.cast_mul, ← Nat.cast_mul,
    Nat.cast_le, Nat.cast_le]

/-- Without a request the average is reported as zero. -/
theorem averageBetween_of_no_request (h : s.reqCount.toNat = 0) :
    s.AverageBetween ↔ s.minDelay.toNat = 0 := by
  have h0 : s.reqCount = 0 := UInt64.toNat_inj.mp h
  unfold PortStats.AverageBetween PortStats.avgDelay
  rw [if_neg (not_not_intro h0)]
  refine ⟨fun hb => ?_, fun hm => ?_⟩
  · exact Nat.le_zero.mp (Nat.cast_le.mp (Nat.cast_zero (R := ℚ) ▸ hb.1))
  · rw [hm, Nat.cast_zero]
    exact ⟨le_refl 0, Nat.cast_nonneg _⟩

/-- **THE AVERAGE.** For all statistics that sends, receives, resets and merges on any ports lead
    to, with `n` requests counted and at least one sample recorded since the last reset, none of
    the sums beyond 64 bits: the reported average is between minimum and maximum if `n` is the
    number of samples; and where the samples are all equal and not zero, only if it is. -/
theorem average_of_balanced (s : PortStats) (n : Nat) (l : List UInt64) (h : StatsReached ρ s n l)
    (hne : l ≠ []) (hn : n < 2 ^ 64) (htotal : exactTotal l < 2 ^ 64) :
    (n = l.length → s.AverageBetween) ∧
    (∀ d, 0 < d → (∀ x ∈ l, x = d) → (s.AverageBetween ↔ n = l.length)) := by
  obtain ⟨hs, hreq⟩ := h.summary
  have hcount : s.reqCount.toNat = n := hreq.trans (Nat.mod_eq_of_lt hn)
  have hsum : s.totalDelay.toNat = exactTotal l := hs.total.trans (Nat.mod_eq_of_lt htotal)
  obtain ⟨hlow, hhigh⟩ := hs.bounds
  have hlen : l.length ≠ 0 := fun h0 => hne (List.length_eq_zero_iff.mp h0)
  have hbalanced : n = l.length → s.AverageBetween := by
    intro heq
    rw [averageBetween_iff (by omega), hcount, hsum, heq]
    exact ⟨Nat.mul_comm _ _ ▸ hlow, Nat.mul_comm _ _ ▸ hhigh⟩
  refine ⟨hbalanced, fun d hd hall => ⟨fun hb => ?_, hbalanced⟩⟩
  have hmin : s.minDelay = d := by
    rcases hs.least with hm | ⟨hnil, -⟩
    · exact hall _ hm
    · exact absurd hnil hne
  have hmax : s.maxDelay = d := by
    rcases hs.greatest with hm | ⟨hnil, -⟩
    · exact hall _ hm
    · exact absurd hnil hne
  have hpos : 0 < d.toNat := UInt64.lt_iff_toNat_lt.mp hd
  rw [hmin] at hlow
  rw [hmax] at hhigh
  -- the total is the number of samples times `d`
  have hexact : exactTotal l = l.length * d.toNat := Nat.le_antisymm hhigh hlow
  by_cases hzero : n = 0
  · have hm := (averageBetween_of_no_request (hcount.trans hzero)).mp hb
    rw [hmin] at hm
    omega
  · rw [averageBetween_iff (by omega), hcount, hsum, hmin, hmax, hexact] at hb
    have hmul : d.toNat * n = d.toNat * l.length := by
      rw [Nat.mul_comm l.length] at hb
      exact Nat.le_antisymm hb.1 hb.2
    exact Nat.eq_of_mul_eq_mul_left hpos hmul

end Average

/-! ## 3. A request under way -/

/-- A request created in cycle 0 and the response to it. -/
def exchange : Heap where
  packet p := if p = 1 then { type := .resp, originalReq := some 0 } else {}
  nextPacket := 2

/-- The request is sent and the response comes back in cycle 4. -/
def answered : DownstreamPort :=
  DownstreamPort.event (.recv (fun _ _ _ w => (true, w)) 4 1 (exchange, ()))
    (DownstreamPort.event (.send none 0 (exchange, ())) default)

/-- Another request is sent. -/
def underWay : DownstreamPort := answered.event (.send none 0 (exchange, ()))

theorem statsReached_answered : StatsReached Unit answered.stats 1 [4] :=
  StatsReached.downstream (.recv (fun _ _ _ w => (true, w)) 4 1 (exchange, ()))
    (StatsReached.downstream (d := (default : DownstreamPort)) (.send none 0 (exchange, ()))
      StatsReached.fresh)

theorem statsReached_underWay : StatsReached Unit underWay.stats 2 [4] :=
  StatsReached.downstream (.send none 0 (exchange, ())) statsReached_answered

/-- One request, one sample. -/
theorem average_of_answered : answered.stats.AverageBetween :=
  (average_of_balanced answered.stats 1 [4] statsReached_answered (List.cons_ne_nil _ _) (by decide)
    (by decide)).1 rfl

/-- **The average is below the minimum** while a second request is under way: 4 / 2 < 4. -/
theorem average_below : ¬ ∀ (s : PortStats) (n : Nat) (l : List UInt64),
    StatsReached Unit s n l → l ≠ [] → s.AverageBetween := by
  intro h
  have hb := h _ 2 [4] statsReached_underWay (List.cons_ne_nil _ _)
  rw [averageBetween_iff (by decide)] at hb
  exact absurd hb (by decide)

end Gem5Sc
