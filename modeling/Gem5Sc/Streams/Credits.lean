/-
  File:      Gem5Sc/Streams/Credits.lean
  Subject:   WHERE THE CREDITS OF A STREAM ARE: taken and not given back, or with a packet.

  What a stream has taken should be with its data packets, or on its way back. The streams share
  the pool, but each has an account of its own there: the loop of the producer's `tick` comes to a
  stream with its credits as they were before, and leaves them alone afterwards (`tick_lane`).

  `conserved_iff_keeps`: credits are conserved, and the accepted packets numbered, in every state
  of a run exactly as long as no step of it loses a packet (`Keeps`). A run in which a credit comes
  back and is delivered loses it (`credit_lost`).
-/
import Gem5Sc.Streams.Losses

namespace Gem5Sc

/-! ## 1. The producer -/

/-- A producer with its pool and its lanes, in the order of its streams. -/
structure Producer (P : CreditPool) where
  pool : P.Carrier
  lanes : List Lane

namespace Producer

variable {P : CreditPool}

/-- The loop of `StreamProducer::tick`, from stream `i` on; `rands i` is what `rand()` returns for
    stream `i`. -/
def tickLanes (P : CreditPool) (now : UInt64) (rands : Nat → Nat) :
    Nat → P.Carrier → List Lane → P.Carrier × List Lane
  | _, k, [] => (k, [])
  | i, k, l :: ls =>
      let r := l.tickStream P now (rands i) k
      let rest := tickLanes P now rands (i + 1) r.1 ls
      (rest.1, r.2 :: rest.2)

inductive Action where
  | tick (now : UInt64) (rands : Nat → Nat)
  | lane (i : Nat) (a : Lane.Action)

def step (s : Producer P) : Action → Producer P
  | .tick now rands =>
      let r := tickLanes P now rands 0 s.pool s.lanes
      { pool := r.1, lanes := r.2 }
  | .lane i a => { s with lanes := s.lanes.modify i (Lane.step · a) }

/-- The pool when the loop comes to stream `i`. -/
def poolAt (now : UInt64) (rands : Nat → Nat) (s : Producer P) (i : Nat) : P.Carrier :=
  (tickLanes P now rands 0 s.pool (s.lanes.take i)).1

variable {now : UInt64} {rands : Nat → Nat}

/-- A producer before its first cycle. -/
def create (P : CreditPool) (pool : P.Carrier) (shapes : List LaneShape) : Producer P where
  pool := pool
  lanes := shapes.map Lane.create

/-! ## 2. The loop over the streams -/

theorem tickLanes_append (xs ys : List Lane) (i : Nat) (k : P.Carrier) :
    tickLanes P now rands i k (xs ++ ys) =
      ((tickLanes P now rands (i + xs.length) (tickLanes P now rands i k xs).1 ys).1,
        (tickLanes P now rands i k xs).2 ++
          (tickLanes P now rands (i + xs.length) (tickLanes P now rands i k xs).1 ys).2) := by
  induction xs generalizing i k with
  | nil => rfl
  | cons x xs ih =>
      have hadd : i + (xs.length + 1) = i + 1 + xs.length := by omega
      rw [List.cons_append, tickLanes, ih, tickLanes, List.length_cons, hadd]
      rfl

theorem tickLanes_streamIds (now : UInt64) (rands : Nat → Nat) (ls : List Lane) (i : Nat)
    (k : P.Carrier) :
    (tickLanes P now rands i k ls).2.map (·.info.streamId) = ls.map (·.info.streamId) := by
  induction ls generalizing i k with
  | nil => rfl
  | cons l ls ih =>
      rw [tickLanes, List.map_cons, List.map_cons, ih, Lane.tickStream_streamId]

theorem tickLanes_length (ls : List Lane) (i : Nat) (k : P.Carrier) :
    (tickLanes P now rands i k ls).2.length = ls.length := by
  have h := congrArg List.length (tickLanes_streamIds now rands ls i k)
  rwa [List.length_map, List.length_map] at h

/-- The loop leaves the account of a stream that is not in the list as it is. -/
theorem tickLanes_used_ne {ls : List Lane} {t : UInt64} (hne : t ∉ ls.map (·.info.streamId))
    (i : Nat) (k : P.Carrier) : P.used (tickLanes P now rands i k ls).1 t = P.used k t := by
  induction ls generalizing i k with
  | nil => rfl
  | cons l ls ih =>
      rw [List.map_cons, List.mem_cons, not_or] at hne
      rw [tickLanes, ih hne.2]
      exact Lane.tickStream_used_ne now hne.1

/-- **Stream `i` in the loop**: it finds its credits as they were before the `tick`, and leaves
    them as they are after it. -/
theorem tick_lane (now : UInt64) (rands : Nat → Nat) (s : Producer P) {i : Nat} {l : Lane}
    (hl : s.lanes[i]? = some l) (hids : (s.lanes.map (·.info.streamId)).Nodup) :
    P.used (s.poolAt now rands i) l.info.streamId = P.used s.pool l.info.streamId ∧
      (s.step (.tick now rands)).lanes[i]? =
        some (l.tickStream P now (rands i) (s.poolAt now rands i)).2 ∧
      P.used (s.step (.tick now rands)).pool l.info.streamId =
        P.used (l.tickStream P now (rands i) (s.poolAt now rands i)).1 l.info.streamId := by
  obtain ⟨hlt, rfl⟩ := List.getElem?_eq_some_iff.mp hl
  have hsplit : s.lanes = s.lanes.take i ++ s.lanes[i] :: s.lanes.drop (i + 1) := by
    rw [← List.drop_eq_getElem_cons hlt, List.take_append_drop]
  have hlen : (s.lanes.take i).length = i := List.length_take_of_le (Nat.le_of_lt hlt)
  rw [hsplit, List.map_append, List.map_cons, List.nodup_append] at hids
  obtain ⟨-, hright, hdisjoint⟩ := hids
  have hpre : s.lanes[i].info.streamId ∉ (s.lanes.take i).map (·.info.streamId) :=
    fun hm => hdisjoint _ hm _ List.mem_cons_self rfl
  have hpost : s.lanes[i].info.streamId ∉ (s.lanes.drop (i + 1)).map (·.info.streamId) :=
    (List.nodup_cons.mp hright).1
  let x := s.lanes[i].tickStream P now (rands i) (s.poolAt now rands i)
  let rest := tickLanes P now rands (i + 1) x.1 (s.lanes.drop (i + 1))
  have hloop : tickLanes P now rands 0 s.pool s.lanes =
      (rest.1, (tickLanes P now rands 0 s.pool (s.lanes.take i)).2 ++ x.2 :: rest.2) := by
    conv_lhs => rw [hsplit, tickLanes_append, hlen, Nat.zero_add, tickLanes]
    rfl
  have hpos : (tickLanes P now rands 0 s.pool (s.lanes.take i)).2.length = i :=
    (tickLanes_length _ _ _).trans hlen
  rw [step, hloop]
  refine ⟨tickLanes_used_ne hpre _ _, ?_, tickLanes_used_ne hpost _ _⟩
  exact (List.getElem?_append_right (Nat.le_of_eq hpos)).trans (by rw [hpos, Nat.sub_self]; rfl)

/-! ## 3. Conservation -/

/-- **Conservation**: what stream `i` has taken since `pool` is with its packets; and the accepted
    packets are numbered in order, and are no more than the stream has. -/
def Conserved (pool : P.Carrier) (i : Nat) (s : Producer P) : Prop :=
  ∀ l, s.lanes[i]? = some l →
    P.used s.pool l.info.streamId = P.used pool l.info.streamId + l.count ∧ l.Numbered

/-- The step loses no packet of stream `i`. -/
def Keeps (i : Nat) (s : Producer P) : Action → Prop
  | .tick now rands => ∀ l, s.lanes[i]? = some l →
      StreamProducer.takes P (rands i) l.info (s.poolAt now rands i) = true → ¬ l.Parks
  | .lane j a => j = i → ∀ l, s.lanes[i]? = some l → l.Keeps a

/-- What the steps keep: the streams are different, and stream `i` has lost nothing. -/
structure Sound (pool : P.Carrier) (i : Nat) (s : Producer P) : Prop where
  ids : (s.lanes.map (·.info.streamId)).Nodup
  lane : ∀ l, s.lanes[i]? = some l → l.Sound
  conserved : Conserved pool i s

theorem step_streamIds (s : Producer P) (a : Action) :
    (s.step a).lanes.map (·.info.streamId) = s.lanes.map (·.info.streamId) := by
  cases a with
  | tick now rands => exact tickLanes_streamIds now rands s.lanes 0 s.pool
  | lane j a =>
      refine List.ext_getElem? fun m => ?_
      show ((s.lanes.modify j (Lane.step · a)).map (·.info.streamId))[m]? = _
      rw [List.getElem?_map, List.getElem?_modify, List.getElem?_map]
      cases s.lanes[m]? with
      | none => rfl
      | some l =>
          by_cases hj : j = m
          · simp [hj, Lane.step_info]
          · simp [hj]

/-- The lane of stream `i` after a step: there was one before, and it took the step or none. -/
theorem lane_of_step {s : Producer P} {i j : Nat} {a : Lane.Action} {l' : Lane}
    (hl : (s.step (.lane j a)).lanes[i]? = some l') :
    ∃ l, s.lanes[i]? = some l ∧ l' = if j = i then l.step a else l := by
  have hmod : (s.lanes.modify j (Lane.step · a))[i]? = some l' := hl
  rw [List.getElem?_modify] at hmod
  cases hs : s.lanes[i]? with
  | none =>
      rw [hs] at hmod
      cases hmod
  | some l =>
      rw [hs] at hmod
      exact ⟨l, rfl, (Option.some.inj hmod).symm⟩

theorem lane_of_tick {s : Producer P} {i : Nat} {l' : Lane}
    (hl : (s.step (.tick now rands)).lanes[i]? = some l') : ∃ l, s.lanes[i]? = some l := by
  have hlen : (s.step (.tick now rands)).lanes.length = s.lanes.length := tickLanes_length ..
  have hlt := (List.getElem?_eq_some_iff.mp hl).1
  exact ⟨s.lanes[i], List.getElem?_eq_getElem (hlen ▸ hlt)⟩

theorem sound_create (pool : P.Carrier) (shapes : List LaneShape)
    (hids : (shapes.map (·.streamId)).Nodup) (i : Nat) : Sound pool i (create P pool shapes) := by
  have hlane : ∀ l, (create P pool shapes).lanes[i]? = some l → ∃ x, l = Lane.create x := by
    intro l hl
    obtain ⟨x, -, hx⟩ := List.mem_map.mp (List.mem_of_getElem? hl)
    exact ⟨x, hx.symm⟩
  refine ⟨?_, fun l hl => ?_, fun l hl => ?_⟩
  · show ((shapes.map Lane.create).map (·.info.streamId)).Nodup
    rw [List.map_map]
    exact hids
  · obtain ⟨x, rfl⟩ := hlane l hl
    exact (Lane.sound_create x).1
  · obtain ⟨x, rfl⟩ := hlane l hl
    rw [(Lane.sound_create x).2]
    exact ⟨rfl, Lane.numbered_create x⟩

/-- A step that loses nothing keeps all that. -/
theorem sound_step {pool : P.Carrier} {i : Nat} {s : Producer P} (h : Sound pool i s) (a : Action)
    (hk : Keeps i s a) : Sound pool i (s.step a) := by
  have hids : ((s.step a).lanes.map (·.info.streamId)).Nodup := by
    rw [step_streamIds]
    exact h.ids
  have hboth : ∀ l', (s.step a).lanes[i]? = some l' → l'.Sound ∧
      P.used (s.step a).pool l'.info.streamId = P.used pool l'.info.streamId + l'.count ∧
        l'.Numbered := by
    intro l' hl'
    cases a with
    | tick now rands =>
        obtain ⟨l, hl⟩ := lane_of_tick hl'
        obtain ⟨hbefore, hlane, hafter⟩ := tick_lane now rands s hl h.ids
        obtain ⟨hc, hn⟩ := h.conserved l hl
        obtain ⟨hs, hused⟩ := Lane.sound_tickStream now (h.lane l hl) (hbefore.trans hc)
          (hk l hl)
        have hl'eq := Option.some.inj (hlane.symm.trans hl')
        have hid : l'.info.streamId = l.info.streamId := hl'eq ▸ Lane.tickStream_streamId now
        rw [hid, hafter, hused, ← hl'eq]
        exact ⟨hs, rfl, Lane.numbered_tickStream hn ..⟩
    | lane j a =>
        obtain ⟨l, hl, rfl⟩ := lane_of_step hl'
        obtain ⟨hc, hn⟩ := h.conserved l hl
        by_cases hj : j = i
        · obtain ⟨hs, hcount⟩ := Lane.sound_step (h.lane l hl) (hk hj l hl)
          rw [if_pos hj, hcount, Lane.step_info]
          exact ⟨hs, hc, Lane.numbered_step hn a⟩
        · rw [if_neg hj]
          exact ⟨h.lane l hl, hc, hn⟩
  exact ⟨hids, fun l hl => (hboth l hl).1, fun l hl => (hboth l hl).2⟩

/-- **A packet that is lost takes its credit along.** -/
theorem not_conserved_step {pool : P.Carrier} {i : Nat} {s : Producer P} (h : Sound pool i s)
    (a : Action) (hk : ¬ Keeps i s a) : ¬ Conserved pool i (s.step a) := by
  intro hcons
  cases a with
  | tick now rands =>
      simp only [Keeps, Classical.not_forall, Classical.not_not] at hk
      obtain ⟨l, hl, ht, hp⟩ := hk
      obtain ⟨hbefore, hlane, hafter⟩ := tick_lane now rands s hl h.ids
      have hne := Lane.not_conserved_tickStream now (h.lane l hl)
        (hbefore.trans (h.conserved l hl).1) ht hp
      have hc := (hcons _ hlane).1
      rw [Lane.tickStream_streamId, hafter] at hc
      exact hne hc
  | lane j a =>
      simp only [Keeps, Classical.not_forall] at hk
      obtain ⟨rfl, l, hl, hk⟩ := hk
      have hlt := Lane.count_step_lt (h.lane l hl) hk
      have hlane : (s.step (.lane j a)).lanes[j]? = some (l.step a) := by
        show (s.lanes.modify j (Lane.step · a))[j]? = _
        rw [List.getElem?_modify_eq, hl]
        rfl
      have hc := (hcons _ hlane).1
      have hold := (h.conserved l hl).1
      rw [Lane.step_info] at hc
      have hpool : (s.step (.lane j a)).pool = s.pool := rfl
      rw [hpool] at hc
      omega

/-- **CONSERVATION.** For every producer whose streams are different, every stream and every run,
    the credits of the stream are with its packets in every state if and only if no step of the run
    loses a packet: no packet is deleted by the input channel and then queued, the consumer's port
    reaches a consumer that takes what it is offered, no credit meets a full port, and the tick of
    the producer's upstream port finds no credit. -/
theorem conserved_iff_keeps (P : CreditPool) (pool : P.Carrier) (shapes : List LaneShape)
    (hids : (shapes.map (·.streamId)).Nodup) (i : Nat) (acts : List Action) :
    Library.Everywhere step (Conserved pool i) (create P pool shapes) acts ↔
      Library.Along step (Keeps i) (create P pool shapes) acts :=
  Library.everywhere_iff_along (I := Sound pool i) (sound_create pool shapes hids i)
    (fun _ h => h.conserved) (fun _ a h hk => sound_step h a hk)
    (fun _ a h hk => not_conserved_step h a hk)

end Producer

/-- A pool that counts, with `capacity` credits for each stream. -/
def CreditPool.counting (capacity : Nat) : CreditPool where
  Carrier := UInt64 → Nat
  used k := k
  tryGetCredit s k := if k s < capacity then (true, Function.update k s (k s + 1)) else (false, k)
  returnCredit s k := Function.update k s (k s - 1)
  used_take s k := by
    split
    · exact Function.update_self ..
    · rfl
  used_take_ne s t k ht := by
    split
    · exact Function.update_of_ne ht ..
    · rfl
  used_return s k := Function.update_self ..
  used_return_ne s t k ht := Function.update_of_ne ht ..

namespace Producer

/-- The lane of a stream over the port `createStream` has made, to a consumer with the ports of its
    constructor. -/
def shapeOf (x : StreamInfo) : LaneShape :=
  { streamId := x.streamId, totalPackets := x.totalPackets }

/-- A stream of three packets and one of one packet. -/
def twoStreams : List LaneShape :=
  (StreamProducer.createStreams (fun _ _ k => (true, k))
    { creditPool := fun _ : UInt64 => (0 : Nat) }
    [{ packetCount := 3 }, { packetCount := 1 }]).streams.map shapeOf

/-- Two streams, one packet: the credit is on its way when the run ends. -/
theorem conserved_one_packet :
    (twoStreams.map LaneShape.streamId).Nodup ∧
    (Library.Everywhere step (Conserved (fun _ => 0) 0)
      (create (CreditPool.counting 8) (fun _ => 0) twoStreams)
      [.tick 0 fun _ => 0, .lane 0 (.inTick true), .lane 0 (.complete 0 5)] ↔
    Library.Along step (Keeps 0) (create (CreditPool.counting 8) (fun _ => 0) twoStreams)
      [.tick 0 fun _ => 0, .lane 0 (.inTick true), .lane 0 (.complete 0 5)]) := by
  have hids : (twoStreams.map LaneShape.streamId).Nodup := by
    rw [twoStreams, List.map_map]
    exact StreamProducer.streamIds_nodup _ _ (by decide)
  exact ⟨hids, conserved_iff_keeps _ _ _ hids 0 _⟩

example : twoStreams.map LaneShape.streamId = [1001, 1002] := by decide

/-- The credit is delivered: the packet is gone, and the credit is still taken. The function with
    two arguments would have given it back. -/
theorem credit_lost :
    ¬ Library.Everywhere step (Conserved (fun _ => 0) 0)
      (create (CreditPool.counting 8) (fun _ => 0) [{ streamId := 1001, totalPackets := 3 }])
      [.tick 0 fun _ => 0, .lane 0 (.inTick true), .lane 0 (.complete 0 5),
        .lane 0 .creditTick] ∧
    ∃ s l, s = Library.run step
        (create (CreditPool.counting 8) (fun _ => 0) [{ streamId := 1001, totalPackets := 3 }])
        [.tick 0 fun _ => 0, .lane 0 (.inTick true), .lane 0 (.complete 0 5)] ∧
      s.lanes = [l] ∧ l.credits = [1] ∧ (CreditPool.counting 8).used s.pool 1001 = 1 ∧
      (CreditPool.counting 8).used (StreamProducer.handleDownstreamResponse
        (CreditPool.counting 8) s.pool 1 l.link.heap).2.1 1001 = 0 := by
  refine ⟨fun h => ?_, _, _, rfl, rfl, by decide, by decide, by decide⟩
  exact absurd (h.2.2.2.2 _ rfl).1 (by decide)

end Producer

end Gem5Sc
