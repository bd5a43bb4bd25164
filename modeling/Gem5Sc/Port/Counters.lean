/-
  File:      Gem5Sc/Port/Counters.lean
  Subject:   THE COUNTERS OF AN INPUT PORT ACCOUNT FOR EVERY PACKET, over any sequence of `recv` and
             `tick`.

  Every call brings its own heap and surroundings, so between two calls anything may happen to the
  packets. Beside the port the run keeps what the channels have taken in, given out and turned away
  (`Intake`). A counter has 64 bits: it is the length of its log modulo 2^64.

  A call changes at most one channel at a time, and whatever it does there keeps the books of that
  channel: `Logged.channel` is the one place where the counters, the buffer and the logs are
  compared. `recv` and the rounds of `tick` are its four cases.

  * `Accounted` -- what then holds of the counters, in their own arithmetic;
  * `Exact` -- the same in natural numbers, which a counter that has wrapped does not meet
    (`exact_iff`).
-/
import Gem5Sc.Library.Runs
import Gem5Sc.Port.Offers
import Mathlib.Algebra.Order.BigOperators.Group.Finset

namespace Gem5Sc

/-- A call of an `UpstreamPort`. -/
inductive PortCall (ρ : Type) where
  | recv (now : UInt64) (p : PacketId) (h : Heap)
  | tick (handle : Handler ρ) (w : Heap × ρ)

/-- An `UpstreamPort` and what has gone through it. -/
structure Intake where
  port : UpstreamPort
  /-- The packets enqueued, each with its channel. -/
  enqueued : List (Nat × PacketId) := []
  /-- The packets processed, each with its channel. -/
  processed : List (Nat × PacketId) := []
  /-- The packets a full channel turned away, each with it. -/
  dropped : List (Nat × PacketId) := []
  /-- The calls of `recv`. -/
  calls : Nat := 0
  /-- Those with a packet for no channel of the port. -/
  invalid : Nat := 0

/-- The packets of channel `i`. -/
def ofVc (l : List (Nat × PacketId)) (i : Nat) : List PacketId :=
  (l.filter (·.1 = i)).map Prod.snd

variable {ρ : Type}

namespace Intake

def step (s : Intake) : PortCall ρ → Intake
  | .recv now p h =>
      let r := s.port.recv now p h
      let vcId := (h.packet p).vcId
      { port := r.2.1
        enqueued := if r.1 then s.enqueued ++ [(vcId.toNat, p)] else s.enqueued
        processed := s.processed
        dropped := if validVc vcId s.port.inputVcs.length && !r.1 then
          s.dropped ++ [(vcId.toNat, p)] else s.dropped
        calls := s.calls + 1
        invalid := if validVc vcId s.port.inputVcs.length then s.invalid else s.invalid + 1 }
  | .tick handle w =>
      { s with
        port := (s.port.tick handle w).1
        processed := s.processed ++ takenOf (s.port.offers handle w) }

/-- A port fresh from its constructor. -/
def fresh (id : Nat) (inSizes priorities : List Nat) (label : String) : Intake where
  port := .create id inSizes priorities label

/-- The sum of `enqueued` and `dropped` over all channels. -/
def counted (s : Intake) : Nat :=
  ∑ i ∈ Finset.range s.port.inputVcs.length,
    ((s.port.vc i).enqueued.toNat + (s.port.vc i).dropped.toNat)

/-- Every packet is accounted for, as far as counters of 64 bits can tell. -/
structure Accounted (s : Intake) : Prop where
  bounded : ∀ i, (s.port.vc i).buffer.length ≤ (s.port.vc i).capacity
  /-- In order: what came in is what went out and what is still there. -/
  content : ∀ i, ofVc s.enqueued i = ofVc s.processed i ++ (s.port.vc i).buffer
  balance : ∀ i, (s.port.vc i).enqueued =
    (s.port.vc i).processed + UInt64.ofNat (s.port.vc i).buffer.length
  total : s.calls % 2 ^ 64 = (s.counted + s.invalid) % 2 ^ 64

/-- Every packet is accounted for, in natural numbers. -/
structure Exact (s : Intake) : Prop where
  bounded : ∀ i, (s.port.vc i).buffer.length ≤ (s.port.vc i).capacity
  content : ∀ i, ofVc s.enqueued i = ofVc s.processed i ++ (s.port.vc i).buffer
  balance : ∀ i, (s.port.vc i).enqueued.toNat =
    (s.port.vc i).processed.toNat + (s.port.vc i).buffer.length
  total : s.calls = s.counted + s.invalid

/-- No counter of the port has come round to 0. -/
def Unwrapped (s : Intake) : Prop :=
  ∀ i, (ofVc s.enqueued i).length < 2 ^ 64 ∧ (ofVc s.dropped i).length < 2 ^ 64

/-- The books of the port: what the counters, the buffers and the logs have to do with each
    other. -/
structure Logged (s : Intake) : Prop where
  bounded : ∀ i, (s.port.vc i).buffer.length ≤ (s.port.vc i).capacity
  content : ∀ i, ofVc s.enqueued i = ofVc s.processed i ++ (s.port.vc i).buffer
  enqueued : ∀ i, (s.port.vc i).enqueued = UInt64.ofNat (ofVc s.enqueued i).length
  processed : ∀ i, (s.port.vc i).processed = UInt64.ofNat (ofVc s.processed i).length
  dropped : ∀ i, (s.port.vc i).dropped = UInt64.ofNat (ofVc s.dropped i).length
  /-- The logs speak of channels of the port. -/
  within : ∀ x ∈ s.enqueued ++ s.dropped, x.1 < s.port.inputVcs.length
  total : s.calls = s.enqueued.length + s.dropped.length + s.invalid

/-! ## 1. One channel -/

theorem ofVc_append (l k : List (Nat × PacketId)) (i : Nat) :
    ofVc (l ++ k) i = ofVc l i ++ ofVc k i := by
  unfold ofVc
  rw [List.filter_append, List.map_append]

/-- Packets of one channel, seen from any. -/
theorem ofVc_map (ps : List PacketId) (i j : Nat) :
    ofVc (ps.map fun p => (i, p)) j = if i = j then ps else [] := by
  unfold ofVc
  rw [List.filter_map, List.map_map]
  by_cases hij : i = j
  · have hall : ps.filter ((fun x : Nat × PacketId => decide (x.1 = j)) ∘ fun p => (i, p)) = ps :=
      List.filter_eq_self.mpr fun p _ => decide_eq_true hij
    rw [hall, if_pos hij]
    exact List.map_id ps
  · have hnone : ps.filter ((fun x : Nat × PacketId => decide (x.1 = j)) ∘ fun p => (i, p)) = [] :=
      List.filter_eq_nil_iff.mpr fun p _ => by simpa using hij
    rw [hnone, if_neg hij]
    rfl

/-- What happens to one channel: it becomes `x`, takes the packets `came` in, gives the packets
    `went` out and turns the packets `lost` away. -/
structure Moves (old x : InputVC) (came went lost : List PacketId) : Prop where
  bounded : x.buffer.length ≤ x.capacity
  buffer : old.buffer ++ came = went ++ x.buffer
  enqueued : x.enqueued = old.enqueued + UInt64.ofNat came.length
  processed : x.processed = old.processed + UInt64.ofNat went.length
  dropped : x.dropped = old.dropped + UInt64.ofNat lost.length

/-- A log of channel `i` that grows by `ps`, beside the counter of it. -/
theorem counted_append {l : List (Nat × PacketId)} {i : Nat} {c c' : UInt64} {ps : List PacketId}
    (hc : c = UInt64.ofNat (ofVc l i).length) (hc' : c' = c + UInt64.ofNat ps.length) :
    c' = UInt64.ofNat (ofVc (l ++ ps.map fun p => (i, p)) i).length := by
  rw [ofVc_append, ofVc_map, if_pos rfl, List.length_append, UInt64.ofNat_add, ← hc, hc']

/-- The same log beside the counter of another channel. -/
theorem ofVc_append_ne (l : List (Nat × PacketId)) {i j : Nat} (hij : i ≠ j) (ps : List PacketId) :
    ofVc (l ++ ps.map fun p => (i, p)) j = ofVc l j := by
  rw [ofVc_append, ofVc_map, if_neg hij, List.append_nil]

/-- **One channel moves**, whichever it is, and the others stay. -/
theorem Logged.channel {s : Intake} (h : Logged s) {i : Nat}
    (hi : i < s.port.inputVcs.length) {x : InputVC} {came went lost : List PacketId}
    (hm : Moves (s.port.vc i) x came went lost) :
    Logged { port := s.port.setVc i x,
             enqueued := s.enqueued ++ came.map fun p => (i, p),
             processed := s.processed ++ went.map fun p => (i, p),
             dropped := s.dropped ++ lost.map fun p => (i, p),
             calls := s.calls + (came.length + lost.length), invalid := s.invalid } := by
  have hself : (s.port.setVc i x).vc i = x := UpstreamPort.setVc_vc_self hi x
  refine ⟨fun j => ?_, fun j => ?_, fun j => ?_, fun j => ?_, fun j => ?_, fun y hy => ?_, ?_⟩
  · by_cases hij : i = j
    · subst hij
      rw [hself]
      exact hm.bounded
    · rw [UpstreamPort.setVc_vc_ne _ hij]
      exact h.bounded j
  · show ofVc (s.enqueued ++ _) j = ofVc (s.processed ++ _) j ++ _
    by_cases hij : i = j
    · subst hij
      rw [ofVc_append, ofVc_append, ofVc_map, ofVc_map, if_pos rfl, if_pos rfl, h.content i, hself,
        List.append_assoc, hm.buffer, List.append_assoc]
    · rw [ofVc_append_ne _ hij, ofVc_append_ne _ hij, UpstreamPort.setVc_vc_ne _ hij]
      exact h.content j
  · by_cases hij : i = j
    · subst hij
      rw [hself]
      exact counted_append (h.enqueued i) hm.enqueued
    · rw [UpstreamPort.setVc_vc_ne _ hij]
      show _ = UInt64.ofNat (ofVc (s.enqueued ++ _) j).length
      rw [ofVc_append_ne _ hij]
      exact h.enqueued j
  · by_cases hij : i = j
    · subst hij
      rw [hself]
      exact counted_append (h.processed i) hm.processed
    · rw [UpstreamPort.setVc_vc_ne _ hij]
      show _ = UInt64.ofNat (ofVc (s.processed ++ _) j).length
      rw [ofVc_append_ne _ hij]
      exact h.processed j
  · by_cases hij : i = j
    · subst hij
      rw [hself]
      exact counted_append (h.dropped i) hm.dropped
    · rw [UpstreamPort.setVc_vc_ne _ hij]
      show _ = UInt64.ofNat (ofVc (s.dropped ++ _) j).length
      rw [ofVc_append_ne _ hij]
      exact h.dropped j
  · have hnew : ∀ ps : List PacketId, y ∈ ps.map (fun p => (i, p)) → y.1 = i := by
      intro ps hmem
      obtain ⟨p, -, rfl⟩ := List.mem_map.mp hmem
      rfl
    show y.1 < (s.port.setVc i x).inputVcs.length
    rw [UpstreamPort.setVc_length]
    rcases List.mem_append.mp hy with hy | hy
    · rcases List.mem_append.mp hy with hy | hy
      · exact h.within y (List.mem_append_left _ hy)
      · exact (hnew _ hy).symm ▸ hi
    · rcases List.mem_append.mp hy with hy | hy
      · exact h.within y (List.mem_append_right _ hy)
      · exact (hnew _ hy).symm ▸ hi
  · have htotal := h.total
    simp only [List.length_append, List.length_map]
    omega

/-- Only the channels of the port matter. -/
theorem Logged.congr {s t : Intake} (h : Logged s) (hvcs : t.port.inputVcs = s.port.inputVcs)
    (henq : t.enqueued = s.enqueued) (hproc : t.processed = s.processed)
    (hdrop : t.dropped = s.dropped) (hcalls : t.calls + s.invalid = s.calls + t.invalid) :
    Logged t := by
  have hvc : ∀ i, t.port.vc i = s.port.vc i := fun i => congrArg (·.getD i default) hvcs
  refine ⟨fun i => ?_, fun i => ?_, fun i => ?_, fun i => ?_, fun i => ?_, ?_, ?_⟩
  · rw [hvc]
    exact h.bounded i
  · rw [hvc, henq, hproc]
    exact h.content i
  · rw [hvc, henq]
    exact h.enqueued i
  · rw [hvc, hproc]
    exact h.processed i
  · rw [hvc, hdrop]
    exact h.dropped i
  · rw [henq, hdrop, hvcs]
    exact h.within
  · have htotal := h.total
    rw [henq, hdrop]
    omega

/-! ## 2. The calls -/

/-- The ways a `recv` can go. -/
theorem recv_cases (now : UInt64) (u : UpstreamPort) (p : PacketId) (h : Heap) :
    (validVc (h.packet p).vcId u.inputVcs.length = false ∧ (u.recv now p h).1 = false ∧
      (u.recv now p h).2.1.inputVcs = u.inputVcs) ∨
    (validVc (h.packet p).vcId u.inputVcs.length = true ∧ (u.recv now p h).1 = false ∧
      (u.recv now p h).2.1.inputVcs = u.inputVcs.set (h.packet p).vcId.toNat
        (u.vc (h.packet p).vcId.toNat).countDropped) ∨
    (validVc (h.packet p).vcId u.inputVcs.length = true ∧ (u.recv now p h).1 = true ∧
      (u.vc (h.packet p).vcId.toNat).full = false ∧
      (u.recv now p h).2.1.inputVcs = u.inputVcs.set (h.packet p).vcId.toNat
        ((u.vc (h.packet p).vcId.toNat).push p)) := by
  cases hv : validVc (h.packet p).vcId u.inputVcs.length with
  | false =>
      rw [UpstreamPort.recv_invalid now hv]
      exact Or.inl ⟨rfl, rfl, rfl⟩
  | true =>
      cases hf : (u.vc (h.packet p).vcId.toNat).full with
      | true =>
          rw [UpstreamPort.recv_full now hv hf]
          exact Or.inr (Or.inl ⟨rfl, rfl, rfl⟩)
      | false =>
          rw [UpstreamPort.recv_enqueued now hv hf]
          exact Or.inr (Or.inr ⟨rfl, rfl, rfl, rfl⟩)

/-- A drop is counted and moves nothing. -/
theorem moves_countDropped {vc : InputVC} (hb : vc.buffer.length ≤ vc.capacity) (p : PacketId) :
    Moves vc vc.countDropped [] [] [p] :=
  ⟨hb, List.append_nil _, (UInt64.add_zero _).symm, (UInt64.add_zero _).symm, rfl⟩

/-- A packet comes in. -/
theorem moves_push {vc : InputVC} (hf : vc.full = false) (p : PacketId) :
    Moves vc (vc.push p) [p] [] [] := by
  have hroom : vc.buffer.length < vc.capacity := by simpa [InputVC.full] using hf
  refine ⟨?_, rfl, rfl, (UInt64.add_zero _).symm, (UInt64.add_zero _).symm⟩
  rw [InputVC.push_buffer, List.length_append]
  exact hroom

/-- The head goes out. -/
theorem moves_pop {vc : InputVC} {p : PacketId} {rest : List PacketId}
    (hb : vc.buffer = p :: rest) (hlen : vc.buffer.length ≤ vc.capacity) :
    Moves vc vc.pop [] [p] [] := by
  rw [hb, List.length_cons] at hlen
  have hpop : vc.pop = { vc with buffer := rest, processed := vc.processed + 1 } := by
    simp only [InputVC.pop, hb]
  rw [hpop]
  exact ⟨Nat.le_of_succ_le hlen, by rw [hb, List.append_nil]; rfl, (UInt64.add_zero _).symm, rfl,
    (UInt64.add_zero _).symm⟩

/-- **One `recv`.** -/
theorem logged_recv {s : Intake} (h : Logged s) (now : UInt64) (p : PacketId) (hp : Heap) :
    Logged (s.step (PortCall.recv (ρ := ρ) now p hp)) := by
  rcases recv_cases now s.port p hp with ⟨hv, hr, hvcs⟩ | ⟨hv, hr, hvcs⟩ | ⟨hv, hr, hf, hvcs⟩
  · refine h.congr hvcs ?_ rfl ?_ ?_
    · simp only [step, hr, Bool.false_eq_true, if_false]
    · simp only [step, hv, Bool.false_and, Bool.false_eq_true, if_false]
    · simp only [step, hv, Bool.false_eq_true, if_false]
      omega
  · have hi := validVc_toNat hv
    refine (h.channel hi (moves_countDropped (h.bounded _) p)).congr hvcs ?_ ?_ ?_ ?_
    · simp only [step, hr, Bool.false_eq_true, if_false, List.map_nil, List.append_nil]
    · exact (List.append_nil _).symm
    · simp only [step, hv, hr, Bool.not_false, Bool.and_self, if_true, List.map_cons, List.map_nil]
    · simp only [step, hv, if_true]
      rfl
  · have hi := validVc_toNat hv
    refine (h.channel hi (moves_push hf p)).congr hvcs ?_ ?_ ?_ ?_
    · simp only [step, hr, if_true, List.map_cons, List.map_nil]
    · exact (List.append_nil _).symm
    · simp only [step, hr, Bool.not_true, Bool.and_false, Bool.false_eq_true, if_false,
        List.map_nil, List.append_nil]
    · simp only [step, hv, if_true]
      rfl

/-- **One round of a `tick`**, with the log so far. -/
theorem logged_offerVc {s : Intake} {handle : Handler ρ}
    {x : (UpstreamPort × (Heap × ρ)) × List Offer} {i : Nat} (hi : i < x.1.1.inputVcs.length)
    (h : Logged { s with port := x.1.1, processed := s.processed ++ takenOf x.2 }) :
    Logged { s with
      port := (UpstreamPort.offerVc handle x i).1.1,
      processed := s.processed ++ takenOf (UpstreamPort.offerVc handle x i).2 } := by
  cases hb : (x.1.1.vc i).buffer with
  | nil =>
      rw [UpstreamPort.offerVc_nil hb]
      exact h
  | cons p rest =>
      rw [UpstreamPort.offerVc_cons hb, UpstreamPort.tickVc_cons hb]
      cases ht : (handle p x.1.1.id x.1.1.label x.1.2).1 with
      | true =>
          have htaken : takenOf (x.2 ++ [{ vc := i, packet := p, taken := true }]) =
              takenOf x.2 ++ [(i, p)] := takenOf_append _ _
          refine (h.channel hi (moves_pop hb (h.bounded i))).congr rfl ?_ ?_ ?_ rfl
          · exact (List.append_nil _).symm
          · show s.processed ++ takenOf (x.2 ++ [_]) = _
            rw [htaken]
            exact (List.append_assoc _ _ _).symm
          · exact (List.append_nil _).symm
      | false =>
          have htaken : takenOf (x.2 ++ [{ vc := i, packet := p, taken := false }]) =
              takenOf x.2 := (takenOf_append _ _).trans (List.append_nil _)
          refine h.congr rfl rfl ?_ rfl rfl
          show s.processed ++ takenOf (x.2 ++ [_]) = _
          rw [htaken]

/-- **One `tick`.** -/
theorem logged_tick {s : Intake} (h : Logged s) (handle : Handler ρ) (w : Heap × ρ) :
    Logged (s.step (PortCall.tick handle w)) := by
  have hloop := UpstreamPort.tick_induction handle (u := s.port) (w := w)
    (P := fun _ x => x.1.1.inputVcs.length = s.port.inputVcs.length ∧
      Logged { s with port := x.1.1, processed := s.processed ++ takenOf x.2 })
    ⟨rfl, h.congr rfl rfl (List.append_nil _) rfl rfl⟩ fun i hi x hx => by
      refine ⟨?_, logged_offerVc (by rw [hx.1]; exact hi) hx.2⟩
      rw [UpstreamPort.offerVc_fst, UpstreamPort.tickVc_length]
      exact hx.1
  exact hloop.2

/-- A channel as its constructor leaves it. -/
def Untouched (vc : InputVC) : Prop :=
  vc.enqueued = 0 ∧ vc.dropped = 0 ∧ vc.processed = 0 ∧ vc.buffer = []

theorem untouched_of_mem_create {id : Nat} {inSizes priorities : List Nat} {label : String}
    {vc : InputVC} (h : vc ∈ (UpstreamPort.create id inSizes priorities label).inputVcs) :
    Untouched vc := by
  obtain ⟨i, hi, rfl⟩ := List.mem_mapIdx.mp h
  exact ⟨rfl, rfl, rfl, rfl⟩

theorem untouched_create (id : Nat) (inSizes priorities : List Nat) (label : String) (i : Nat) :
    Untouched ((UpstreamPort.create id inSizes priorities label).vc i) := by
  unfold UpstreamPort.vc
  rw [List.getD_eq_getElem?_getD]
  cases hget : (UpstreamPort.create id inSizes priorities label).inputVcs[i]? with
  | none => exact ⟨rfl, rfl, rfl, rfl⟩
  | some vc => exact untouched_of_mem_create (List.mem_of_getElem? hget)

theorem logged_fresh (id : Nat) (inSizes priorities : List Nat) (label : String) :
    Logged (fresh id inSizes priorities label) := by
  have hvc : ∀ i, Untouched ((fresh id inSizes priorities label).port.vc i) :=
    untouched_create id inSizes priorities label
  refine ⟨fun i => ?_, fun i => ?_, fun i => ?_, fun i => ?_, fun i => ?_,
    fun _ hx => absurd hx List.not_mem_nil, rfl⟩
  · obtain ⟨-, -, -, hbuf⟩ := hvc i
    rw [hbuf]
    exact Nat.zero_le _
  · obtain ⟨-, -, -, hbuf⟩ := hvc i
    exact hbuf.symm
  · exact (hvc i).1
  · exact (hvc i).2.2.1
  · exact (hvc i).2.1

/-- **The books are kept**, over any sequence of calls. -/
theorem logged_run (id : Nat) (inSizes priorities : List Nat) (label : String)
    (calls : List (PortCall ρ)) :
    Logged (Library.run step (fresh id inSizes priorities label) calls) := by
  refine Library.run_invariant (logged_fresh id inSizes priorities label) ?_ calls
  intro s c h
  cases c with
  | recv now p hp => exact logged_recv h now p hp
  | tick handle w => exact logged_tick h handle w

/-! ## 3. What the counters know -/

/-- A log is as long as its channels' parts together. -/
theorem sum_ofVc {l : List (Nat × PacketId)} {n : Nat} (h : ∀ x ∈ l, x.1 < n) :
    ∑ i ∈ Finset.range n, (ofVc l i).length = l.length := by
  have hcount : ∀ i, (ofVc l i).length = ((l.map Prod.fst : List Nat) : Multiset Nat).count i := by
    intro i
    rw [ofVc, List.length_map, Multiset.coe_count, List.count_eq_countP, List.countP_map,
      List.countP_eq_length_filter]
    rfl
  have hmem : ∀ i ∈ ((l.map Prod.fst : List Nat) : Multiset Nat), i ∈ Finset.range n := by
    intro i hi
    obtain ⟨x, hx, rfl⟩ := List.mem_map.mp (Multiset.mem_coe.mp hi)
    exact Finset.mem_range.mpr (h x hx)
  calc ∑ i ∈ Finset.range n, (ofVc l i).length
      = ∑ i ∈ Finset.range n, ((l.map Prod.fst : List Nat) : Multiset Nat).count i :=
        Finset.sum_congr rfl fun i _ => hcount i
    _ = l.length := by
        rw [Multiset.sum_count_eq_card hmem, Multiset.coe_card, List.length_map]

/-- What the channels' logs hold is what the calls have brought. -/
theorem Logged.sum_logs {s : Intake} (h : Logged s) :
    s.calls = ∑ i ∈ Finset.range s.port.inputVcs.length,
      ((ofVc s.enqueued i).length + (ofVc s.dropped i).length) + s.invalid := by
  rw [Finset.sum_add_distrib, sum_ofVc fun x hx => h.within x (List.mem_append_left _ hx),
    sum_ofVc fun x hx => h.within x (List.mem_append_right _ hx)]
  exact h.total

/-- A counter never shows more than its log holds. -/
theorem Logged.counted_le {s : Intake} (h : Logged s) (i : Nat) :
    (s.port.vc i).enqueued.toNat + (s.port.vc i).dropped.toNat ≤
      (ofVc s.enqueued i).length + (ofVc s.dropped i).length := by
  rw [h.enqueued, h.dropped, UInt64.toNat_ofNat', UInt64.toNat_ofNat']
  exact Nat.add_le_add (Nat.mod_le _ _) (Nat.mod_le _ _)

theorem Logged.accounted {s : Intake} (h : Logged s) : Accounted s := by
  refine ⟨h.bounded, h.content, fun i => ?_, ?_⟩
  · rw [h.enqueued, h.processed, h.content, List.length_append, UInt64.ofNat_add]
  · have hmod : s.counted % 2 ^ 64 = (∑ i ∈ Finset.range s.port.inputVcs.length,
        ((ofVc s.enqueued i).length + (ofVc s.dropped i).length)) % 2 ^ 64 := by
      rw [counted, Finset.sum_nat_mod, Finset.sum_nat_mod _ _ fun i => _ + _]
      refine congrArg (· % 2 ^ 64) (Finset.sum_congr rfl fun i _ => ?_)
      rw [h.enqueued, h.dropped, UInt64.toNat_ofNat', UInt64.toNat_ofNat', ← Nat.add_mod]
    rw [h.sum_logs, Nat.add_mod, ← hmod, ← Nat.add_mod]

/-- **The balance holds in natural numbers exactly while no counter has wrapped.** -/
theorem Logged.exact_iff {s : Intake} (h : Logged s) : Exact s ↔ Unwrapped s := by
  constructor
  · intro he i
    by_cases hi : i < s.port.inputVcs.length
    · -- The sums agree and so do, each counter being at most its log, their terms.
      have hsum : s.counted = ∑ i ∈ Finset.range s.port.inputVcs.length,
          ((ofVc s.enqueued i).length + (ofVc s.dropped i).length) :=
        Nat.add_right_cancel (he.total.symm.trans h.sum_logs)
      have hterm := (Finset.sum_eq_sum_iff_of_le fun i _ => h.counted_le i).mp hsum i
        (Finset.mem_range.mpr hi)
      have henq := (s.port.vc i).enqueued.toNat_lt
      have hdrop := (s.port.vc i).dropped.toNat_lt
      rw [h.enqueued, UInt64.toNat_ofNat'] at hterm henq
      rw [h.dropped, UInt64.toNat_ofNat'] at hterm hdrop
      omega
    · have hnone : ∀ l, (∀ x ∈ l, x ∈ s.enqueued ++ s.dropped) → ofVc l i = [] := by
        intro l hl
        refine List.map_eq_nil_iff.mpr (List.filter_eq_nil_iff.mpr fun x hx => ?_)
        have hx := h.within x (hl x hx)
        simp only [decide_eq_true_eq]
        omega
      rw [hnone _ fun x hx => List.mem_append_left _ hx,
        hnone _ fun x hx => List.mem_append_right _ hx]
      exact ⟨by decide, by decide⟩
  · intro hu
    have henq : ∀ i, (s.port.vc i).enqueued.toNat = (ofVc s.enqueued i).length := by
      intro i
      rw [h.enqueued]
      exact UInt64.toNat_ofNat_of_lt' (hu i).1
    have hdrop : ∀ i, (s.port.vc i).dropped.toNat = (ofVc s.dropped i).length := by
      intro i
      rw [h.dropped]
      exact UInt64.toNat_ofNat_of_lt' (hu i).2
    refine ⟨h.bounded, h.content, fun i => ?_, ?_⟩
    · have hlen := congrArg List.length (h.content i)
      rw [List.length_append] at hlen
      have hproc : (ofVc s.processed i).length < 2 ^ 64 := by
        have := (hu i).1
        omega
      rw [henq, h.processed, UInt64.toNat_ofNat_of_lt' hproc, hlen]
    · rw [h.sum_logs, counted]
      simp only [henq, hdrop]

/-- Fewer than 2^64 calls of `recv` wrap no counter. -/
theorem Logged.unwrapped {s : Intake} (h : Logged s) (hcalls : s.calls < 2 ^ 64) :
    Unwrapped s := by
  intro i
  have hpart : ∀ l : List (Nat × PacketId), (ofVc l i).length ≤ l.length := fun l => by
    rw [ofVc, List.length_map]
    exact List.length_filter_le _ _
  have henq := hpart s.enqueued
  have hdrop := hpart s.dropped
  have htotal := h.total
  omega

/-- **EVERY PACKET IS ACCOUNTED FOR.** For every `UpstreamPort`, with any channels, and every
    sequence of `recv` with any packets and `tick` with any owner: in every channel what was
    enqueued is what was processed and what is still there, in order, within the capacity and, by
    the counters, in number; and the calls of `recv` are the packets enqueued and dropped in all
    channels and those that were for none. Numbers are modulo 2^64, and natural numbers exactly
    where no counter has wrapped, as in a run with fewer than 2^64 calls of `recv`. -/
theorem counters_account (id : Nat) (inSizes priorities : List Nat) (label : String)
    (calls : List (PortCall ρ)) :
    let s := Library.run step (fresh id inSizes priorities label) calls
    Accounted s ∧ (Exact s ↔ Unwrapped s) ∧ (s.calls < 2 ^ 64 → Exact s) := by
  intro s
  have h : Logged s := logged_run id inSizes priorities label calls
  exact ⟨h.accounted, h.exact_iff, fun hcalls => h.exact_iff.mpr (h.unwrapped hcalls)⟩

/-- One packet comes to a port whose only channel is full. -/
theorem step_of_full {s : Intake} (hlen : s.port.inputVcs.length = 1)
    (hfull : (s.port.vc 0).full = true) :
    let t := s.step (PortCall.recv (ρ := Unit) 0 0 {})
    t.port.inputVcs.length = 1 ∧ (t.port.vc 0).full = true ∧
      t.dropped = s.dropped ++ [(0, 0)] := by
  intro t
  have hv : validVc (({} : Heap).packet 0).vcId s.port.inputVcs.length = true := by
    rw [hlen]
    decide
  have hrecv := UpstreamPort.recv_full (h := {}) 0 hv hfull
  have hport : t.port = (UpstreamPort.received 0 s.port 0 {}).setVc 0 (s.port.vc 0).countDropped :=
    congrArg (fun r => r.2.1) hrecv
  refine ⟨?_, ?_, ?_⟩
  · rw [hport, UpstreamPort.setVc_length]
    exact hlen
  · have hself := UpstreamPort.setVc_vc_self (u := UpstreamPort.received 0 s.port 0 {})
      (Nat.lt_of_lt_of_eq Nat.zero_lt_one hlen.symm) (s.port.vc 0).countDropped
    rw [hport, hself]
    exact hfull
  · simp only [t, step, hv, hrecv, Bool.not_false, Bool.and_self, if_true]
    rfl

/-- A full channel turns every packet away. -/
theorem run_of_full (n : Nat) {s : Intake} (hlen : s.port.inputVcs.length = 1)
    (hfull : (s.port.vc 0).full = true) :
    (Library.run step s (List.replicate n (PortCall.recv (ρ := Unit) 0 0 {}))).dropped =
      s.dropped ++ List.replicate n (0, 0) := by
  induction n generalizing s with
  | zero => exact (List.append_nil _).symm
  | succ n ih =>
      obtain ⟨hlen', hfull', hdrop⟩ := step_of_full hlen hfull
      refine (ih hlen' hfull').trans ?_
      rw [hdrop, List.append_assoc, List.replicate_succ]
      rfl

/-- **A counter comes round.** After 2^64 packets for a channel without room its `dropped` is back
    at 0, and by the counters no packet has come. -/
theorem turnedAway_not_exact :
    ¬ Exact (Library.run step (fresh 0 [0] [] "in")
      (List.replicate (2 ^ 64) (PortCall.recv (ρ := Unit) 0 0 {}))) := by
  intro he
  have hu := (logged_run 0 [0] [] "in" _).exact_iff.mp he
  have hdrop := (hu 0).2
  rw [run_of_full _ rfl rfl, ofVc_append,
    ← List.map_replicate (f := fun p : PacketId => (0, p)) (a := 0), ofVc_map, if_pos rfl,
    List.length_append, List.length_replicate] at hdrop
  omega

end Intake

end Gem5Sc
