/-
  File:      Gem5Sc/EventQueue/Ties.lean
  Subject:   EVENTS WITH EQUAL `fire_time`: in which order they are processed.

  Every `schedule` call gives its event the next number, whether it comes from outside or from a
  handler; the code never reads it (`numbered`). `event_compare` looks at `fire_time` only, so
  which of several due events is on top is up to the structure behind `std::priority_queue`.

  * `fifo_iff_oldest` -- ties are processed in the order of their numbers exactly as long as every
    event popped is the oldest one of its tie;
  * `heap_overtakes` -- the heap of the standard library does not do so.
-/
import Gem5Sc.EventQueue.Session

namespace Gem5Sc

universe u v

variable {ε : Type u} {σ : Type v}

/-! ## 1. Numbering the `schedule` calls -/

/-- The calls with their numbers, from `k` on. -/
def number (k : Nat) (calls : List (ε × UInt64)) : List ((ε × Nat) × UInt64) :=
  (calls.zipIdx k).map fun c => ((c.1.1, c.2), c.1.2)

/-- `a` with its calls numbered; the next number is part of the state. -/
def Act.numbered (a : Act ε σ) : Act (ε × Nat) (σ × Nat) := fun now x =>
  let r := a now x.1
  ((r.1, x.2 + r.2.length), number x.2 r.2)

/-- `process()` of the numbered events. -/
def numbered (process : Process ε σ) : Process (ε × Nat) (σ × Nat) := fun ev =>
  Act.numbered (process ev.1)

def Move.numbered : Move ε σ → Move (ε × Nat) (σ × Nat)
  | .outside a => .outside (Act.numbered a)
  | .run n => .run n
  | .round => .round

/-- The number of a pending event. -/
def Pending.num (e : Pending (ε × Nat)) : Nat := e.event.2

theorem number_nums (k : Nat) (calls : List (ε × UInt64)) (f : (ε × Nat) × UInt64 → UInt64) :
    ((number k calls).map fun c => (⟨f c, c.1⟩ : Pending (ε × Nat))).map Pending.num =
      List.range' k calls.length := by
  have hnum : (Pending.num ∘ fun c => (⟨f c, c.1⟩ : Pending (ε × Nat))) = fun c => c.1.2 := rfl
  rw [List.map_map, hnum, number, List.map_map]
  exact List.zipIdx_map_snd k calls

namespace Session

variable {Q : Library.PriorityQueue (Pending (ε × Nat)) Pending.key}

/-- The state before any `schedule` call. -/
def fresh (Q : Library.PriorityQueue (Pending (ε × Nat)) Pending.key) (x : σ) :
    Session Q (σ × Nat) where
  sim := { state := (x, 0) }

/-! ## 2. First in, first out -/

/-- Ties are processed in the order in which they were scheduled: those that have been processed,
    and none before an older one that still waits. -/
structure FirstInFirstOut (s : Session Q (σ × Nat)) : Prop where
  processed : s.fired.Pairwise fun f g =>
    f.entry.fireTime = g.entry.fireTime → f.entry.num < g.entry.num
  waiting : ∀ f ∈ s.fired, ∀ x ∈ s.sim.pending,
    f.entry.fireTime = x.fireTime → f.entry.num < x.num

/-- If an event is popped, it is the oldest of its tie. -/
def PopsOldest (s : Session Q (σ × Nat)) (m : Move ε σ) : Prop :=
  m = .round → ∀ e, s.Due e → ∀ x ∈ s.sim.pending, x.fireTime = e.fireTime → e.num ≤ x.num

/-- If an event is popped, no pending one has an earlier `fire_time`. -/
def PopsEarliest (s : Session Q (σ × Nat)) (m : Move ε σ) : Prop :=
  m = .round → ∀ e, s.Due e → ∀ x ∈ s.sim.pending, e.fireTime ≤ x.fireTime

/-- A step of a session whose `schedule` calls are numbered. -/
def numberedStep (process : Process ε σ) (s : Session Q (σ × Nat)) (m : Move ε σ) :
    Session Q (σ × Nat) :=
  s.step (numbered process) m.numbered

/-- Every number has been given once, and the next one is not among them. -/
structure Numbered (s : Session Q (σ × Nat)) : Prop where
  distinct : (s.sim.pending.map Pending.num).Nodup
  pending : ∀ x ∈ s.sim.pending, x.num < s.sim.state.2
  fired : ∀ f ∈ s.fired, f.entry.num < s.sim.state.2

theorem fresh_pending (x : σ) : (fresh Q x).sim.pending = 0 := Q.elems_empty

theorem numbered_fresh (x : σ) : Numbered (fresh Q x) := by
  refine ⟨?_, fun e he => ?_, fun f hf => absurd hf List.not_mem_nil⟩
  · rw [fresh_pending, Multiset.map_zero]
    exact Multiset.nodup_zero
  · rw [fresh_pending] at he
    exact absurd he (Multiset.notMem_zero e)

theorem fifo_fresh (x : σ) : FirstInFirstOut (fresh Q x) :=
  ⟨List.Pairwise.nil, fun _ hf => absurd hf List.not_mem_nil⟩

/-! ### One step -/

section Calls

variable {s t : Session Q (σ × Nat)} {rest : Multiset (Pending (ε × Nat))} {k : Nat}
  {calls : List (ε × UInt64)} {time : (ε × Nat) × UInt64 → UInt64}

/-- The entries of new calls are younger than everything before them. -/
theorem num_of_mem_number {x : Pending (ε × Nat)}
    (hx : x ∈ (number k calls).map fun c => (⟨time c, c.1⟩ : Pending (ε × Nat))) :
    k ≤ x.num ∧ x.num < k + calls.length := by
  have hmem : x.num ∈ List.range' k calls.length := by
    rw [← number_nums k calls time]
    exact List.mem_map_of_mem hx
  exact List.mem_range'_1.mp hmem

/-- New calls keep the numbers apart. -/
theorem distinct_number (hd : (rest.map Pending.num).Nodup) (hlt : ∀ x ∈ rest, x.num < k) :
    ((rest + ((number k calls).map fun c => (⟨time c, c.1⟩ : Pending (ε × Nat)) :
      Multiset (Pending (ε × Nat)))).map Pending.num).Nodup := by
  rw [Multiset.map_add, Multiset.map_coe, number_nums, Multiset.nodup_add]
  refine ⟨hd, Multiset.coe_nodup.mpr List.nodup_range', Multiset.disjoint_left.mpr ?_⟩
  intro i hi hi'
  obtain ⟨x, hx, rfl⟩ := Multiset.mem_map.mp hi
  have hge : k ≤ x.num := (List.mem_range'_1.mp (Multiset.mem_coe.mp hi')).1
  have hle : x.num < k := hlt x hx
  omega

end Calls

section Step

variable {process : Process ε σ} {s : Session Q (σ × Nat)}

/-- What a round leaves in the queue. -/
theorem pending_fire (process : Process ε σ) (s : Session Q (σ × Nat)) (e : Pending (ε × Nat)) :
    (s.fire (numbered process) e).sim.pending = Q.elems (Q.pop s.sim.queue.queue) +
      (((number s.sim.state.2 (process e.event.1 e.fireTime s.sim.state.1).2).map
        fun c => ⟨e.fireTime + c.2, c.1⟩ : List (Pending (ε × Nat))) : Multiset _) :=
  EventQueue.pending_scheduleAll _ _

/-- The popped event and the rest of the queue. -/
theorem pending_of_due {e : Pending (ε × Nat)} (h : s.Due e) :
    s.sim.pending = e ::ₘ Q.elems (Q.pop s.sim.queue.queue) := Q.elems_pop _ _ h.top

theorem numbered_act {a : Act ε σ} (h : Numbered s) : Numbered (s.act (Act.numbered a)) := by
  have hp := pending_act (Act.numbered a) s
  refine ⟨?_, fun x hx => ?_, fun f hf => ?_⟩
  · rw [hp]
    exact distinct_number h.distinct h.pending
  · rw [hp] at hx
    show x.num < s.sim.state.2 + (a s.sim.queue.curCycle s.sim.state.1).2.length
    rcases Multiset.mem_add.mp hx with hx | hx
    · exact Nat.lt_add_right _ (h.pending x hx)
    · exact (num_of_mem_number (Multiset.mem_coe.mp hx)).2
  · exact Nat.lt_add_right _ (h.fired f hf)

theorem fifo_act {a : Act ε σ} (hn : Numbered s) (h : FirstInFirstOut s) :
    FirstInFirstOut (s.act (Act.numbered a)) := by
  refine ⟨h.processed, fun f hf x hx ht => ?_⟩
  rw [pending_act] at hx
  rcases Multiset.mem_add.mp hx with hx | hx
  · exact h.waiting f hf x hx ht
  · exact Nat.lt_of_lt_of_le (hn.fired f hf) (num_of_mem_number (Multiset.mem_coe.mp hx)).1

theorem numbered_fire {e : Pending (ε × Nat)} (hdue : s.Due e) (h : Numbered s) :
    Numbered (s.fire (numbered process) e) := by
  have hold : ∀ x ∈ Q.elems (Q.pop s.sim.queue.queue), x ∈ s.sim.pending := by
    intro x hx
    rw [pending_of_due hdue]
    exact Multiset.mem_cons_of_mem hx
  refine ⟨?_, fun x hx => ?_, fun f hf => ?_⟩
  · have hd := h.distinct
    rw [pending_of_due hdue, Multiset.map_cons] at hd
    rw [pending_fire]
    exact distinct_number (Multiset.nodup_cons.mp hd).2 fun x hx => h.pending x (hold x hx)
  · rw [pending_fire] at hx
    show x.num < s.sim.state.2 + (process e.event.1 e.fireTime s.sim.state.1).2.length
    rcases Multiset.mem_add.mp hx with hx | hx
    · exact Nat.lt_add_right _ (h.pending x (hold x hx))
    · exact (num_of_mem_number (Multiset.mem_coe.mp hx)).2
  · have hfired : f.entry.num < s.sim.state.2 := by
      rcases List.mem_append.mp hf with hf | hf
      · exact h.fired f hf
      · rw [List.mem_singleton.mp hf]
        exact h.pending e (Q.mem_of_top? hdue.top)
    exact Nat.lt_add_right _ hfired

/-- A round that pops the oldest keeps the order. -/
theorem fifo_fire {e : Pending (ε × Nat)} (hdue : s.Due e) (hn : Numbered s)
    (h : FirstInFirstOut s)
    (ho : ∀ x ∈ s.sim.pending, x.fireTime = e.fireTime → e.num ≤ x.num) :
    FirstInFirstOut (s.fire (numbered process) e) := by
  have he : e ∈ s.sim.pending := Q.mem_of_top? hdue.top
  refine ⟨?_, fun f hf x hx ht => ?_⟩
  · refine List.pairwise_append.mpr ⟨h.processed, List.pairwise_singleton _ _, ?_⟩
    intro f hf g hg ht
    rw [List.mem_singleton.mp hg] at ht ⊢
    exact h.waiting f hf e he ht
  · rw [pending_fire] at hx
    rcases List.mem_append.mp hf with hf | hf
    · rcases Multiset.mem_add.mp hx with hx | hx
      · refine h.waiting f hf x ?_ ht
        rw [pending_of_due hdue]
        exact Multiset.mem_cons_of_mem hx
      · exact Nat.lt_of_lt_of_le (hn.fired f hf) (num_of_mem_number (Multiset.mem_coe.mp hx)).1
    · rw [List.mem_singleton.mp hf] at ht ⊢
      show e.num < x.num
      rcases Multiset.mem_add.mp hx with hx | hx
      · have hmem : x ∈ s.sim.pending := by
          rw [pending_of_due hdue]
          exact Multiset.mem_cons_of_mem hx
        have hd := hn.distinct
        rw [pending_of_due hdue, Multiset.map_cons] at hd
        have hne : e.num ≠ x.num := fun heq =>
          (Multiset.nodup_cons.mp hd).1 (heq ▸ Multiset.mem_map_of_mem _ hx)
        exact Nat.lt_of_le_of_ne (ho x hmem ht.symm) hne
      · exact Nat.lt_of_lt_of_le (hn.pending e he) (num_of_mem_number (Multiset.mem_coe.mp hx)).1

/-- A round that pops another one breaks it: the older event waits behind the younger. -/
theorem not_fifo_fire {e : Pending (ε × Nat)} (hdue : s.Due e) {x : Pending (ε × Nat)}
    (hx : x ∈ s.sim.pending) (ht : x.fireTime = e.fireTime) (hlt : x.num < e.num) :
    ¬ FirstInFirstOut (s.fire (numbered process) e) := by
  intro h
  have hrest : x ∈ Q.elems (Q.pop s.sim.queue.queue) := by
    rw [pending_of_due hdue] at hx
    rcases Multiset.mem_cons.mp hx with rfl | hx
    · exact absurd hlt (Nat.lt_irrefl _)
    · exact hx
  have hpending : x ∈ (s.fire (numbered process) e).sim.pending := by
    rw [pending_fire]
    exact Multiset.mem_add.mpr (Or.inl hrest)
  have hyounger : e.num < x.num :=
    h.waiting _ (List.mem_append_right s.fired List.mem_cons_self) x hpending ht.symm
  omega

end Step

/-- The invariant of the sessions in which ties have been kept in order so far. -/
structure Kept (s : Session Q (σ × Nat)) : Prop where
  numbered : Numbered s
  fifo : FirstInFirstOut s

theorem kept_step {process : Process ε σ} {s : Session Q (σ × Nat)} {m : Move ε σ}
    (h : Kept s) (ho : PopsOldest s m) : Kept (s.numberedStep process m) := by
  unfold numberedStep
  rcases step_cases (Gem5Sc.numbered process) s m.numbered with
    hs | ⟨a, hm, -, hs⟩ | ⟨n, -, -, hs⟩ | ⟨e, hm, hdue, hs⟩ | ⟨endCycle, -, -, -, hs⟩
  · rw [hs]
    exact h
  · rw [hs]
    cases m with
    | outside b =>
        obtain rfl := Move.outside.inj hm
        exact ⟨numbered_act h.numbered, fifo_act h.numbered h.fifo⟩
    | run n => cases hm
    | round => cases hm
  · rw [hs]
    exact ⟨⟨h.numbered.distinct, h.numbered.pending, h.numbered.fired⟩,
      h.fifo.processed, h.fifo.waiting⟩
  · rw [hs]
    cases m with
    | outside b => cases hm
    | run n => cases hm
    | round =>
        exact ⟨numbered_fire hdue h.numbered, fifo_fire hdue h.numbered h.fifo (ho rfl e hdue)⟩
  · rw [hs]
    exact ⟨⟨h.numbered.distinct, h.numbered.pending, h.numbered.fired⟩,
      h.fifo.processed, h.fifo.waiting⟩

theorem not_fifo_step {process : Process ε σ} {s : Session Q (σ × Nat)} {m : Move ε σ}
    (ho : ¬ PopsOldest s m) : ¬ FirstInFirstOut (s.numberedStep process m) := by
  unfold PopsOldest at ho
  push Not at ho
  obtain ⟨rfl, e, hdue, x, hx, ht, hlt⟩ := ho
  have hs : s.numberedStep process .round = s.fire (numbered process) e := step_due hdue
  rw [hs]
  exact not_fifo_fire hdue hx ht hlt

/-- **TIES.** For every structure behind the queue, every family of handlers and every sequence of
    `schedule` calls, runs and rounds, from an empty queue: what is popped never has a later
    `fire_time` than anything pending, and events with equal `fire_time` are processed in the
    order in which they were scheduled, none before an older one that still waits, exactly as long
    as each event popped is the oldest of those with its `fire_time`. -/
theorem fifo_iff_oldest (process : Process ε σ) (x : σ) (moves : List (Move ε σ)) :
    Library.Along (numberedStep process) PopsEarliest (fresh Q x) moves ∧
    (Library.Everywhere (numberedStep process) FirstInFirstOut (fresh Q x) moves ↔
      Library.Along (numberedStep process) PopsOldest (fresh Q x) moves) := by
  constructor
  · refine Library.along_of_forall (fun s m hm e hdue x hx => ?_) _ _
    exact UInt64.le_iff_toNat_le.mpr (Q.key_top?_le _ e hdue.top x hx)
  · exact Library.everywhere_iff_along (I := Kept) ⟨numbered_fresh x, fifo_fresh x⟩
      (fun s h => h.fifo) (fun s m h ho => kept_step h ho) (fun s m _ ho => not_fifo_step ho)

/-! ## 3. The heap -/

/-- Four events scheduled from outside for the current cycle, one `run(1)` and its rounds. -/
def tie : List (Move Nat (List Nat)) :=
  [.outside fun _ x => (x, [(0, 0), (1, 0), (2, 0), (3, 0)]), .run 1, .round, .round, .round,
    .round]

/-- Handlers that schedule nothing and note which event they are. -/
def note : Process Nat (List Nat) := fun ev _ seen => (seen ++ [ev], [])

/-- **The heap overtakes**: of four events for one cycle the third is processed before the
    second. -/
theorem heap_overtakes :
    ¬ (Library.run (numberedStep note)
        (fresh (Library.BinaryHeap.priorityQueue (Pending.key (ε := Nat × Nat))) [])
        tie).fired.Pairwise
      fun f g => f.entry.fireTime = g.entry.fireTime → f.entry.num < g.entry.num := by
  decide

end Session

end Gem5Sc
