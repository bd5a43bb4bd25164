/-
  File:      Gem5Sc/EventQueue/Ticks.lean
  Subject:   ONE TICK PER CYCLE: `initiate_tick` and `TickEvent::process`, over any sequence of
             runs.

  A `TickEvent` is armed again from inside its own `process()`, while other events of the cycle
  are still to come. What holds after every round is `Armed`: the queue holds exactly one entry of
  the event. The entry of cycle `t` is processed or it stays; if it is processed, the one of
  `t + 1` takes its place, and no other event adds or removes one (`Rearms`).

  * `loop_armed`, `runs_armed` -- an event that arms itself is processed once in each cycle;
  * `runs_noted` -- a run in which every call of a `tick` is noted is the same run, and the notes
    are its `TickEvent`s;
  * `ticks_each_cycle` -- so the tick of every object that has been started is called once in each
    cycle.
-/
import Gem5Sc.EventQueue.Law
import Mathlib.Data.Finset.Insert

namespace Gem5Sc

universe u v

/-! ## 1. Events that arm themselves -/

section Rearm

variable {ε : Type u} {σ : Type v} [DecidableEq ε]
  {Q : Library.PriorityQueue (Pending ε) Pending.key}

/-- In the states of `I` the event `ev` schedules itself for the next cycle, once, and no other
    event schedules it. -/
structure Rearms (process : Process ε σ) (I : σ → Prop) (ev : ε) : Prop where
  keeps : ∀ e now x, I x → I (process e now x).1
  self : ∀ now x, I x → (process ev now x).2.filter (·.1 = ev) = [(ev, 1)]
  other : ∀ e now x, I x → e ≠ ev → (process e now x).2.filter (·.1 = ev) = []

/-- The queue holds exactly one entry of `ev`, for cycle `t`. -/
def Sim.Armed (s : Sim Q σ) (ev : ε) (t : UInt64) : Prop :=
  s.pending.filter (·.event = ev) = {⟨t, ev⟩}

/-- The cycles in which `ev` was processed. -/
def cyclesOf (ev : ε) (tr : List (Fired ε)) : List Nat :=
  (tr.filter (·.entry.event = ev)).map fun f => f.cycle.toNat

theorem cyclesOf_cons_self {ev : ε} {f : Fired ε} (h : f.entry.event = ev) (tr : List (Fired ε)) :
    cyclesOf ev (f :: tr) = f.cycle.toNat :: cyclesOf ev tr := by
  unfold cyclesOf
  rw [List.filter_cons_of_pos (by simpa using h), List.map_cons]

theorem cyclesOf_cons_of_ne {ev : ε} {f : Fired ε} (h : f.entry.event ≠ ev)
    (tr : List (Fired ε)) : cyclesOf ev (f :: tr) = cyclesOf ev tr := by
  unfold cyclesOf
  rw [List.filter_cons_of_neg (by simpa using h)]

theorem cyclesOf_append (ev : ε) (tr₁ tr₂ : List (Fired ε)) :
    cyclesOf ev (tr₁ ++ tr₂) = cyclesOf ev tr₁ ++ cyclesOf ev tr₂ := by
  unfold cyclesOf
  rw [List.filter_append, List.map_append]

namespace Sim

variable {process : Process ε σ} {I : σ → Prop} {ev : ε} {s s' : Sim Q σ} {t : UInt64}

/-- The entries of `ev` among those an event has added. -/
theorem filter_added (f : Fired ε) : f.added.filter (·.event = ev) =
    (f.calls.filter (·.1 = ev)).map fun c => ⟨f.cycle + c.2, c.1⟩ := by
  unfold Fired.added
  rw [List.filter_map]
  rfl

/-- A round with another event on top. -/
theorem armed_fire_other (hr : Rearms process I ev) (hI : I s.state) {e : Pending ε}
    (he : Q.top? s.queue.queue = some e) (hne : e.event ≠ ev) (h : s.Armed ev t) :
    (s.fire process e).2.Armed ev t := by
  have hadd : (s.fire process e).1.added.filter (·.event = ev) = [] := by
    rw [filter_added]
    exact congrArg (List.map _) (hr.other e.event e.fireTime s.state hI hne)
  have hfire : e ::ₘ (s.fire process e).2.pending = _ := pending_fire he
  have hp := congrArg (Multiset.filter (·.event = ev)) hfire
  rw [Multiset.filter_cons_of_neg (p := fun x : Pending ε => x.event = ev) _ hne,
    Multiset.filter_add, Multiset.filter_coe, hadd, Multiset.coe_nil, Multiset.add_zero] at hp
  exact hp.trans h

/-- A round with the event itself on top. -/
theorem armed_fire_self (hr : Rearms process I ev) (hI : I s.state) {e : Pending ε}
    (he : Q.top? s.queue.queue = some e) (heq : e.event = ev) (h : s.Armed ev t) :
    e.fireTime = t ∧ (s.fire process e).2.Armed ev (t + 1) := by
  have hmem : e ∈ s.pending.filter (·.event = ev) :=
    Multiset.mem_filter.mpr ⟨Q.mem_of_top? he, heq⟩
  rw [h, Multiset.mem_singleton] at hmem
  subst hmem
  refine ⟨rfl, ?_⟩
  have hadd : (s.fire process ⟨t, ev⟩).1.added.filter (·.event = ev) = [⟨t + 1, ev⟩] := by
    rw [filter_added]
    exact congrArg (List.map _) (hr.self t s.state hI)
  have hfire : (⟨t, ev⟩ : Pending ε) ::ₘ (s.fire process ⟨t, ev⟩).2.pending = _ := pending_fire he
  have hp := congrArg (Multiset.filter (·.event = ev)) hfire
  rw [Multiset.filter_cons_of_pos (p := fun x : Pending ε => x.event = ev) _ rfl,
    Multiset.filter_add, Multiset.filter_coe, hadd, h] at hp
  exact (Multiset.cons_inj_right _).mp hp

/-- An armed event whose loop is over is armed for the end cycle or later. -/
theorem Armed.le_of_done {endCycle : UInt64} (h : s.Armed ev t) (hd : Done endCycle s) :
    endCycle.toNat ≤ t.toNat := by
  have hmem : (⟨t, ev⟩ : Pending ε) ∈ s.pending.filter (·.event = ev) := by
    rw [h]
    exact Multiset.mem_singleton_self _
  exact UInt64.le_iff_toNat_le.mp (hd.le_fireTime (Multiset.mem_filter.mp hmem).1)

theorem toNat_add_of_lt {a b : UInt64} (h : a.toNat + b.toNat < 2 ^ 64) :
    (a + b).toNat = a.toNat + b.toNat := by
  rw [UInt64.toNat_add, Nat.mod_eq_of_lt h]

/-- The loop up to `endCycle`: one processing in each cycle from `t` on. The invariant is
    `Armed`. -/
theorem loop_armed (hr : Rearms process I ev) {endCycle : UInt64} (fuel : Nat)
    {tr : List (Fired ε)} (hI : I s.state) (h : s.Armed ev t)
    (hrun : loop process endCycle fuel s = some (tr, s')) :
    I s'.state ∧ cyclesOf ev tr = List.range' t.toNat (endCycle.toNat - t.toNat) ∧
      ∃ t', s'.Armed ev t' ∧ t'.toNat = max t.toNat endCycle.toNat := by
  induction fuel generalizing s tr t with
  | zero => cases hrun
  | succ fuel ih =>
      rcases done_or_top endCycle s with hd | ⟨e, he, hlt⟩
      · rw [loop_of_done hd, Option.some.injEq, Prod.mk.injEq] at hrun
        obtain ⟨rfl, rfl⟩ := hrun
        have hle : endCycle.toNat ≤ t.toNat := h.le_of_done hd
        refine ⟨hI, ?_, t, h, (max_eq_left hle).symm⟩
        rw [Nat.sub_eq_zero_of_le hle]
        rfl
      · rw [loop_of_top he hlt] at hrun
        obtain ⟨⟨tr', s''⟩, hloop, heq⟩ := Option.map_eq_some_iff.mp hrun
        obtain ⟨rfl, rfl⟩ := Prod.mk.inj heq
        have hI' : I (s.fire process e).2.state := hr.keeps e.event e.fireTime s.state hI
        by_cases hev : e.event = ev
        · obtain ⟨ht, harmed⟩ := armed_fire_self hr hI he hev h
          obtain ⟨hI2, hcyc, t', ht', hmax⟩ := ih hI' harmed hloop
          have hlt' : t.toNat < endCycle.toNat := ht ▸ UInt64.lt_iff_toNat_lt.mp hlt
          have hsucc : (t + 1).toNat = t.toNat + 1 := by
            have hend := endCycle.toNat_lt
            exact toNat_add_of_lt (by show t.toNat + 1 < 2 ^ 64; omega)
          refine ⟨hI2, ?_, t', ht', ?_⟩
          · have hcons : cyclesOf ev ((s.fire process e).1 :: tr') =
                t.toNat :: cyclesOf ev tr' := by
              rw [← ht]
              exact cyclesOf_cons_self hev tr'
            have hlen : endCycle.toNat - t.toNat = (endCycle.toNat - (t.toNat + 1)) + 1 := by omega
            rw [hcons, hcyc, hsucc, hlen, List.range'_succ]
          · rw [hmax, hsucc]
            omega
        · obtain ⟨hI2, hcyc, t', ht', hmax⟩ :=
            ih hI' (armed_fire_other hr hI he hev h) hloop
          refine ⟨hI2, ?_, t', ht', hmax⟩
          rw [← hcyc]
          exact cyclesOf_cons_of_ne hev tr'

/-- **Any sequence of runs.** -/
theorem runs_armed (hr : Rearms process I ev) (fuel : Nat) (ns : List UInt64) {tr : List (Fired ε)}
    (hI : I s.state) (h : s.Armed ev t)
    (hend : s.queue.curCycle.toNat + (ns.map UInt64.toNat).sum < 2 ^ 64)
    (hle : s.queue.curCycle.toNat ≤ t.toNat)
    (hrun : runs process fuel ns s = some (tr, s')) :
    cyclesOf ev tr = List.range' t.toNat
        (s.queue.curCycle.toNat + (ns.map UInt64.toNat).sum - t.toNat) ∧
      ∃ t', s'.Armed ev t' ∧
        t'.toNat = max t.toNat (s.queue.curCycle.toNat + (ns.map UInt64.toNat).sum) := by
  induction ns generalizing s tr t with
  | nil =>
      rw [runs, Option.some.injEq, Prod.mk.injEq] at hrun
      obtain ⟨rfl, rfl⟩ := hrun
      refine ⟨?_, t, h, (max_eq_left hle).symm⟩
      rw [show s.queue.curCycle.toNat + (([] : List UInt64).map UInt64.toNat).sum - t.toNat = 0
        from Nat.sub_eq_zero_of_le hle]
      rfl
  | cons n ns ih =>
      rw [List.map_cons, List.sum_cons] at hend
      rw [runs] at hrun
      split at hrun
      · cases hrun
      · next r hr1 =>
          obtain ⟨⟨tr₁, s₁⟩, h1, rfl⟩ := Option.map_eq_some_iff.mp hr1
          obtain ⟨⟨tr₂, s₂⟩, h2, heq⟩ := Option.map_eq_some_iff.mp hrun
          obtain ⟨rfl, rfl⟩ := Prod.mk.inj heq
          obtain ⟨hI1, hcyc1, t₁, ht₁, hmax₁⟩ := loop_armed hr fuel hI h h1
          have hcur : (s.queue.curCycle + n).toNat = s.queue.curCycle.toNat + n.toNat :=
            toNat_add_of_lt (by omega)
          have hset : (s₁.setCycle (s.queue.curCycle + n)).queue.curCycle.toNat =
              s.queue.curCycle.toNat + n.toNat := hcur
          obtain ⟨hcyc2, t', ht', hmax⟩ := ih (s := s₁.setCycle (s.queue.curCycle + n)) hI1 ht₁
            (by rw [hset]; omega) (by rw [hset, hmax₁, hcur]; exact le_max_right _ _) h2
          rw [hset] at hcyc2 hmax
          rw [hcur] at hcyc1 hmax₁
          rw [List.map_cons, List.sum_cons]
          refine ⟨?_, t', ht', by rw [hmax, hmax₁]; omega⟩
          -- the second part starts where the first ends
          have hstart : t₁.toNat = t.toNat + (s.queue.curCycle.toNat + n.toNat - t.toNat) := by
            omega
          rw [cyclesOf_append, hcyc1, hcyc2, hstart, List.range'_append_1]
          congr 1
          omega

end Sim

end Rearm

/-! ## 2. `initiate_tick` and `TickEvent` -/

/-- The `TickEvent` of an object, or any other event. -/
inductive Task (α : Type u) (ε : Type v) where
  | tick (obj : α)
  | other (e : ε)
  deriving DecidableEq, Repr

section Tick

universe w

variable {α : Type u} {ε : Type v} {σ : Type w}

/-- `SimObject::initiate_tick`: the `schedule` call it makes. -/
def initiateTick (obj : α) : Task α ε × UInt64 := (.tick obj, 1)

/-- `process()` of every event, where `code` is `obj->tick()` for a `TickEvent` and the whole of
    `process()` for another one. -/
def processTask (code : Process (Task α ε) σ) : Process (Task α ε) σ := fun ev now x =>
  match ev with
  | .tick obj =>
      let r := code (.tick obj) now x
      (r.1, r.2 ++ [initiateTick obj])
  | .other e => code (.other e) now x

@[simp] theorem processTask_tick (code : Process (Task α ε) σ) (obj : α) (now : UInt64) (x : σ) :
    (processTask code (.tick obj) now x).2 = (code (.tick obj) now x).2 ++ [initiateTick obj] := rfl

@[simp] theorem processTask_other (code : Process (Task α ε) σ) (e : ε) (now : UInt64) (x : σ) :
    processTask code (.other e) now x = code (.other e) now x := rfl

variable [DecidableEq α] [DecidableEq ε]

/-- The `TickEvent` of an object arms itself, if no code of a module starts that object. -/
theorem rearms_processTask {code : Process (Task α ε) σ} {obj : α}
    (hcode : ∀ ev now x, ∀ c ∈ (code ev now x).2, c.1 ≠ .tick obj) :
    Rearms (processTask code) (fun _ => True) (.tick obj) := by
  have hnone : ∀ ev now x, (code ev now x).2.filter (·.1 = .tick obj) = [] := by
    intro ev now x
    refine List.filter_eq_nil_iff.mpr fun c hc => ?_
    simpa using hcode ev now x c hc
  refine ⟨fun _ _ _ _ => trivial, fun now x _ => ?_, fun e now x _ hne => ?_⟩
  · rw [processTask_tick, List.filter_append, hnone]
    simp [initiateTick]
  · cases e with
    | tick a =>
        have ha : ¬ a = obj := fun h => hne (congrArg Task.tick h)
        rw [processTask_tick, List.filter_append, hnone]
        simp [initiateTick, ha]
    | other e =>
        rw [processTask_other]
        exact hnone (.other e) now x

/-- `code` with a note of every call of a `tick`: the object and the cycle. -/
def noteTicks (code : Process (Task α ε) σ) : Process (Task α ε) (σ × List (α × UInt64)) :=
  fun ev now x =>
    let r := code ev now x.1
    match ev with
    | .tick obj => ((r.1, x.2 ++ [(obj, now)]), r.2)
    | .other _ => ((r.1, x.2), r.2)

/-- The cycles of the calls for `obj`. -/
def ticksOf (obj : α) (notes : List (α × UInt64)) : List Nat :=
  (notes.filter (·.1 = obj)).map fun x => x.2.toNat

theorem ticksOf_append (obj : α) (l k : List (α × UInt64)) :
    ticksOf obj (l ++ k) = ticksOf obj l ++ ticksOf obj k := by
  unfold ticksOf
  rw [List.filter_append, List.map_append]

namespace Sim

variable {Q : Library.PriorityQueue (Pending (Task α ε)) Pending.key}
  {code : Process (Task α ε) σ} {s s' : Sim Q σ} {tr : List (Fired (Task α ε))}

/-- A simulation with notes beside it. -/
def noted (s : Sim Q σ) (notes : List (α × UInt64)) : Sim Q (σ × List (α × UInt64)) where
  queue := s.queue
  state := (s.state, notes)

/-- An event notes the `tick` it calls, and does what it does without notes. -/
theorem fire_noted (code : Process (Task α ε) σ) (s : Sim Q σ) (e : Pending (Task α ε))
    (notes : List (α × UInt64)) :
    ∃ new, (s.noted notes).fire (processTask (noteTicks code)) e =
        ((s.fire (processTask code) e).1, (s.fire (processTask code) e).2.noted (notes ++ new)) ∧
      ∀ obj, ticksOf obj new = cyclesOf (.tick obj) [(s.fire (processTask code) e).1] := by
  obtain ⟨t, ev⟩ := e
  cases ev with
  | tick a =>
      refine ⟨[(a, t)], rfl, fun obj => ?_⟩
      by_cases ha : a = obj
      · subst ha
        have hself : cyclesOf (.tick a) [(s.fire (processTask code) ⟨t, .tick a⟩).1] = [t.toNat] :=
          cyclesOf_cons_self rfl []
        rw [hself]
        simp [ticksOf]
      · have hother : cyclesOf (.tick obj) [(s.fire (processTask code) ⟨t, .tick a⟩).1] = [] :=
          cyclesOf_cons_of_ne (fun h => ha (Task.tick.inj h)) []
        rw [hother]
        simp [ticksOf, ha]
  | other ev =>
      refine ⟨[], by rw [List.append_nil]; rfl, fun obj => ?_⟩
      exact (cyclesOf_cons_of_ne (fun h => by cases h) []).symm

/-- The loop of `run` with notes is the loop without. -/
theorem loop_noted {endCycle : UInt64} (fuel : Nat) (notes : List (α × UInt64))
    (h : loop (processTask code) endCycle fuel s = some (tr, s')) :
    ∃ new, loop (processTask (noteTicks code)) endCycle fuel (s.noted notes) =
        some (tr, s'.noted (notes ++ new)) ∧
      ∀ obj, ticksOf obj new = cyclesOf (.tick obj) tr := by
  induction fuel generalizing s tr notes with
  | zero => cases h
  | succ fuel ih =>
      rcases done_or_top endCycle s with hd | ⟨e, he, hlt⟩
      · rw [loop_of_done hd, Option.some.injEq, Prod.mk.injEq] at h
        obtain ⟨rfl, rfl⟩ := h
        refine ⟨[], ?_, fun obj => rfl⟩
        rw [List.append_nil]
        exact loop_of_done (s := s.noted notes) hd fuel
      · rw [loop_of_top he hlt] at h
        obtain ⟨⟨tr', s''⟩, hloop, heq⟩ := Option.map_eq_some_iff.mp h
        obtain ⟨rfl, rfl⟩ := Prod.mk.inj heq
        obtain ⟨first, hfire, hfirst⟩ := fire_noted code s e notes
        obtain ⟨rest, hrest, hticks⟩ := ih (notes ++ first) hloop
        refine ⟨first ++ rest, ?_, fun obj => ?_⟩
        · rw [loop_of_top (s := s.noted notes) he hlt, hfire, hrest, List.append_assoc]
          rfl
        · rw [ticksOf_append, hfirst, hticks, ← cyclesOf_append]
          rfl

/-- **A run with notes is the run without**, and the notes are its `TickEvent`s: each calls the
    `tick` of its object, once, and nothing else does. -/
theorem runs_noted (fuel : Nat) (ns : List UInt64) (notes : List (α × UInt64))
    (h : runs (processTask code) fuel ns s = some (tr, s')) :
    ∃ new, runs (processTask (noteTicks code)) fuel ns (s.noted notes) =
        some (tr, s'.noted (notes ++ new)) ∧
      ∀ obj, ticksOf obj new = cyclesOf (.tick obj) tr := by
  induction ns generalizing s tr notes with
  | nil =>
      rw [runs, Option.some.injEq, Prod.mk.injEq] at h
      obtain ⟨rfl, rfl⟩ := h
      refine ⟨[], ?_, fun obj => rfl⟩
      rw [List.append_nil]
      rfl
  | cons n ns ih =>
      rw [runs] at h
      split at h
      · cases h
      · next r hr =>
          obtain ⟨⟨tr₁, s₁⟩, hloop, rfl⟩ := Option.map_eq_some_iff.mp hr
          obtain ⟨⟨tr₂, s₂⟩, hruns, heq⟩ := Option.map_eq_some_iff.mp h
          obtain ⟨rfl, rfl⟩ := Prod.mk.inj heq
          obtain ⟨first, hfirst, hticks₁⟩ := loop_noted fuel notes hloop
          obtain ⟨rest, hrest, hticks₂⟩ := ih (notes ++ first) hruns
          refine ⟨first ++ rest, ?_, fun obj => ?_⟩
          · have hrun : run (processTask (noteTicks code)) fuel n (s.noted notes) =
                some (tr₁, (s₁.setCycle (s.queue.curCycle + n)).noted (notes ++ first)) :=
              congrArg (Option.map _) hfirst
            rw [runs, hrun]
            dsimp only
            rw [hrest, List.append_assoc]
            rfl
          · rw [ticksOf_append, hticks₁, hticks₂, ← cyclesOf_append]

end Sim

/-- **ONE TICK PER CYCLE.** `initiate_tick` is called once for each object of `objs` in cycle `c`,
    somewhere among the `schedule` calls `setup`, and no code of a module starts one of them
    again. Then, whatever else is scheduled and however the runs are cut, the `tick` of each object
    is called once in each of the cycles `c + 1 .. c + N - 1`, in this order and in no other
    cycle, and the object has one `TickEvent` pending. The calls are those that the same runs note
    where `tick` is called; its `TickEvent`s are processed in the same cycles. -/
theorem ticks_each_cycle {Q : Library.PriorityQueue (Pending (Task α ε)) Pending.key}
    (code : Process (Task α ε) σ) (objs : Finset α) (s s' : Sim Q σ)
    (setup : List (Task α ε × UInt64)) (fuel : Nat) (ns : List UInt64)
    (tr : List (Fired (Task α ε)))
    (hcode : ∀ ev now x, ∀ c ∈ (code ev now x).2, ∀ obj ∈ objs, c.1 ≠ .tick obj)
    (hfresh : ∀ e ∈ s.pending, ∀ obj ∈ objs, e.event ≠ .tick obj)
    (hsetup : ∀ obj ∈ objs, setup.filter (·.1 = .tick obj) = [initiateTick obj])
    (hwrap : s.queue.curCycle.toNat + max 1 (ns.map UInt64.toNat).sum < 2 ^ 64)
    (hrun : Sim.runs (processTask code) fuel ns { s with queue := s.queue.scheduleAll setup } =
      some (tr, s')) :
    ∃ notes, Sim.runs (processTask (noteTicks code)) fuel ns
        (Sim.noted { s with queue := s.queue.scheduleAll setup } []) =
          some (tr, s'.noted notes) ∧
      ∀ obj ∈ objs,
        ticksOf obj notes =
          List.range' (s.queue.curCycle.toNat + 1) ((ns.map UInt64.toNat).sum - 1) ∧
        cyclesOf (.tick obj) tr =
          List.range' (s.queue.curCycle.toNat + 1) ((ns.map UInt64.toNat).sum - 1) ∧
        ∃ t, s'.Armed (.tick obj) t ∧
          t.toNat = s.queue.curCycle.toNat + max 1 (ns.map UInt64.toNat).sum := by
  obtain ⟨notes, hnoted, hticks⟩ := Sim.runs_noted fuel ns [] hrun
  refine ⟨notes, hnoted, fun obj hobj => ?_⟩
  rw [hticks obj, and_self_left]
  have hcur : (s.queue.scheduleAll setup).curCycle = s.queue.curCycle :=
    EventQueue.scheduleAll_curCycle _ _
  have hnext : (s.queue.curCycle + 1).toNat = s.queue.curCycle.toNat + 1 :=
    Sim.toNat_add_of_lt (by show s.queue.curCycle.toNat + 1 < 2 ^ 64; omega)
  have harmed : Sim.Armed { s with queue := s.queue.scheduleAll setup } (.tick obj)
      (s.queue.curCycle + 1) := by
    have hold : s.queue.pending.filter (·.event = .tick obj) = 0 :=
      Multiset.filter_eq_nil.mpr fun e he => hfresh e he obj hobj
    show (s.queue.scheduleAll setup).pending.filter (·.event = .tick obj) = _
    rw [EventQueue.pending_scheduleAll, Multiset.filter_add, hold, Multiset.zero_add,
      Multiset.filter_coe, List.filter_map]
    exact congrArg (fun l : List (Task α ε × UInt64) =>
      ((l.map fun c => ⟨s.queue.curCycle + c.2, c.1⟩ : List (Pending (Task α ε))) :
        Multiset (Pending (Task α ε)))) (hsetup obj hobj)
  obtain ⟨hcyc, t, ht, hmax⟩ := Sim.runs_armed
    (rearms_processTask fun ev now x c hc => hcode ev now x c hc obj hobj) fuel ns trivial harmed
    (by rw [hcur]; omega) (by rw [hcur, hnext]; omega) hrun
  rw [hcur, hnext] at hcyc hmax
  refine ⟨?_, t, ht, by rw [hmax]; omega⟩
  rw [hcyc]
  congr 1
  omega

end Tick

/-! ## 3. Two objects and a message between them -/

/-- Object 0 sends event 7 within the cycle. -/
def pingCode : Process (Task Nat Nat) (List Nat) := fun ev _ seen =>
  match ev with
  | .tick 0 => (seen ++ [0], [(.other 7, 0)])
  | .tick obj => (seen ++ [obj], [])
  | .other e => (seen ++ [e], [])

/-- An empty queue. -/
def pingStart :
    Sim (Library.BinaryHeap.priorityQueue (Pending.key (ε := Task Nat Nat))) (List Nat) where
  state := []

/-- Objects 0 and 1 started, with event 9 between them. -/
def pingSetup : List (Task Nat Nat × UInt64) := [initiateTick 0, (.other 9, 2), initiateTick 1]

/-- Two runs, of two cycles and of one. -/
theorem ticks_each_cycle_ping : ∃ tr s', Sim.runs (processTask pingCode) 10 [2, 1]
      { pingStart with queue := pingStart.queue.scheduleAll pingSetup } = some (tr, s') ∧
    ∃ notes, Sim.runs (processTask (noteTicks pingCode)) 10 [2, 1]
        (Sim.noted { pingStart with queue := pingStart.queue.scheduleAll pingSetup } []) =
          some (tr, s'.noted notes) ∧
      ∀ obj ∈ ({0, 1} : Finset Nat),
        ticksOf obj notes = List.range' 1 2 ∧ cyclesOf (.tick obj) tr = List.range' 1 2 ∧
          ∃ t, s'.Armed (.tick obj) t ∧ t.toNat = 3 := by
  have hret : (Sim.runs (processTask pingCode) 10 [2, 1]
      { pingStart with queue := pingStart.queue.scheduleAll pingSetup }).isSome := by decide
  obtain ⟨⟨tr, s'⟩, hr⟩ := Option.isSome_iff_exists.mp hret
  refine ⟨tr, s', hr, ticks_each_cycle pingCode {0, 1} pingStart s' pingSetup 10 [2, 1] tr ?_ ?_
    (by decide) (by decide) hr⟩
  · intro ev now x c hc obj _ heq
    unfold pingCode at hc
    split at hc
    · rw [List.mem_singleton.mp hc] at heq
      cases heq
    · exact absurd hc List.not_mem_nil
    · exact absurd hc List.not_mem_nil
  · intro e he
    exact absurd he (Multiset.notMem_zero e)

end Gem5Sc
