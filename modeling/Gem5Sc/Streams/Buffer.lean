/-
  File:      Gem5Sc/Streams/Buffer.lean
  Subject:   THE BUFFER OF A STREAM CONSUMER: how many accepted packets wait for their completion.

  A packet may arrive in any cycle, and a completion runs when no other is due before it, before or
  after the arrivals of its cycle. Cycles have 64 bits, so a completion may be due in a cycle with a
  smaller number, and the clock may go back.

  The test in `handleUpstreamRequest` counts the upstream ports of the module, which stay the same,
  and not the packets that wait. So the answer is always the same, and it is the right one exactly
  when a packet is accepted and there is room for it (`bounded_iff`).
-/
import Gem5Sc.Library.Runs
import Gem5Sc.Streams

namespace Gem5Sc

/-- A consumer with its pending completions, each with its `fire_time`. -/
structure ConsumerRun (ρ : Type) where
  heap : Heap := {}
  env : ρ
  now : UInt64 := 0
  pending : List (UInt64 × PacketId) := []
  /-- For each arrival: how many completions were pending, and the answer. -/
  answers : List (Nat × Bool) := []

namespace ConsumerRun

open StreamConsumer

variable {ρ : Type}

inductive Action (ρ : Type) where
  /-- A packet is handed to `handleUpstreamRequest`. -/
  | arrive (p : PacketId)
  /-- The `i`-th pending completion runs, if none is due before it. -/
  | complete (i : Nat) (downstream : Nat) (send : PacketId → Heap × ρ → Bool × (Heap × ρ))
  /-- The clock is set to `t`, by another event or at the end of a run, if no completion is due
      before that. -/
  | cycle (t : UInt64)
  /-- Anything the rest of the system does. -/
  | other (f : Heap × ρ → Heap × ρ)

/-- `schedule(ev, delay)` for the completion of `p`. -/
def schedule (now : UInt64) (p : PacketId) (delay : UInt64) (pending : List (UInt64 × PacketId)) :
    List (UInt64 × PacketId) :=
  pending ++ [(now + delay, p)]

def step (upstream : Nat) (s : ConsumerRun ρ) : Action ρ → ConsumerRun ρ
  | .arrive p =>
      let r := handleUpstreamRequest upstream (schedule s.now) p (s.heap, s.pending)
      { s with heap := r.2.1, pending := r.2.2, answers := s.answers ++ [(s.pending.length, r.1)] }
  | .complete i downstream send =>
      match s.pending[i]? with
      | none => s
      | some e =>
          if ∀ x ∈ s.pending, e.1 ≤ x.1 then
            let r := StreamConsumer.complete downstream send e.1 e.2 (s.heap, s.env)
            { s with heap := r.1, env := r.2, now := e.1, pending := s.pending.eraseIdx i }
          else s
  | .cycle t => if ∀ x ∈ s.pending, t ≤ x.1 then { s with now := t } else s
  | .other f =>
      let r := f (s.heap, s.env)
      { s with heap := r.1, env := r.2 }

/-- **Bounded**: never more than four packets wait, and a packet is accepted exactly when there is
    room. -/
structure Bounded (s : ConsumerRun ρ) : Prop where
  pending : s.pending.length ≤ 4
  answers : ∀ x ∈ s.answers, (x.2 = true ↔ x.1 < 4)

/-- A packet arrives at a consumer that accepts, and there is room. -/
def HasRoom (upstream : Nat) (s : ConsumerRun ρ) (a : Action ρ) : Prop :=
  ∀ p, a = .arrive p → upstream ≤ 4 ∧ s.pending.length < 4

section Step

variable {upstream : Nat} {s : ConsumerRun ρ}

theorem full_iff : full upstream = true ↔ ¬ upstream ≤ 4 := by
  simp [full]

theorem step_arrive_accepted (h : upstream ≤ 4) (p : PacketId) :
    s.step upstream (.arrive p) =
      { s with pending := s.pending ++ [(s.now + 5, p)],
               answers := s.answers ++ [(s.pending.length, true)] } := by
  have hfull : full upstream = false := by
    rw [← Bool.not_eq_true, full_iff, not_not]
    exact h
  simp only [step, handleUpstreamRequest, hfull]
  rfl

theorem step_arrive_refused (h : ¬ upstream ≤ 4) (p : PacketId) :
    s.step upstream (.arrive p) =
      { s with heap := s.heap.delete p,
               answers := s.answers ++ [(s.pending.length, false)] } := by
  simp only [step, handleUpstreamRequest, full_iff.mpr h, if_true]

/-- Nothing else answers, and nothing else adds a completion. -/
theorem step_other (upstream : Nat) (s : ConsumerRun ρ) {a : Action ρ}
    (h : ∀ p, a ≠ .arrive p) :
    (s.step upstream a).answers = s.answers ∧
      (s.step upstream a).pending.Sublist s.pending := by
  cases a with
  | arrive p => exact absurd rfl (h p)
  | complete i downstream send =>
      rw [step]
      split
      · exact ⟨rfl, List.Sublist.refl _⟩
      · split
        · exact ⟨rfl, List.eraseIdx_sublist _ _⟩
        · exact ⟨rfl, List.Sublist.refl _⟩
  | cycle t =>
      rw [step]
      split <;> exact ⟨rfl, List.Sublist.refl _⟩
  | other f => exact ⟨rfl, List.Sublist.refl _⟩

end Step

/-- A consumer that refuses everything has nothing to complete. -/
structure Sound (upstream : Nat) (s : ConsumerRun ρ) : Prop extends Bounded s where
  refusing : ¬ upstream ≤ 4 → s.pending = []

theorem sound_step {upstream : Nat} {s : ConsumerRun ρ} (h : Sound upstream s) {a : Action ρ}
    (hr : HasRoom upstream s a) : Sound upstream (s.step upstream a) := by
  by_cases ha : ∃ p, a = .arrive p
  · obtain ⟨p, rfl⟩ := ha
    obtain ⟨hup, hlt⟩ := hr p rfl
    rw [step_arrive_accepted hup]
    refine ⟨⟨?_, fun x hx => ?_⟩, fun hn => absurd hup hn⟩
    · rw [List.length_append, List.length_singleton]
      omega
    · rcases List.mem_append.mp hx with hx | hx
      · exact h.answers x hx
      · obtain rfl := List.mem_singleton.mp hx
        exact iff_of_true rfl hlt
  · obtain ⟨hans, hsub⟩ := step_other upstream s fun p hp => ha ⟨p, hp⟩
    refine ⟨⟨Nat.le_trans hsub.length_le h.pending, fun x hx => h.answers x (hans ▸ hx)⟩,
      fun hn => ?_⟩
    rw [h.refusing hn] at hsub
    exact List.sublist_nil.mp hsub

/-- **The wrong answer.** A packet accepted with four waiting, or refused with fewer. -/
theorem not_bounded_of_no_room {upstream : Nat} {s : ConsumerRun ρ} (h : Sound upstream s)
    {a : Action ρ} (hr : ¬ HasRoom upstream s a) : ¬ Bounded (s.step upstream a) := by
  unfold HasRoom at hr
  push Not at hr
  obtain ⟨p, rfl, hroom⟩ := hr
  intro hb
  by_cases hup : upstream ≤ 4
  · have hfull := hroom hup
    rw [step_arrive_accepted hup] at hb
    have hlast := hb.answers (s.pending.length, true) (List.mem_append_right _ List.mem_cons_self)
    have hlt : s.pending.length < 4 := hlast.mp rfl
    omega
  · have hempty := h.refusing hup
    rw [step_arrive_refused hup] at hb
    have hlast := hb.answers (s.pending.length, false) (List.mem_append_right _ List.mem_cons_self)
    have hlt : s.pending.length < 4 := by rw [hempty]; exact Nat.succ_pos 3
    exact absurd (hlast.mpr hlt) Bool.false_ne_true

/-- **WHEN THE BUFFER IS BOUNDED.** For every consumer, with any number of upstream ports, and every
    sequence of arrivals and cycles: no more than four packets ever wait, and each packet is
    accepted exactly when fewer do, if and only if the consumer accepts, having at most four ports,
    and every packet finds room. -/
theorem bounded_iff (upstream : Nat) (heap : Heap) (env : ρ) (acts : List (Action ρ)) :
    Library.Everywhere (step upstream) Bounded { heap := heap, env := env } acts ↔
      Library.Along (step upstream) (HasRoom upstream) { heap := heap, env := env } acts :=
  Library.everywhere_iff_along (I := Sound upstream)
    ⟨⟨Nat.zero_le _, fun _ hx => absurd hx List.not_mem_nil⟩, fun _ => rfl⟩
    (fun _ h => h.toBounded) (fun _ _ h hr => sound_step h hr)
    (fun _ _ h hr => not_bounded_of_no_room h hr)

/-- Five packets arrive in one cycle at a consumer with the one port of its constructor. -/
theorem fifth_accepted :
    ¬ Library.Everywhere (step 1) Bounded { env := () }
      [.arrive 0, .arrive 1, .arrive 2, .arrive 3, .arrive 4] :=
  fun h => absurd (h.2.2.2.2.2.pending) (by decide)

end ConsumerRun

end Gem5Sc
