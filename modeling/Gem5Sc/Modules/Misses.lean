/-
  File:      Gem5Sc/Modules/Misses.lean
  Subject:   THE MISS QUEUE OF A CACHE: every accepted miss is forwarded once and in order.

  The head of `req_buffer` is tried from two places, the `tick` and one scheduled event for every
  miss, and a try may find the queue empty, be refused, or go to another downstream port than the
  last one. The surroundings are an arbitrary `Context` in every step, so `sendReq` answers in any
  way; what they do is only noted down (`noting`).

  The invariant is one equation: the accepted misses are the forwarded packets followed by the
  queue. A try moves the head from the right part of it to the left (`tryForward_log`).
-/
import Gem5Sc.Modules
import Gem5Sc.Library.Runs

namespace Gem5Sc

/-- What has become of the requests of a cache so far. -/
structure MissLog where
  /-- The requests for which `handleUpstreamRequest` returned true, each with whether it hit. -/
  accepted : List (PacketId × Bool) := []
  /-- The packets for which a `sendReq` returned true. -/
  forwarded : List PacketId := []
  deriving DecidableEq, Repr

/-- The accepted requests that did not hit. -/
def MissLog.misses (l : MissLog) : List PacketId := (l.accepted.filter fun e => !e.2).map Prod.fst

/-- A cache with its surroundings. -/
structure CacheRun (ρ : Type) where
  heap : Heap := {}
  cache : CacheSim := {}
  log : MissLog := {}
  env : ρ

namespace CacheRun

variable {ρ : Type}

/-- The surroundings `c`, with a note of every `sendReq` that returns true. -/
def noting (c : Context ρ) : Context (MissLog × ρ) where
  now := c.now
  upstream := c.upstream
  downstream := c.downstream
  sendReq i p w :=
    let r := c.sendReq i p (w.1, w.2.2)
    let l := if r.1 then { w.2.1 with forwarded := w.2.1.forwarded ++ [p] } else w.2.1
    (r.1, (r.2.1, (l, r.2.2)))
  sendResp j p w :=
    let r := c.sendResp j p (w.1, w.2.2)
    (r.1, (r.2.1, (w.2.1, r.2.2)))
  tickUpstream i w :=
    let r := c.tickUpstream i (w.1, w.2.2)
    (r.1, (w.2.1, r.2))
  tickDownstream i w :=
    let r := c.tickDownstream i (w.1, w.2.2)
    (r.1, (w.2.1, r.2))
  schedule e delay x := (x.1, c.schedule e delay x.2)

inductive Action (ρ : Type) where
  /-- A port offers packet `p`. -/
  | request (c : Context ρ) (p : PacketId) (srcId : Nat)
  | tick (c : Context ρ)
  /-- A scheduled event runs `tryForward`. -/
  | forward (c : Context ρ)
  | response (c : Context ρ) (p : PacketId) (srcId : Nat)
  /-- Anything the rest of the system does. -/
  | other (f : Heap × ρ → Heap × ρ)

/-- Put back what a function of the cache has returned. -/
def after (s : CacheRun ρ) (m : CacheSim) (w : Heap × (MissLog × ρ)) : CacheRun ρ :=
  { s with heap := w.1, cache := m, log := w.2.1, env := w.2.2 }

def step (s : CacheRun ρ) : Action ρ → CacheRun ρ
  | .request c p srcId =>
      let r := s.cache.handleUpstreamRequest (noting c) p srcId (s.heap, (s.log, s.env))
      let s' := s.after r.2.1 r.2.2
      if r.1 then
        { s' with log := { s'.log with
            accepted := s'.log.accepted ++ [(p, CacheSim.hit s.heap p)] } }
      else s'
  | .tick c =>
      let r := s.cache.tick (noting c) (s.heap, (s.log, s.env))
      s.after r.1 r.2
  | .forward c =>
      let r := s.cache.tryForward (noting c) (s.heap, (s.log, s.env))
      s.after r.2.1 r.2.2
  | .response c p srcId =>
      let r := s.cache.handleDownstreamResponse (noting c) p srcId (s.heap, (s.log, s.env))
      s.after r.2.1 r.2.2
  | .other f =>
      let r := f (s.heap, s.env)
      { s with heap := r.1, env := r.2 }

/-- **In order.** Every accepted miss has been forwarded or waits, in the order of arrival; the
    queue is within its bound, and what waits was accepted as a miss. -/
structure InOrder (s : CacheRun ρ) : Prop where
  order : s.log.misses = s.log.forwarded ++ s.cache.reqBuffer
  bound : s.cache.reqBuffer.length ≤ CacheSim.maxBuffer
  noHit : ∀ p ∈ s.cache.reqBuffer, (p, false) ∈ s.log.accepted

/-! ## 1. One step -/

/-- What waits is part of the accepted misses. -/
theorem noHit_of_order {s : CacheRun ρ} (h : s.log.misses = s.log.forwarded ++ s.cache.reqBuffer)
    {p : PacketId} (hp : p ∈ s.cache.reqBuffer) : (p, false) ∈ s.log.accepted := by
  have hmem : p ∈ s.log.misses := h ▸ List.mem_append_right _ hp
  obtain ⟨⟨q, hit⟩, he, rfl⟩ := List.mem_map.mp hmem
  obtain ⟨he, hmiss⟩ := List.mem_filter.mp he
  cases hit with
  | false => exact he
  | true => cases hmiss

/-- The log after one more accepted request. -/
theorem misses_accept (l : MissLog) (p : PacketId) (hit : Bool) :
    ({ l with accepted := l.accepted ++ [(p, hit)] } : MissLog).misses =
      if hit then l.misses else l.misses ++ [p] := by
  cases hit <;> simp [MissLog.misses]

/-- **A try moves the head of the queue behind the forwarded packets, or nothing.** -/
theorem tryForward_log (c : Context ρ) (m : CacheSim) (w : Heap × (MissLog × ρ)) :
    (m.tryForward (noting c) w).2.2.2.1.accepted = w.2.1.accepted ∧
      (m.tryForward (noting c) w).2.2.2.1.forwarded ++
          (m.tryForward (noting c) w).2.1.reqBuffer = w.2.1.forwarded ++ m.reqBuffer ∧
      (m.tryForward (noting c) w).2.1.reqBuffer.length ≤ m.reqBuffer.length := by
  unfold CacheSim.tryForward
  split
  · exact ⟨rfl, rfl, Nat.le_refl _⟩
  · next p rest hb =>
      split
      · exact ⟨rfl, rfl, Nat.le_refl _⟩
      · next i _ =>
          cases hr : (c.sendReq i p (w.1, w.2.2)).1 with
          | false => simp [noting, hr]
          | true => simp [noting, hr, hb]

theorem inOrder_tryForward {s : CacheRun ρ} (h : InOrder s) (c : Context ρ) :
    InOrder (s.after (s.cache.tryForward (noting c) (s.heap, (s.log, s.env))).2.1
      (s.cache.tryForward (noting c) (s.heap, (s.log, s.env))).2.2) := by
  obtain ⟨hacc, hmove, hlen⟩ := tryForward_log c s.cache (s.heap, (s.log, s.env))
  have hmiss : (s.cache.tryForward (noting c) (s.heap, (s.log, s.env))).2.2.2.1.misses =
      s.log.misses := by
    unfold MissLog.misses
    rw [hacc]
  have horder := hmiss.trans (h.order.trans hmove.symm)
  exact ⟨horder, Nat.le_trans hlen h.bound, fun p hp => noHit_of_order horder hp⟩

theorem inOrder_step {s : CacheRun ρ} (h : InOrder s) (a : Action ρ) : InOrder (s.step a) := by
  cases a with
  | request c p srcId =>
      rw [step]
      cases hf : s.cache.full with
      | true =>
          rw [CacheSim.handleUpstreamRequest_full hf]
          exact ⟨h.order, h.bound, h.noHit⟩
      | false =>
          cases hh : CacheSim.hit s.heap p with
          | true =>
              rw [CacheSim.handleUpstreamRequest_hit (w := (s.heap, (s.log, s.env))) hf hh]
              have horder := (misses_accept s.log p true).trans h.order
              exact ⟨horder, h.bound, fun q hq => List.mem_append_left _ (h.noHit q hq)⟩
          | false =>
              rw [CacheSim.handleUpstreamRequest_miss (w := (s.heap, (s.log, s.env))) hf hh]
              have hlt : s.cache.reqBuffer.length < CacheSim.maxBuffer := by
                simpa [CacheSim.full] using hf
              have horder := misses_accept s.log p false
              rw [h.order, if_neg Bool.false_ne_true, List.append_assoc] at horder
              refine ⟨horder, ?_, fun q hq => ?_⟩
              · show (s.cache.reqBuffer ++ [p]).length ≤ _
                rw [List.length_append, List.length_singleton]
                exact hlt
              · rcases List.mem_append.mp hq with hq | hq
                · exact List.mem_append_left _ (h.noHit q hq)
                · rw [List.mem_singleton.mp hq]
                  exact List.mem_append_right _ (List.mem_singleton_self _)
  | tick c => exact inOrder_tryForward h c
  | forward c => exact inOrder_tryForward h c
  | response c p srcId =>
      rw [step]
      unfold CacheSim.handleDownstreamResponse
      split <;> exact ⟨h.order, h.bound, h.noHit⟩
  | other f => exact ⟨h.order, h.bound, h.noHit⟩

/-! ## 2. Every run -/

/-- **EVERY ACCEPTED MISS IS FORWARDED ONCE AND IN ORDER.** In every state of every run of a cache
    that starts with an empty queue, in any surroundings: the accepted misses are, as a sequence,
    the packets for which a `sendReq` has returned true followed by the queue; the queue never
    holds more than `MAX_BUFFER` packets, and no hit. -/
theorem misses_in_order (heap : Heap) (env : ρ) (acts : List (Action ρ)) :
    Library.Everywhere step InOrder { heap := heap, env := env } acts :=
  Library.everywhere_of_invariant (I := InOrder)
    ⟨rfl, Nat.zero_le _, fun _ hp => absurd hp List.not_mem_nil⟩ (fun _ h => h)
    (fun _ a h => inOrder_step h a) acts

end CacheRun

end Gem5Sc
