/-
  File:      Gem5Sc/Modules/Refusal.lean
  Subject:   WHO HAS A PACKET THAT `sendReq` REFUSES: the runs of a module over its downstream
             ports.

  The module puts a refused packet back, keeps it, or deletes it itself, so it takes a refusal to
  leave the packet with it. But every refusal has deleted the packet. So a refused send breaks the
  convention at once, and a run keeps it exactly when all its sends are taken (`kept_iff_proper`):
  the channel exists, and has room or is empty before a peer that takes the packet.

  The peer may delete what it has, a request it is going to answer included. A cache deletes that
  request when the answer comes, so such an answer is the one other way to release a packet twice.
-/
import Gem5Sc.Library.Runs
import Gem5Sc.Modules.Calls

namespace Gem5Sc

/-- A module and what is around it. -/
structure ModuleRun where
  heap : Heap := {}
  module : Module
  around : Around := {}

namespace ModuleRun

/-! ## 1. Runs -/

/-- One call of the module, in cycle `now`; `answer` is what the peer says to a send it makes. -/
structure Call where
  now : UInt64 := 0
  upstream : Nat := 1
  answer : PeerAnswer := { accept := true }

inductive Action where
  | tick (c : Call) (d : Draw)
  /-- A new request arrives; `direct` is a call of the class's own handler. -/
  | request (c : Call) (direct : Bool) (t : Payload) (x : Packet) (srcId : Nat)
  /-- The peer hands over a packet it has. -/
  | response (c : Call) (direct : Bool) (p : PacketId) (srcId : Nat)
  /-- The `k`-th pending event runs. -/
  | fire (c : Call) (k : Nat)
  | other (ops : List PeerOp)

variable (s : ModuleRun)

/-- The surroundings of a call. -/
def context (c : Call) : Context Around :=
  Around.context c.now c.upstream s.around.ports.length c.answer

/-- Put back what a function of the module has returned. -/
def after (m : Module) (w : Heap × Around) : ModuleRun :=
  { heap := w.1, module := m, around := w.2 }

/-- The request that goes over to a cache with the response to it; the cache deletes both. -/
def requestOf (p : PacketId) : List PacketId :=
  if s.module.cls = .cacheSim then ((s.heap.packet p).originalReq).toList else []

def step : Action → ModuleRun
  | .tick c d =>
      let r := s.module.tick (s.context c) d (s.heap, s.around)
      after r.1 r.2
  | .request c direct t x srcId =>
      let y := s.heap.newRequest t x
      let r := s.module.handleBy direct .handleUpstreamRequest (s.context c) y.1 srcId
        (y.2, s.around)
      after r.2.1 r.2.2
  | .response c direct p srcId =>
      -- the peer has what it hands over, unless it has released the request
      if p ∈ s.around.held ∧
          ∀ r ∈ s.requestOf p, r ∈ s.around.held.erase p ∨ r ∈ s.heap.released then
        let x := { s.around with held := (s.around.held.erase p).diff (s.requestOf p) }
        let r :=
          s.module.handleBy direct .handleDownstreamResponse (s.context c) p srcId (s.heap, x)
        after r.2.1 r.2.2
      else s
  | .fire c k =>
      match s.around.events[k]? with
      | none => s
      | some e =>
          let r := s.module.runDeferred (s.context c) e (s.heap, s.around.pop k)
          after r.1 r.2
  | .other ops =>
      let r := Around.performAll ops (s.heap, s.around)
      after s.module r

/-- The port and the `vc_id` of the request the step sends, if it sends one. -/
def sends : Action → Option (Nat × Int)
  | .tick c d => s.module.tickSends (s.context c) d s.heap
  | .request c direct t x _ =>
      let y := s.heap.newRequest t x
      s.module.handlerSends (s.context c) direct y.1 y.2
  | .fire c k => (s.around.events[k]?).bind fun e => s.module.eventSends (s.context c) e s.heap
  | .response .. | .other _ => none

/-- What the peer says in the step. -/
def Action.accept : Action → Bool
  | .tick c _ | .request c .. | .response c .. | .fire c _ => c.answer.accept
  | .other _ => true

/-- The send of the step, if it makes one, is taken. -/
def Taken (a : Action) : Prop :=
  ∀ i vcId, s.sends a = some (i, vcId) → (s.around.port i).Takes vcId a.accept

/-- The send of the step is taken, and no cache gets an answer to a request that is gone. -/
def Proper : Action → Prop
  | .response _ _ p _ => p ∈ s.around.held → ∀ r ∈ s.requestOf p, r ∉ s.heap.released
  | a => s.Taken a

/-- **The convention.** Every refused packet was alive when the module got it back, its queue holds
    no released packet, and no packet has been released twice. -/
structure Kept : Prop where
  refused : ∀ e ∈ s.around.refused, e.2 = true
  queue : ∀ p ∈ s.module.queue, p ∉ s.heap.released
  once : s.heap.released.Nodup

variable {s}

/-! ## 2. Every run -/

/-- What every run keeps as long as all sends are taken. -/
def Inv (s : ModuleRun) : Prop := s.module.Sound (s.heap, s.around)

theorem Inv.kept {s : ModuleRun} (hI : Inv s) : Kept s where
  refused e he := by
    rw [hI.silent] at he
    exact absurd he List.not_mem_nil
  queue p hp := hI.owns.alive
    (List.mem_append_left _ (List.mem_append_right [] (List.mem_append_left _ hp)))
  once := hI.owns.released_nodup

/-- What the peer hands over is in the module's hands. -/
theorem Inv.handOver {s : ModuleRun} (hI : Inv s) {p : PacketId} (hp : p ∈ s.around.held)
    (hreq : ∀ r ∈ s.requestOf p, r ∈ s.around.held.erase p) :
    s.module.Holds (p :: s.requestOf p)
      (s.heap, { s.around with held := (s.around.held.erase p).diff (s.requestOf p) }) := by
  refine ⟨hI.owns.mono fun q => ?_, hI.silent⟩
  have hone := (List.perm_cons_erase hp).count_eq q
  have hboth : (s.requestOf p).count q +
      ((s.around.held.erase p).diff (s.requestOf p)).count q = (s.around.held.erase p).count q := by
    have hcases : s.requestOf p = [] ∨ ∃ r, s.requestOf p = [r] := by
      unfold requestOf
      split
      · cases (s.heap.packet p).originalReq with
        | none => exact Or.inl rfl
        | some r => exact Or.inr ⟨r, rfl⟩
      · exact Or.inl rfl
    rcases hcases with hr | ⟨r, hr⟩
    · rw [hr, List.diff_nil, List.count_nil, Nat.zero_add]
    · rw [hr] at hreq ⊢
      have htwo := (List.perm_cons_erase (hreq r (List.mem_singleton_self r))).count_eq q
      simp only [List.diff_cons, List.diff_nil, htwo, List.count_cons, List.count_nil]
      omega
  rw [List.count_cons] at hone
  show (((p :: s.requestOf p) ++ (s.module.queue ++ s.around.responses)) ++
    (s.around.held.erase p).diff (s.requestOf p)).count q ≤
      ((s.module.queue ++ s.around.responses) ++ s.around.held).count q
  simp only [List.count_append, List.count_cons, List.cons_append]
  omega

theorem step_fire {s : ModuleRun} {c : Call} {k : Nat} {e : Deferred}
    (hk : s.around.events[k]? = some e) :
    s.step (.fire c k) = after (s.module.runDeferred (s.context c) e (s.heap, s.around.pop k)).1
      (s.module.runDeferred (s.context c) e (s.heap, s.around.pop k)).2 := by
  rw [step, hk]

theorem sends_fire {s : ModuleRun} {c : Call} {k : Nat} {e : Deferred}
    (hk : s.around.events[k]? = some e) :
    s.sends (.fire c k) = s.module.eventSends (s.context c) e s.heap := by
  rw [sends, hk]
  rfl

theorem outcome_fire {s : ModuleRun} (c : Call) {k : Nat} {e : Deferred}
    (hk : s.around.events[k]? = some e) :
    Module.Outcome c.answer (Inv s) (s.around.pop k) (s.sends (.fire c k))
      (s.module.runDeferred (s.context c) e (s.heap, s.around.pop k)) := by
  rw [sends_fire hk]
  exact Module.outcome_fire s.module hk

/-- A proper step. -/
theorem inv_step {s : ModuleRun} (hI : Inv s) (act : Action) (hp : Proper s act) :
    Inv (s.step act) := by
  cases act with
  | tick c d => exact (Module.outcome_tick s.module d (s.heap, s.around)).sound hI hI.silent hp
  | request c direct t x srcId =>
      exact (Module.outcome_request (w := ((s.heap.newRequest t x).2, s.around)) direct srcId).sound
        ⟨hI.owns.newRequest t x, hI.silent⟩ hI.silent hp
  | response c direct p srcId =>
      rw [step]
      split
      · next hheld =>
          have hreq : ∀ r ∈ s.requestOf p, r ∈ s.around.held.erase p := fun r hr =>
            (hheld.2 r hr).resolve_right (hp hheld.1 r hr)
          exact Module.sound_response direct srcId (hI.handOver hheld.1 hreq)
      · exact hI
  | fire c k =>
      cases hk : s.around.events[k]? with
      | none =>
          rw [step, hk]
          exact hI
      | some e =>
          rw [step_fire hk]
          exact (outcome_fire c hk).sound hI hI.silent hp
  | other ops =>
      obtain ⟨h1, h2⟩ := Around.performAll_owns ops hI.owns
      exact Module.Holds.after h1 h2 hI.silent

theorem not_kept_of_refused {s : ModuleRun} (h : ∃ p, (p, false) ∈ s.around.refused) :
    ¬ Kept s := by
  obtain ⟨p, hp⟩ := h
  exact fun hk => nomatch hk.refused _ hp

/-- A cache deletes the request of an answer. -/
theorem released_response {s : ModuleRun} (c : Call) (direct : Bool) {p r : PacketId} (srcId : Nat)
    (x : Around) (hr : r ∈ s.requestOf p) :
    (s.module.handleBy direct .handleDownstreamResponse (s.context c) p srcId
      (s.heap, x)).2.2.1.released = r :: p :: s.heap.released := by
  unfold requestOf at hr
  split at hr
  · next hcls =>
      cases hm : s.module with
      | cache m =>
          have hreq : (s.heap.packet p).originalReq = some r := Option.mem_toList.mp hr
          have hcache : (m.handleDownstreamResponse (s.context c) p srcId
              (s.heap, x)).2.2.1.released = r :: p :: s.heap.released := by
            unfold CacheSim.handleDownstreamResponse
            rw [hreq]
            rfl
          cases direct <;> exact hcache
      | _ =>
          rw [hm] at hcls
          cases hcls
  · exact absurd hr List.not_mem_nil

/-- A step that is not proper. -/
theorem not_kept_of_not_proper {s : ModuleRun} (act : Action) (hp : ¬ Proper s act) :
    ¬ Kept (s.step act) := by
  cases act with
  | tick c d =>
      exact not_kept_of_refused ((Module.outcome_tick s.module d (s.heap, s.around)).broken hp)
  | request c direct t x srcId =>
      exact not_kept_of_refused ((Module.outcome_request (w := ((s.heap.newRequest t x).2,
        s.around)) direct srcId).broken hp)
  | response c direct p srcId =>
      simp only [Proper, not_forall, not_not] at hp
      obtain ⟨hheld, r, hr, hrel⟩ := hp
      have hone : ∀ q ∈ s.requestOf p, q = r := by
        intro q hq
        unfold requestOf at hq hr
        by_cases hcls : s.module.cls = .cacheSim
        · rw [if_pos hcls] at hq hr
          exact Option.some.inj ((Option.mem_toList.mp hq).symm.trans (Option.mem_toList.mp hr))
        · rw [if_neg hcls] at hr
          exact absurd hr List.not_mem_nil
      have hguard : p ∈ s.around.held ∧
          ∀ q ∈ s.requestOf p, q ∈ s.around.held.erase p ∨ q ∈ s.heap.released :=
        ⟨hheld, fun q hq => Or.inr (hone q hq ▸ hrel)⟩
      intro hk
      have honce := hk.once
      rw [step, if_pos hguard] at honce
      have hrel' := released_response c direct srcId
        { s.around with held := (s.around.held.erase p).diff (s.requestOf p) } hr
      have hnodup : (r :: p :: s.heap.released).Nodup := hrel' ▸ honce
      exact (List.nodup_cons.mp hnodup).1 (List.mem_cons_of_mem p hrel)
  | fire c k =>
      cases hk : s.around.events[k]? with
      | none =>
          refine absurd (fun i v h => ?_) hp
          have hnone : s.sends (.fire c k) = none := by
            rw [sends, hk]
            rfl
          rw [hnone] at h
          cases h
      | some e =>
          rw [step_fire hk]
          exact not_kept_of_refused ((outcome_fire c hk).broken hp)
  | other ops => exact absurd (fun _ _ h => nomatch h) hp

/-- **A REFUSED SEND LEAVES THE PACKET TO THE CALLER.** For every module, any downstream ports and
    every run: every refused packet is alive when the module gets it back, its queue never holds a
    released packet and no packet is released twice, in every state of the run, if and only if
    every step of the run is proper. -/
theorem kept_iff_proper (m : Module) (hm : m.queue = []) (ports : List DownstreamPort)
    (acts : List Action) :
    Library.Everywhere step Kept { module := m, around := { ports := ports } } acts ↔
      Library.Along step Proper { module := m, around := { ports := ports } } acts := by
  refine Library.everywhere_iff_along (I := Inv) ?_ (fun _ h => h.kept)
    (fun _ act h hp => inv_step h act hp) (fun _ act _ hp => not_kept_of_not_proper act hp)
  have hnone : m.queue ++ ({ ports := ports } : Around).responses ++ [] = [] := by
    rw [hm]
    rfl
  refine ⟨?_, rfl⟩
  show ({} : Heap).Owns (m.queue ++ ({ ports := ports } : Around).responses ++ [])
  rw [hnone]
  exact ⟨fun _ => Nat.zero_le _, fun _ _ => rfl⟩

/-- A Crossbar with one downstream port of one channel. -/
def oneChannel (cap : Nat) : ModuleRun :=
  { module := .crossbar {}, around := { ports := [DownstreamPort.create 0 [cap] [] ""] } }

/-- Two requests arrive, and the peer takes nothing. -/
def twoRequests : List Action :=
  let busy : Call := { answer := { accept := false } }
  [.request {} true {} {} 0, .request {} true {} {} 0, .tick busy default, .tick busy default,
    .tick busy default]

theorem kept_iff_proper_twoRequests :
    Library.Everywhere step Kept (oneChannel 1) twoRequests ↔
      Library.Along step Proper (oneChannel 1) twoRequests :=
  kept_iff_proper (.crossbar {}) rfl [DownstreamPort.create 0 [1] [] ""] twoRequests

/-- The first request fills the channel. The second is refused and released, goes back to the queue,
    and the next tick releases it again. -/
theorem twoRequests_not_kept :
    (Library.run step (oneChannel 1) (twoRequests.take 4)).module.queue = [1] ∧
      (Library.run step (oneChannel 1) (twoRequests.take 4)).heap.released = [1] ∧
      (Library.run step (oneChannel 1) twoRequests).heap.released = [1, 1] ∧
      ¬ Library.Everywhere step Kept (oneChannel 1) twoRequests := by
  refine ⟨by decide, by decide, by decide, fun h => ?_⟩
  have hlast := Library.everywhere_iff_prefix.mp h twoRequests (List.prefix_refl _)
  exact absurd hlast.once (by decide)

end ModuleRun

end Gem5Sc
