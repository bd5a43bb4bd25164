/-
  File:      Gem5Sc/Modules/Calls.lean
  Subject:   WHAT ONE CALL OF A MODULE DOES WITH ITS PACKETS: its `tick`, its handlers and its
             events, each with the one send it may make.

  A call makes no send; or its send is taken and the packet is no longer the module's; or its send
  is refused (`Outcome`). Every function of every class has one lemma that says which
  (`outcome_tick`, `outcome_request`, `outcome_fire`), and what follows from the three ways is said
  once (`Outcome.sound`, `Outcome.broken`).
-/
import Gem5Sc.Modules.Dispatch
import Gem5Sc.Modules.Around

namespace Gem5Sc

/-! ## 1. The send of a call -/

section Sends

variable {ρ : Type} (c : Context ρ)

/-- The port and the `vc_id` of the request that `CPUSim::tick` sends, if it sends one. -/
def CPUSim.sends (rand : Nat) (m : CPUSim) : Option (Nat × Int) :=
  if c.downstream ≠ 0 ∧ m.inflightReqs.length < 4 ∧ rand % 20 = 0 then
    some (m.nextAddr.toNat % c.downstream, 0)
  else none

/-- The same for `CacheSim::tryForward`. -/
def CacheSim.sends (m : CacheSim) (h : Heap) : Option (Nat × Int) :=
  match m.reqBuffer with
  | [] => none
  | p :: _ => (routeToDownstream c p h).map fun i => (i, (h.packet p).vcId)

def Crossbar.sends (m : Crossbar) (h : Heap) : Option (Nat × Int) :=
  match m.reqQueue with
  | [] => none
  | (p, _) :: _ =>
      if route c p h < c.downstream then some (route c p h, (h.packet p).vcId) else none

def Arbiter.sends (m : Arbiter) (h : Heap) : Option (Nat × Int) :=
  match m.reqQueue with
  | [] => none
  | (p, _) :: _ => if c.downstream ≠ 0 then some (0, (h.packet p).vcId) else none

/-- The same for `Router::handleUpstreamRequest`. -/
def Router.sends (p : PacketId) (h : Heap) : Option (Nat × Int) :=
  if routeByAddress (h.address p) < c.downstream then
    some (routeByAddress (h.address p), (h.packet p).vcId)
  else none

def TrafficGenerator.sends (d : Draw) (m : TrafficGenerator) : Option (Nat × Int) :=
  if (c.downstream ≠ 0 ∧ m.completed < m.numRequests ∧ d.rand % 10 = 0) ∧
      (nextRequest d m).1.isSome then some (0, 0)
  else none

def Module.tickSends (d : Draw) (m : Module) (h : Heap) : Option (Nat × Int) :=
  match m with
  | .cpu m => m.sends c d.rand
  | .cache m => m.sends c h
  | .crossbar m => m.sends c h
  | .arbiter m => m.sends c h
  | .trafficGen m => m.sends c d
  | .memory | .router => none

/-- What a handler sends: only a Router forwards in its handler. -/
def Module.handlerSends (direct : Bool) (m : Module) (p : PacketId) (h : Heap) :
    Option (Nat × Int) :=
  match direct, m with
  | true, .router => Router.sends c p h
  | _, _ => none

def Module.eventSends (m : Module) (e : Deferred) (h : Heap) : Option (Nat × Int) :=
  match e, m with
  | .tryForward, .cache m => m.sends c h
  | _, _ => none

end Sends
/-! ## 2. The packets of a module -/

/-- The packets in `req_buffer` or `req_queue`. -/
def Module.queue : Module → List PacketId
  | .cache m => m.reqBuffer
  | .crossbar m => m.reqQueue.map Prod.fst
  | .arbiter m => m.reqQueue.map Prod.fst
  | _ => []

/-- The handler that is called, the class's own or the one behind the `SimObject` interface. -/
def Module.handleBy (direct : Bool) (f : Callback) (c : Context Around) (m : Module) :
    PacketId → Nat → Heap × Around → Bool × Module × (Heap × Around) :=
  if direct then m.own f c else m.handle f c

namespace Module

/-- The packets of the module, of the rest of the system and of `l` are alive and in one place each,
    and nothing has been refused. -/
structure Holds (m : Module) (l : List PacketId) (w : Heap × Around) : Prop where
  owns : w.1.Owns ((l ++ (m.queue ++ w.2.responses)) ++ w.2.held)
  silent : w.2.refused = []

/-- Between two calls the module has what is in its queue. -/
abbrev Sound (m : Module) (w : Heap × Around) : Prop := m.Holds [] w

/-- What the rest of the system does with a packet it gets is no affair of the module. -/
theorem Holds.after {m : Module} {l : List PacketId} {x : Around} {w : Heap × Around}
    (ho : w.1.Owns ((l ++ (m.queue ++ x.responses)) ++ w.2.held)) (ha : Around.Apart x w.2)
    (hs : x.refused = []) : m.Holds l w := by
  refine ⟨?_, ha.refused.trans hs⟩
  rw [ha.responses]
  exact ho

/-- The module loses what it does not keep. -/
theorem Sound.lose {m m' : Module} {w : Heap × Around} (h : m.Sound w)
    (hq : ∀ p, m'.queue.count p ≤ m.queue.count p) : m'.Sound w := by
  refine ⟨h.owns.mono fun p => ?_, h.silent⟩
  have hp := hq p
  simp only [List.count_append]
  omega

/-- A packet that the module takes out of its queue. -/
theorem Holds.take {m m' : Module} {l : List PacketId} {w : Heap × Around} (h : m.Holds l w)
    {p : PacketId} (hq : m.queue = p :: m'.queue) : m'.Holds (p :: l) w := by
  refine ⟨h.owns.mono fun r => ?_, h.silent⟩
  simp only [hq, List.count_append, List.count_cons, List.cons_append]
  omega

/-- A packet that the module deletes. -/
theorem Holds.delete {m : Module} {l : List PacketId} {w : Heap × Around} {p : PacketId}
    (h : m.Holds (p :: l) w) : m.Holds l (w.1.delete p, w.2) :=
  ⟨Heap.Owns.delete h.owns, h.silent⟩

/-- A packet that the rest of the system gets. -/
theorem Holds.hand {m : Module} {l : List PacketId} {w : Heap × Around} {p : PacketId}
    (h : m.Holds (p :: l) w) (ops : List PeerOp) :
    m.Holds l (Around.performAll ops (Around.hand p w)) :=
  Holds.after (Around.hand_owns ops h.owns).1 (Around.hand_owns ops h.owns).2 h.silent

/-- A response whose cycle has come. -/
theorem Holds.pop_respond {m : Module} {l : List PacketId} {w : Heap × Around} (h : m.Holds l w)
    {k j : Nat} {p : PacketId} (hk : w.2.events[k]? = some (.respond j p)) :
    m.Holds (p :: l) (w.1, w.2.pop k) := by
  refine ⟨h.owns.mono fun r => ?_, h.silent⟩
  have hr := Around.count_responses_pop_respond hk r
  rw [List.count_cons] at hr
  show (((p :: l) ++ (m.queue ++ (w.2.pop k).responses)) ++ w.2.held).count r ≤ _
  simp only [List.count_cons, List.count_append, List.cons_append]
  omega

/-- An event that carries no packet. -/
theorem Holds.pop_tryForward {m : Module} {l : List PacketId} {w : Heap × Around} (h : m.Holds l w)
    {k : Nat} (hk : w.2.events[k]? = some .tryForward) : m.Holds l (w.1, w.2.pop k) := by
  refine ⟨h.owns.mono fun r => ?_, h.silent⟩
  have hr := Around.count_responses_pop_tryForward hk r
  show ((l ++ (m.queue ++ (w.2.pop k).responses)) ++ w.2.held).count r ≤ _
  simp only [List.count_append]
  omega

/-- How a call of a module can go, from a state with `H`; the send it makes, if any, stands in the
    next place, and what the call leaves in the last. -/
inductive Outcome (a : PeerAnswer) (H : Prop) (x : Around) :
    Option (Nat × Int) → Module × (Heap × Around) → Prop where
  | quiet {r} (kept : H → r.1.Sound r.2) : Outcome a H x none r
  | taken {i p h k} (owns : H → h.Owns (p :: ((k.queue ++ x.responses) ++ x.held)))
      (ok : (Around.sendReq a i p (h, x)).1 = true) :
      Outcome a H x (some (i, (h.packet p).vcId)) (k, (Around.sendReq a i p (h, x)).2)
  | refused {i p h r} (no : (Around.sendReq a i p (h, x)).1 = false)
      (note : r.2.2 = (Around.sendReq a i p (h, x)).2.2) :
      Outcome a H x (some (i, (h.packet p).vcId)) r

variable {a : PeerAnswer} {H : Prop} {x : Around} {o : Option (Nat × Int)}
  {r : Module × (Heap × Around)}

theorem Outcome.imp {H' : Prop} (h : Outcome a H' x o r) (hH : H → H') : Outcome a H x o r := by
  cases h with
  | quiet kept => exact .quiet fun h => kept (hH h)
  | taken owns ok => exact .taken (fun h => owns (hH h)) ok
  | refused no note => exact .refused no note

/-- **A call whose send is taken.** -/
theorem Outcome.sound (h : Outcome a H x o r) (hH : H) (hs : x.refused = [])
    (ht : ∀ i v, o = some (i, v) → (x.port i).Takes v a.accept) : r.1.Sound r.2 := by
  cases h with
  | quiet kept => exact kept hH
  | @taken i p h k owns ok =>
      obtain ⟨-, howns, hapart⟩ := Around.sendReq_taken (w := (h, x)) (owns hH) (ht _ _ rfl)
      exact Holds.after howns hapart hs
  | @refused i p h r no note =>
      have hyes : (Around.sendReq a i p (h, x)).1 = true :=
        (DownstreamPort.sendReq_of_takes (Around.recv a) (w := (h, x)) (ht _ _ rfl)).1
      rw [no] at hyes
      cases hyes

/-- **A call whose send is refused.** -/
theorem Outcome.broken (h : Outcome a H x o r)
    (ht : ¬ ∀ i v, o = some (i, v) → (x.port i).Takes v a.accept) :
    ∃ p, (p, false) ∈ r.2.2.refused := by
  cases h with
  | quiet kept => exact absurd (fun _ _ h => nomatch h) ht
  | @taken i p h k owns ok =>
      have hno : ¬ (x.port i).Takes (h.packet p).vcId a.accept := by
        refine fun htakes => ht fun j v hjv => ?_
        cases hjv
        exact htakes
      rw [(Around.sendReq_refused (w := (h, x)) hno).1] at ok
      cases ok
  | @refused i p h r no note =>
      have hno : ¬ (x.port i).Takes (h.packet p).vcId a.accept := by
        refine fun htakes => ht fun j v hjv => ?_
        cases hjv
        exact htakes
      refine ⟨p, ?_⟩
      rw [note]
      exact (Around.sendReq_refused (w := (h, x)) hno).2

section Functions

variable {now : UInt64} {upstream n : Nat}

/-- A new request that is taken. -/
theorem Outcome.issued {m : Module} {w : Heap × Around} {t : Payload} {x : Packet} {i : Nat}
    {k : Module} (hq : k.queue = m.queue)
    (ok : (Around.sendReq a i w.1.nextPacket ((w.1.newRequest t x).2, w.2)).1 = true) :
    Outcome a (m.Sound w) w.2 (some (i, x.vcId))
      (k, (Around.sendReq a i w.1.nextPacket ((w.1.newRequest t x).2, w.2)).2) := by
  have hout := Outcome.taken (a := a) (H := m.Sound w) (k := k) (fun hs => ?_) ok
  · rw [Heap.newRequest_packet_self] at hout
    exact hout
  · rw [hq]
    exact hs.owns.newRequest t x

/-- A new request that is refused, whatever the module does with it afterwards. -/
theorem Outcome.issued_refused {w : Heap × Around} {t : Payload} {x : Packet} {i : Nat}
    {k : Module} {h : Heap}
    (no : (Around.sendReq a i w.1.nextPacket ((w.1.newRequest t x).2, w.2)).1 = false) :
    Outcome a H w.2 (some (i, x.vcId))
      (k, (h, (Around.sendReq a i w.1.nextPacket ((w.1.newRequest t x).2, w.2)).2.2)) := by
  have hout := Outcome.refused (a := a) (H := H) (r := (k, (h, _))) no rfl
  rw [Heap.newRequest_packet_self] at hout
  exact hout

theorem outcome_cpuTick (m : CPUSim) (rand : Nat) (w : Heap × Around) :
    Outcome a (Module.Sound (.cpu m) w) w.2 (m.sends (Around.context now upstream n a) rand)
      (.cpu (m.tick (Around.context now upstream n a) rand w).1,
        (m.tick (Around.context now upstream n a) rand w).2) := by
  unfold CPUSim.sends CPUSim.tick
  by_cases hn : (Around.context now upstream n a).downstream = 0
  · rw [if_neg fun h => h.1 hn, if_pos hn]
    exact .quiet id
  by_cases hcond : m.inflightReqs.length < 4 ∧ rand % 20 = 0
  · rw [if_pos ⟨hn, hcond⟩, if_neg hn, if_pos hcond]
    dsimp only
    split
    · next ok =>
        exact .issued (m := .cpu m)
          (k := .cpu { m.insert m.nextAddr w.1.nextPacket with nextAddr := m.nextAddr + 4 }) rfl ok
    · next no => exact .issued_refused (Bool.eq_false_iff.mpr no)
  · rw [if_neg fun h => hcond h.2, if_neg hn, if_neg hcond]
    exact .quiet id

theorem outcome_trafficTick (m : TrafficGenerator) (d : Draw) (w : Heap × Around) :
    Outcome a (Module.Sound (.trafficGen m) w) w.2 (m.sends (Around.context now upstream n a) d)
      (.trafficGen (m.tick (Around.context now upstream n a) d w).1,
        (m.tick (Around.context now upstream n a) d w).2) := by
  unfold TrafficGenerator.sends TrafficGenerator.tick
  by_cases hcond : (Around.context now upstream n a).downstream ≠ 0 ∧
      m.completed < m.numRequests ∧ d.rand % 10 = 0
  · rw [if_pos hcond, TrafficGenerator.issueRequest]
    obtain ⟨e, m', hnext⟩ : ∃ e m', TrafficGenerator.nextRequest d m = (e, m') := ⟨_, _, rfl⟩
    rw [hnext]
    cases e with
    | none =>
        rw [if_neg fun h => Bool.false_ne_true h.2]
        exact .quiet fun hs => ⟨hs.owns.congr rfl rfl, hs.silent⟩
    | some e =>
        obtain ⟨addr, isWrite⟩ := e
        rw [if_pos ⟨hcond, rfl⟩]
        refine iteInduction (motive := fun r : TrafficGenerator × (Heap × Around) =>
          Outcome a (Module.Sound (.trafficGen m) w) w.2 (some (0, 0)) (.trafficGen r.1, r.2))
          (fun ok => ?_) (fun no => ?_)
        · exact .issued (m := .trafficGen m) (k := .trafficGen m') rfl ok
        · exact .issued_refused (Bool.eq_false_iff.mpr no)
  · rw [if_neg fun h => hcond h.1, if_neg hcond]
    exact .quiet id

theorem outcome_tryForward (m : CacheSim) (w : Heap × Around) :
    Outcome a (Module.Sound (.cache m) w) w.2 (m.sends (Around.context now upstream n a) w.1)
      (.cache (m.tryForward (Around.context now upstream n a) w).2.1,
        (m.tryForward (Around.context now upstream n a) w).2.2) := by
  unfold CacheSim.sends CacheSim.tryForward
  cases hq : m.reqBuffer with
  | nil => exact .quiet id
  | cons p rest =>
      have hqueue : (Module.cache m).queue =
          p :: (Module.cache { m with reqBuffer := rest }).queue := hq
      dsimp only
      cases CacheSim.routeToDownstream (Around.context now upstream n a) p w.1 with
      | none => exact .quiet id
      | some i =>
          dsimp only
          split
          · next ok =>
              exact .taken (k := .cache { m with reqBuffer := rest })
                (fun hs => (hs.take hqueue).owns) ok
          · next no => exact .refused (Bool.eq_false_iff.mpr no) rfl

theorem outcome_crossbarTick (m : Crossbar) (w : Heap × Around) :
    Outcome a (Module.Sound (.crossbar m) w) w.2 (m.sends (Around.context now upstream n a) w.1)
      (.crossbar (m.tick (Around.context now upstream n a) w).1,
        (m.tick (Around.context now upstream n a) w).2) := by
  unfold Crossbar.sends Crossbar.tick
  cases hq : m.reqQueue with
  | nil => exact .quiet id
  | cons e rest =>
      obtain ⟨p, srcId⟩ := e
      have hqueue : (Module.crossbar m).queue =
          p :: (Module.crossbar { m with reqQueue := rest }).queue :=
        congrArg (List.map Prod.fst) hq
      dsimp only
      by_cases hroute : Crossbar.route (Around.context now upstream n a) p w.1 <
          (Around.context now upstream n a).downstream
      · rw [if_pos hroute, if_pos hroute]
        split
        · next ok =>
            exact .taken (k := .crossbar { m with reqQueue := rest })
              (fun hs => (hs.take hqueue).owns) ok
        · next no => exact .refused (Bool.eq_false_iff.mpr no) rfl
      · rw [if_neg hroute, if_neg hroute]
        exact .quiet fun hs => (hs.take hqueue).delete

theorem outcome_arbiterTick (m : Arbiter) (w : Heap × Around) :
    Outcome a (Module.Sound (.arbiter m) w) w.2 (m.sends (Around.context now upstream n a) w.1)
      (.arbiter (m.tick (Around.context now upstream n a) w).1,
        (m.tick (Around.context now upstream n a) w).2) := by
  unfold Arbiter.sends Arbiter.tick
  cases hq : m.reqQueue with
  | nil => exact .quiet id
  | cons e rest =>
      obtain ⟨p, srcId⟩ := e
      have hqueue : (Module.arbiter m).queue =
          p :: (Module.arbiter { m with reqQueue := rest }).queue := congrArg (List.map Prod.fst) hq
      dsimp only
      by_cases hn : (Around.context now upstream n a).downstream ≠ 0
      · rw [if_pos hn, if_pos hn]
        split
        · next ok =>
            exact .taken (k := .arbiter { m with reqQueue := rest })
              (fun hs => (hs.take hqueue).owns) ok
        · next no => exact .refused (Bool.eq_false_iff.mpr no) rfl
      · rw [if_neg hn, if_neg hn]
        exact .quiet fun hs => (hs.take hqueue).delete

theorem outcome_tick (m : Module) (d : Draw) (w : Heap × Around) :
    Outcome a (m.Sound w) w.2 (m.tickSends (Around.context now upstream n a) d w.1)
      (m.tick (Around.context now upstream n a) d w) := by
  cases m with
  | cpu m => exact outcome_cpuTick m d.rand w
  | cache m => exact outcome_tryForward m w
  | memory => exact .quiet id
  | crossbar m => exact outcome_crossbarTick m w
  | arbiter m => exact outcome_arbiterTick m w
  | router => exact .quiet id
  | trafficGen m => exact outcome_trafficTick m d w

/-! ### Events -/

theorem outcome_fire (m : Module) {k : Nat} {e : Deferred} {w : Heap × Around}
    (hk : w.2.events[k]? = some e) :
    Outcome a (m.Sound w) (w.2.pop k) (m.eventSends (Around.context now upstream n a) e w.1)
      (m.runDeferred (Around.context now upstream n a) e (w.1, w.2.pop k)) := by
  cases e with
  | respond j p => exact .quiet fun hs => (hs.pop_respond hk).hand a.ops
  | tryForward =>
      have hs : m.Sound w → m.Sound (w.1, w.2.pop k) := fun hs => hs.pop_tryForward hk
      cases m with
      | cache m => exact (outcome_tryForward m (w.1, w.2.pop k)).imp hs
      | _ => exact .quiet hs

/-! ### Handlers -/

variable {m : Module} {p : PacketId} {l : List PacketId} {w : Heap × Around}

/-- Packets that are lost. -/
theorem Holds.leak (hh : m.Holds l w) : m.Sound w :=
  ⟨hh.owns.sublist ((List.sublist_append_right l _).append_right _), hh.silent⟩

/-- An answer that is scheduled. -/
theorem Holds.respond {h : Heap} {x : Around} (hh : m.Holds (p :: l) (h, x)) (j : Nat) :
    m.Holds l (h, { x with events := x.events ++ [.respond j p] }) := by
  refine ⟨hh.owns.mono fun r => ?_, hh.silent⟩
  have hresp : ({ x with events := x.events ++ [.respond j p] } : Around).responses =
      x.responses ++ [p] := List.filterMap_append
  show ((l ++ (m.queue ++ ({ x with events := x.events ++ [.respond j p] } : Around).responses)) ++
    x.held).count r ≤ (p :: ((l ++ (m.queue ++ x.responses)) ++ x.held)).count r
  simp only [hresp, List.count_append, List.count_cons, List.count_nil]
  omega

/-- A request that is queued. -/
theorem Holds.enqueue {k : Module} (hh : m.Holds (p :: l) w) (hq : k.queue = m.queue ++ [p]) :
    k.Holds l w := by
  refine ⟨hh.owns.mono fun r => ?_, hh.silent⟩
  simp only [hq, List.count_append, List.count_cons, List.count_nil, List.cons_append]
  omega

/-- The answer of a memory and of a hit. -/
theorem Holds.answer (hh : m.Holds (p :: l) w) (now : UInt64) (vcId : Int) :
    m.Holds (((w.1.setResponseOk p).newResp now p vcId).1 :: l)
      (((w.1.setResponseOk p).newResp now p vcId).2.delete p, w.2) :=
  ⟨Heap.Owns.respond hh.owns now vcId, hh.silent⟩

theorem holds_cacheRequest {m : CacheSim} (hh : (Module.cache m).Holds (p :: l) w) (srcId : Nat) :
    Holds (.cache (m.handleUpstreamRequest (Around.context now upstream n a) p srcId w).2.1) l
      (m.handleUpstreamRequest (Around.context now upstream n a) p srcId w).2.2 := by
  cases hf : m.full with
  | true =>
      rw [CacheSim.handleUpstreamRequest_full hf]
      exact hh.delete
  | false =>
      cases hhit : CacheSim.hit w.1 p with
      | true =>
          rw [CacheSim.handleUpstreamRequest_hit hf hhit]
          exact (hh.answer now _).respond srcId
      | false =>
          rw [CacheSim.handleUpstreamRequest_miss hf hhit]
          have hq := hh.enqueue (k := .cache { m with reqBuffer := m.reqBuffer ++ [p] }) rfl
          refine ⟨hq.owns.mono fun r => ?_, hq.silent⟩
          have hresp : ({ w.2 with events := w.2.events ++ [.tryForward] } : Around).responses =
              w.2.responses := List.filterMap_append.trans (List.append_nil _)
          show ((l ++ (_ ++ ({ w.2 with events := w.2.events ++ [.tryForward] } :
            Around).responses)) ++ w.2.held).count r ≤ _
          rw [hresp]

theorem outcome_request (direct : Bool) (srcId : Nat) :
    Outcome a (m.Holds [p] w) w.2
      (m.handlerSends (Around.context now upstream n a) direct p w.1)
      (m.handleBy direct .handleUpstreamRequest (Around.context now upstream n a) p srcId
        w).2 := by
  cases m with
  | cache m => cases direct <;> exact .quiet fun hh => holds_cacheRequest hh srcId
  | memory => cases direct <;> exact .quiet fun hh => (hh.answer now _).respond srcId
  | cpu m => cases direct <;> exact .quiet Holds.delete
  | trafficGen m => cases direct <;> exact .quiet Holds.delete
  | crossbar m =>
      cases direct with
      | false => exact .quiet Holds.delete
      | true => exact .quiet fun hh => hh.enqueue List.map_append
  | arbiter m =>
      cases direct with
      | false => exact .quiet Holds.delete
      | true => exact .quiet fun hh => hh.enqueue List.map_append
  | router =>
      cases direct with
      | false => exact .quiet Holds.delete
      | true =>
          unfold handlerSends Router.sends
          by_cases hroute : Router.routeByAddress (w.1.address p) <
              (Around.context now upstream n a).downstream
          · have hr : (Module.router.handleBy true .handleUpstreamRequest
                (Around.context now upstream n a) p srcId w).2 =
                (.router, (Around.sendReq a (Router.routeByAddress (w.1.address p)) p w).2) := by
              show (Module.router, (Router.handleUpstreamRequest _ p w).2) = _
              unfold Router.handleUpstreamRequest
              rw [if_pos hroute]
              rfl
            rw [if_pos hroute, hr]
            cases hs : (Around.sendReq a (Router.routeByAddress (w.1.address p)) p w).1 with
            | true => exact .taken (k := .router) Holds.owns hs
            | false => exact .refused hs rfl
          · have hr : (Module.router.handleBy true .handleUpstreamRequest
                (Around.context now upstream n a) p srcId w).2 =
                (.router, (w.1.delete p, w.2)) := by
              show (Module.router, (Router.handleUpstreamRequest _ p w).2) = _
              unfold Router.handleUpstreamRequest
              rw [if_neg hroute]
            rw [if_neg hroute, hr]
            exact .quiet Holds.delete

theorem sound_cacheResponse {m : CacheSim}
    (hh : (Module.cache m).Holds (p :: ((w.1.packet p).originalReq).toList) w) (srcId : Nat) :
    Sound (.cache (m.handleDownstreamResponse (Around.context now upstream n a) p srcId w).2.1)
      (m.handleDownstreamResponse (Around.context now upstream n a) p srcId w).2.2 := by
  unfold CacheSim.handleDownstreamResponse
  split
  · exact hh.leak
  · next req hreq =>
      rw [hreq] at hh
      have ho : w.1.Owns (p :: req :: (((Module.cache m).queue ++ w.2.responses) ++ w.2.held)) :=
        hh.owns
      have hnew : (((w.1.newResp now req (w.1.packet p).vcId).2.delete p).delete req).Owns
          (w.1.nextPacket :: (((Module.cache m).queue ++ w.2.responses) ++ w.2.held)) := by
        refine Heap.Owns.delete (Heap.Owns.delete ((ho.new _).mono fun r => ?_))
        simp only [List.count_append, List.count_cons]
        omega
      exact Holds.respond (m := .cache m) (l := []) (x := w.2) ⟨hnew, hh.silent⟩ (srcId % upstream)

theorem sound_response (direct : Bool) (srcId : Nat)
    (hh : m.Holds (p :: if m.cls = .cacheSim then ((w.1.packet p).originalReq).toList else []) w) :
    Sound (m.handleBy direct .handleDownstreamResponse (Around.context now upstream n a) p srcId
      w).2.1 (m.handleBy direct .handleDownstreamResponse (Around.context now upstream n a) p srcId
        w).2.2 := by
  cases m with
  | cache m => cases direct <;> exact sound_cacheResponse hh srcId
  | memory => cases direct <;> exact hh.delete.leak
  | cpu m =>
      have hcpu : ∀ r, r = m.handleDownstreamResponse p w → Sound (.cpu r.2.1) r.2.2 := by
        rintro r rfl
        unfold CPUSim.handleDownstreamResponse
        have hd := hh.delete.leak
        split
        · exact hd.lose fun _ => Nat.le_refl _
        · exact hd
      cases direct <;> exact hcpu _ rfl
  | trafficGen m =>
      cases direct with
      | false => exact hh.delete.leak
      | true =>
          have htg : ∀ r, r = m.handleDownstreamResponse p w → Sound (.trafficGen r.2.1) r.2.2 := by
            rintro r rfl
            unfold TrafficGenerator.handleDownstreamResponse
            split
            · exact hh.delete.leak.lose fun _ => Nat.le_refl _
            · exact hh.leak
          exact htg _ rfl
  | crossbar m => cases direct <;> exact hh.delete.leak
  | arbiter m => cases direct <;> exact hh.delete.leak
  | router =>
      cases direct with
      | false => exact hh.delete.leak
      | true =>
          have hrt : ∀ r, r = Router.handleDownstreamResponse (Around.context now upstream n a) p
              srcId w → Sound .router r.2 := by
            rintro r rfl
            unfold Router.handleDownstreamResponse
            split
            · exact hh.hand a.ops
            · exact hh.delete.leak
          exact hrt _ rfl

end Functions

end Module

end Gem5Sc
