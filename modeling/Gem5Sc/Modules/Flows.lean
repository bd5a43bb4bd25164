/-
  File:      Gem5Sc/Modules/Flows.lean
  Subject:   THE ORDER OF REQUESTS THROUGH CROSSBAR AND ARBITER, under backpressure.

  Both modules keep one queue for all sources and outputs. A `tick` takes the head; if `sendReq`
  refuses it, it is pushed again, at the back, where CacheSim leaves a refused head in front. So a
  later request of the same source to the same output may overtake it.

  The two are one machine (`SwitchKind`): a queue whose refused head goes to the back
  (`Library/Requeue.lean`), with pairs of source and output for its flows. `abs_step` is the
  simulation. Packets are identities, and the heap that gives their addresses stays as it is.
-/
import Gem5Sc.Library.Requeue
import Gem5Sc.Modules

namespace Gem5Sc

/-- The two modules with a single request queue. -/
inductive SwitchKind where
  | crossbar | arbiter
  deriving DecidableEq, Repr

namespace SwitchKind

/-- `class Crossbar` or `class Arbiter`. -/
def Module : SwitchKind → Type
  | .crossbar => Crossbar
  | .arbiter => Arbiter

/-- As the constructor leaves it. -/
def fresh : (k : SwitchKind) → k.Module
  | .crossbar => ({} : Crossbar)
  | .arbiter => ({} : Arbiter)

/-- `req_queue`. -/
def reqQueue : (k : SwitchKind) → k.Module → List (PacketId × Nat)
  | .crossbar, m => Crossbar.reqQueue m
  | .arbiter, m => Arbiter.reqQueue m

variable {ρ : Type}

def handleUpstreamRequest : (k : SwitchKind) → k.Module → PacketId → Nat → Heap × ρ →
    Bool × k.Module × (Heap × ρ)
  | .crossbar, m => Crossbar.handleUpstreamRequest m
  | .arbiter, m => Arbiter.handleUpstreamRequest m

def tick : (k : SwitchKind) → Context ρ → k.Module → Heap × ρ → k.Module × (Heap × ρ)
  | .crossbar, c, m => Crossbar.tick c m
  | .arbiter, c, m => Arbiter.tick c m

/-- The output a packet goes to: `Crossbar::route`, or the first port. -/
def output (k : SwitchKind) (c : Context ρ) (p : PacketId) (h : Heap) : Nat :=
  match k with
  | .crossbar => Crossbar.route c p h
  | .arbiter => 0

end SwitchKind

/-- A request with its source and its output. -/
structure Routed where
  packet : PacketId
  src : Nat
  out : Nat
  deriving DecidableEq, Repr

/-- Requests of one source to one output. -/
def Routed.flow (x : Routed) : Nat × Nat := (x.src, x.out)

/-- A module, the requests it has taken in and those the downstream ports have accepted. -/
structure Traffic (k : SwitchKind) where
  switch : k.Module := k.fresh
  arrived : List Routed := []
  forwarded : List Routed := []

/-- A request arrives from a source, or the module is ticked and `sendReq` answers. -/
inductive TrafficAct where
  | arrive (p : PacketId) (src : Nat)
  | tick (accepted : Bool)

/-- Downstream ports that answer `accepted`, with the packets they take. -/
def answering (n : Nat) (accepted : Bool) : Context (List (PacketId × Nat)) where
  now := 0
  upstream := 0
  downstream := n
  sendReq i p w := (accepted, (w.1, if accepted then w.2 ++ [(p, i)] else w.2))
  sendResp _ _ w := (false, w)
  tickUpstream _ w := w
  tickDownstream _ w := w
  schedule _ _ r := r

namespace Traffic

variable {k : SwitchKind}

/-- A queue entry with its output. -/
def routed (k : SwitchKind) (n : Nat) (h : Heap) (x : PacketId × Nat) : Routed where
  packet := x.1
  src := x.2
  out := k.output (answering n true) x.1 h

def step (n : Nat) (h : Heap) (s : Traffic k) : TrafficAct → Traffic k
  | .arrive p src =>
      let r := k.handleUpstreamRequest s.switch p src (h, ())
      { s with switch := r.2.1,
               arrived := if r.1 then s.arrived ++ [routed k n h (p, src)] else s.arrived }
  | .tick accepted =>
      let src := ((k.reqQueue s.switch).head?.map Prod.snd).getD 0
      let r := k.tick (answering n accepted) s.switch (h, [])
      { s with switch := r.1,
               forwarded := s.forwarded ++ r.2.2.map fun x => ⟨x.1, src, x.2⟩ }

/-! ## 1. The two modules as a queue -/

section Spec

variable {n : Nat} {h : Heap} {m : k.Module}

theorem reqQueue_fresh (k : SwitchKind) : k.reqQueue k.fresh = [] := by
  cases k <;> rfl

/-- Every request is taken in, at the back. -/
theorem handleUpstreamRequest_spec (m : k.Module) (p : PacketId) (src : Nat) (w : Heap × Unit) :
    (k.handleUpstreamRequest m p src w).1 = true ∧
      k.reqQueue (k.handleUpstreamRequest m p src w).2.1 = k.reqQueue m ++ [(p, src)] := by
  cases k <;> exact ⟨rfl, rfl⟩

theorem tick_nil (accepted : Bool) (hq : k.reqQueue m = []) :
    k.reqQueue (k.tick (answering n accepted) m (h, [])).1 = [] ∧
      (k.tick (answering n accepted) m (h, [])).2.2 = [] := by
  cases k with
  | crossbar =>
      have hq' : Crossbar.reqQueue m = [] := hq
      simp only [SwitchKind.tick, SwitchKind.reqQueue, Crossbar.tick, hq', and_self]
  | arbiter =>
      have hq' : Arbiter.reqQueue m = [] := hq
      simp only [SwitchKind.tick, SwitchKind.reqQueue, Arbiter.tick, hq', and_self]

/-- **A tick with a head**: forwarded to its output, or back to the end of the queue. -/
theorem tick_cons (hn : 0 < n) (accepted : Bool) {p : PacketId} {src : Nat}
    {rest : List (PacketId × Nat)} (hq : k.reqQueue m = (p, src) :: rest) :
    k.reqQueue (k.tick (answering n accepted) m (h, [])).1 =
        (if accepted then rest else rest ++ [(p, src)]) ∧
      (k.tick (answering n accepted) m (h, [])).2.2 =
        if accepted then [(p, k.output (answering n true) p h)] else [] := by
  cases k with
  | crossbar =>
      have hq' : Crossbar.reqQueue m = (p, src) :: rest := hq
      have hroute : Crossbar.route (answering n accepted) p h = (h.address p).toNat % n :=
        if_neg (Nat.pos_iff_ne_zero.mp hn)
      have hroute' : Crossbar.route (answering n true) p h = (h.address p).toNat % n :=
        if_neg (Nat.pos_iff_ne_zero.mp hn)
      have hlt : (h.address p).toNat % n < (answering n accepted).downstream := Nat.mod_lt _ hn
      simp only [SwitchKind.tick, SwitchKind.reqQueue, SwitchKind.output, Crossbar.tick, hq',
        hroute, hroute', if_pos hlt]
      cases accepted <;> exact ⟨rfl, rfl⟩
  | arbiter =>
      have hq' : Arbiter.reqQueue m = (p, src) :: rest := hq
      have hne : (answering n accepted).downstream ≠ 0 := Nat.pos_iff_ne_zero.mp hn
      simp only [SwitchKind.tick, SwitchKind.reqQueue, SwitchKind.output, Arbiter.tick, hq',
        if_pos hne]
      cases accepted <;> exact ⟨rfl, rfl⟩

end Spec

open Library (Requeue)

/-- The queue the module is. -/
def abs (n : Nat) (h : Heap) (s : Traffic k) : Requeue Routed where
  arrived := s.arrived
  queue := (k.reqQueue s.switch).map (routed k n h)
  served := s.forwarded

def label (k : SwitchKind) (n : Nat) (h : Heap) : TrafficAct → Requeue.Act Routed
  | .arrive p src => .arrive (routed k n h (p, src))
  | .tick accepted => .serve accepted

/-- **The simulation.** -/
theorem abs_step {n : Nat} (hn : 0 < n) (h : Heap) (s : Traffic k) (a : TrafficAct) :
    (s.step n h a).abs n h = (s.abs n h).step (label k n h a) := by
  cases a with
  | arrive p src =>
      obtain ⟨htaken, hqueue⟩ := handleUpstreamRequest_spec s.switch p src (h, ())
      simp only [step, abs, label, Requeue.step, htaken, hqueue, if_true, List.map_append,
        List.map_cons, List.map_nil]
  | tick accepted =>
      cases hq : k.reqQueue s.switch with
      | nil =>
          obtain ⟨hqueue, hsent⟩ := tick_nil (n := n) (h := h) accepted hq
          have hempty : (s.abs n h).queue = [] := by
            simp only [abs, hq, List.map_nil]
          show _ = (s.abs n h).step (.serve accepted)
          rw [Requeue.step_serve_nil hempty]
          simp only [step, abs, hqueue, hsent, hq, List.map_nil, List.append_nil]
      | cons x rest =>
          obtain ⟨hqueue, hsent⟩ := tick_cons (h := h) hn accepted hq
          have hhead : (s.abs n h).queue = routed k n h x :: rest.map (routed k n h) := by
            simp only [abs, hq, List.map_cons]
          show _ = (s.abs n h).step (.serve accepted)
          cases accepted with
          | true =>
              rw [Requeue.step_accepted hhead]
              simp only [step, abs, hqueue, hsent, hq, if_true, List.map_cons, List.map_nil]
              rfl
          | false =>
              rw [Requeue.step_refused hhead]
              simp only [step, abs, hqueue, hsent, Bool.false_eq_true, if_false, List.map_append,
                List.map_cons, List.map_nil, List.append_nil]

/-! ## 2. The law -/

/-- Each request is forwarded at most once and none is lost. -/
def Conserved (n : Nat) (h : Heap) (s : Traffic k) : Prop :=
  (s.forwarded ++ (k.reqQueue s.switch).map (routed k n h)).Perm s.arrived

/-- The requests of each source to each output were accepted in the order of their arrival. -/
def InOrder (s : Traffic k) : Prop :=
  ∀ src out, s.forwarded.filter (·.flow = (src, out)) <+: s.arrived.filter (·.flow = (src, out))

/-- They are, and will be when everything that waits is accepted. -/
def StaysInOrder (n : Nat) (h : Heap) (s : Traffic k) : Prop :=
  ∀ j, InOrder (Library.run (step n h) s (List.replicate j (.tick true)))

/-- If the head is refused, no other request of its source to its output waits behind it. -/
def ProperTick (n : Nat) (h : Heap) (s : Traffic k) (a : TrafficAct) : Prop :=
  a = .tick false → ∀ x rest, k.reqQueue s.switch = x :: rest → ∀ y ∈ rest,
    (routed k n h y).flow = (routed k n h x).flow → routed k n h y = routed k n h x

section Law

variable {n : Nat} {h : Heap}

theorem inOrder_iff {s : Traffic k} : InOrder s ↔ Requeue.InOrder Routed.flow (s.abs n h) :=
  ⟨fun hs f => hs f.1 f.2, fun hs src out => hs (src, out)⟩

theorem staysInOrder_iff (hn : 0 < n) {s : Traffic k} :
    StaysInOrder n h s ↔ Requeue.StaysInOrder Routed.flow (s.abs n h) := by
  refine forall_congr' fun j => ?_
  rw [inOrder_iff (n := n) (h := h),
    Library.run_simulation (abs n h) (label k n h) (abs_step hn h), List.map_replicate]
  rfl

theorem properTick_iff {s : Traffic k} {a : TrafficAct} :
    ProperTick n h s a ↔ Requeue.Harmless Routed.flow (s.abs n h) (label k n h a) := by
  constructor
  · intro hp ha x rest hq y hy hflow
    have ha' : a = .tick false := by
      cases a with
      | arrive p src => cases ha
      | tick accepted => exact congrArg TrafficAct.tick (Requeue.Act.serve.inj ha)
    obtain ⟨x', rest', hq', rfl, rfl⟩ := List.map_eq_cons_iff.mp hq
    obtain ⟨y', hy', rfl⟩ := List.mem_map.mp hy
    exact hp ha' x' rest' hq' y' hy' hflow
  · intro hh ha x rest hq y hy hflow
    subst ha
    have hqueue : (s.abs n h).queue = routed k n h x :: rest.map (routed k n h) := by
      simp only [abs, hq, List.map_cons]
    exact hh rfl _ _ hqueue _ (List.mem_map_of_mem hy) hflow

/-- **CROSSBAR AND ARBITER UNDER BACKPRESSURE.** For either module with at least one downstream
    port, every sequence of arriving requests and ticks and every pattern of answers: each request
    is forwarded at most once and none is lost; and the requests of each source to each output are
    accepted downstream in the order in which they arrived, now and when what waits is accepted,
    exactly when no head is refused while another request of its source to its output waits behind
    it. -/
theorem order_iff_proper (k : SwitchKind) (n : Nat) (hn : 0 < n) (h : Heap)
    (acts : List TrafficAct) :
    Library.Everywhere (step n h) (Conserved n h) ({} : Traffic k) acts ∧
    (Library.Everywhere (step n h) (StaysInOrder n h) ({} : Traffic k) acts ↔
      Library.Along (step n h) (ProperTick n h) ({} : Traffic k) acts) := by
  have hstart : ({} : Traffic k).abs n h = {} := by
    simp only [abs, reqQueue_fresh, List.map_nil]
  have hconserved := Requeue.conserved_run (acts.map (label k n h))
  rw [← hstart] at hconserved
  refine ⟨(Library.everywhere_simulation (abs n h) (label k n h) (abs_step hn h) _ _).mpr
    hconserved, ?_⟩
  have horder := Requeue.inOrder_iff_harmless Routed.flow (acts.map (label k n h))
  rw [← hstart] at horder
  rw [← Library.everywhere_simulation (abs n h) (label k n h) (abs_step hn h),
    ← Library.along_simulation (abs n h) (label k n h) (abs_step hn h)] at horder
  have horders : StaysInOrder n h =
      fun s : Traffic k => Requeue.StaysInOrder Routed.flow (s.abs n h) :=
    funext fun s => propext (staysInOrder_iff hn)
  have hproper : ProperTick n h =
      fun (s : Traffic k) a => Requeue.Harmless Routed.flow (s.abs n h) (label k n h a) :=
    funext fun s => funext fun a => propext properTick_iff
  rw [horders, hproper]
  exact horder

/-- With one port, two sources and a refusal that nothing of the same flow waits behind. -/
theorem order_iff_proper_twoSources :
    Library.Everywhere (step 1 {}) (StaysInOrder 1 {}) ({} : Traffic .arbiter)
      [.arrive 0 0, .arrive 1 1, .tick false, .tick true, .tick true] := by
  refine (order_iff_proper .arbiter 1 (by decide) {} _).2.mpr
    ⟨nofun, nofun, ?_, nofun, nofun, trivial⟩
  intro _ x rest hq y hy hflow
  obtain ⟨rfl, rfl⟩ := List.cons.inj hq
  obtain rfl := List.mem_singleton.mp hy
  exact absurd hflow (by decide)

/-- **The overtaking.** Requests 0 and 1 of one source arrive, the first is refused, and request 1
    is forwarded before request 0. -/
theorem refused_overtaken :
    let acts : List TrafficAct := [.arrive 0 0, .arrive 1 0, .tick false, .tick true]
    let crossbar : Traffic .crossbar := Library.run (step 1 {}) {} acts
    let arbiter : Traffic .arbiter := Library.run (step 1 {}) {} acts
    (crossbar.arrived = [⟨0, 0, 0⟩, ⟨1, 0, 0⟩] ∧ crossbar.forwarded = [⟨1, 0, 0⟩] ∧
      ¬ InOrder crossbar) ∧
    arbiter.arrived = [⟨0, 0, 0⟩, ⟨1, 0, 0⟩] ∧ arbiter.forwarded = [⟨1, 0, 0⟩] ∧
      ¬ InOrder arbiter := by
  have hlate : ¬ [(⟨1, 0, 0⟩ : Routed)] <+: [⟨0, 0, 0⟩, ⟨1, 0, 0⟩] := by decide
  refine ⟨⟨rfl, rfl, fun horder => ?_⟩, rfl, rfl, fun horder => ?_⟩
  · exact hlate (horder 0 0)
  · exact hlate (horder 0 0)

end Law

end Traffic

end Gem5Sc
