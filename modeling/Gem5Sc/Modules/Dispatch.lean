/-
  File:      Gem5Sc/Modules/Dispatch.lean
  Subject:   WHICH HANDLER A PACKET REACHES: from the type name in a configuration to the function
             that runs.

  Three steps decide it. The registry turns the type name into a class (`registerObject`). A port
  the factory creates has the owner type `SimObject`, so it calls through the two virtual functions
  of `SimObject`. And a function of a class overrides such a virtual function only with the same
  three parameters; one with two parameters hides it, and the call stays with `SimObject`
  (`handle_eq`).
-/
import Gem5Sc.Modules
import Gem5Sc.ModuleFactory.Instances

namespace Gem5Sc

/-- The classes of `modules.hh`. -/
inductive ModuleClass where
  | cpuSim | cacheSim | memorySim | crossbar | router | arbiter | trafficGenerator
  deriving DecidableEq, Repr

/-- `REGISTER_OBJECT`. -/
def registerObject : List (String × ModuleClass) :=
  [("CPUSim", .cpuSim),
   ("CacheSim", .cacheSim),
   ("MemorySim", .memorySim),
   ("Crossbar", .memorySim),
   ("Router", .memorySim),
   ("Arbiter", .memorySim),
   ("TrafficGenerator", .trafficGenerator)]

/-- The two virtual functions a port calls its owner through. -/
inductive Callback where
  | handleUpstreamRequest
  | handleDownstreamResponse
  deriving DecidableEq, Repr

/-- How many parameters the class's own function of that name has, if there is one. -/
def ModuleClass.params : ModuleClass → Callback → Option Nat
  | .cpuSim, .handleUpstreamRequest => none
  | .cpuSim, .handleDownstreamResponse => some 3
  | .cacheSim, _ => some 3
  | .memorySim, .handleUpstreamRequest => some 3
  | .memorySim, .handleDownstreamResponse => none
  | .crossbar, _ => some 2
  | .router, _ => some 2
  | .arbiter, _ => some 2
  | .trafficGenerator, .handleUpstreamRequest => none
  | .trafficGenerator, .handleDownstreamResponse => some 2

variable {ρ : Type}

namespace Module

/-- The class of a module. -/
def cls : Module → ModuleClass
  | .cpu _ => .cpuSim
  | .cache _ => .cacheSim
  | .memory => .memorySim
  | .crossbar _ => .crossbar
  | .arbiter _ => .arbiter
  | .router => .router
  | .trafficGen _ => .trafficGenerator

/-- The class's own function, whatever its parameters; that of `SimObject` where it has none. -/
def own (f : Callback) (c : Context ρ) (m : Module) (p : PacketId) (srcId : Nat)
    (w : Heap × ρ) : Bool × Module × (Heap × ρ) :=
  match f, m with
  | .handleUpstreamRequest, .cache m =>
      let r := m.handleUpstreamRequest c p srcId w; (r.1, .cache r.2.1, r.2.2)
  | .handleUpstreamRequest, .memory =>
      let r := MemorySim.handleUpstreamRequest c p srcId w; (r.1, .memory, r.2)
  | .handleUpstreamRequest, .crossbar m =>
      let r := m.handleUpstreamRequest p srcId w; (r.1, .crossbar r.2.1, r.2.2)
  | .handleUpstreamRequest, .arbiter m =>
      let r := m.handleUpstreamRequest p srcId w; (r.1, .arbiter r.2.1, r.2.2)
  | .handleUpstreamRequest, .router =>
      let r := Router.handleUpstreamRequest c p w; (r.1, .router, r.2)
  | .handleDownstreamResponse, .cpu m =>
      let r := m.handleDownstreamResponse p w; (r.1, .cpu r.2.1, r.2.2)
  | .handleDownstreamResponse, .cache m =>
      let r := m.handleDownstreamResponse c p srcId w; (r.1, .cache r.2.1, r.2.2)
  | .handleDownstreamResponse, .crossbar m =>
      let r := m.handleDownstreamResponse p w; (r.1, .crossbar r.2.1, r.2.2)
  | .handleDownstreamResponse, .arbiter m =>
      let r := m.handleDownstreamResponse p w; (r.1, .arbiter r.2.1, r.2.2)
  | .handleDownstreamResponse, .router =>
      let r := Router.handleDownstreamResponse c p srcId w; (r.1, .router, r.2)
  | .handleDownstreamResponse, .trafficGen m =>
      let r := m.handleDownstreamResponse p w; (r.1, .trafficGen r.2.1, r.2.2)
  | _, m => let r := SimObject.handleDefault p w; (r.1, m, r.2)

/-- The call of a port with the owner type `SimObject`. -/
def handle (f : Callback) (c : Context ρ) (m : Module) (p : PacketId) (srcId : Nat)
    (w : Heap × ρ) : Bool × Module × (Heap × ρ) :=
  match f with
  | .handleUpstreamRequest => m.handleUpstreamRequest c p srcId w
  | .handleDownstreamResponse => m.handleDownstreamResponse c p srcId w

/-- **Three parameters override**, any other number leaves the call with `SimObject`. -/
theorem handle_eq (f : Callback) (c : Context ρ) (m : Module) (p : PacketId) (srcId : Nat)
    (w : Heap × ρ) :
    m.handle f c p srcId w =
      if m.cls.params f = some 3 then m.own f c p srcId w
      else ((SimObject.handleDefault p w).1, m, (SimObject.handleDefault p w).2) := by
  cases f <;> cases m <;> rfl

theorem handle_of_override {f : Callback} {m : Module} (h : m.cls.params f = some 3)
    (c : Context ρ) (p : PacketId) (srcId : Nat) (w : Heap × ρ) :
    m.handle f c p srcId w = m.own f c p srcId w := by
  rw [handle_eq, if_pos h]

/-- A packet that stays with `SimObject` is deleted. -/
theorem handle_of_not_override {f : Callback} {m : Module} (h : m.cls.params f ≠ some 3)
    (c : Context ρ) (p : PacketId) (srcId : Nat) (w : Heap × ρ) :
    m.handle f c p srcId w = (false, m, (w.1.delete p, w.2)) := by
  rw [handle_eq, if_neg h]
  rfl

/-- No function changes the class. -/
theorem own_cls (f : Callback) (c : Context ρ) (m : Module) (p : PacketId) (srcId : Nat)
    (w : Heap × ρ) : (m.own f c p srcId w).2.1.cls = m.cls := by
  cases f <;> cases m <;> rfl

/-- The call does to the packet what the function of class `k` does. -/
def ProcessedBy (k : ModuleClass) (f : Callback) (c : Context ρ) (m : Module) (p : PacketId)
    (srcId : Nat) (w : Heap × ρ) : Prop :=
  ∃ m' : Module, m'.cls = k ∧ m.handle f c p srcId w = m'.own f c p srcId w

/-- A module whose class overrides the function is the one that processes. -/
theorem processedBy_of_override {f : Callback} {m : Module} (h : m.cls.params f = some 3)
    (c : Context ρ) (p : PacketId) (srcId : Nat) (w : Heap × ρ) :
    ProcessedBy m.cls f c m p srcId w :=
  ⟨m, rfl, handle_of_override h c p srcId w⟩

/-- A module of another class does not. -/
theorem not_processedBy_of_cls_ne {k : ModuleClass} {m : Module} (h : m.cls ≠ k) (f : Callback)
    (c : Context ρ) (p : PacketId) (srcId : Nat) (w : Heap × ρ) :
    ¬ ProcessedBy k f c m p srcId w := by
  rintro ⟨m', rfl, e⟩
  have hcls : (m.handle f c p srcId w).2.1.cls = m.cls := by
    rw [handle_eq]
    split
    · exact own_cls f c m p srcId w
    · rfl
  rw [e, own_cls] at hcls
  exact h hcls.symm

/-- Nor does a `TrafficGenerator`: a response it takes is deleted, one it refuses is not, and
    `SimObject` deletes and refuses. -/
theorem not_processedBy_trafficGenerator {m : Module} (h : m.cls = .trafficGenerator)
    (c : Context ρ) (p : PacketId) (srcId : Nat) (w : Heap × ρ) :
    ¬ ProcessedBy .trafficGenerator .handleDownstreamResponse c m p srcId w := by
  intro ⟨m', hm', e⟩
  rw [handle_of_not_override (by rw [h]; decide)] at e
  cases m' with
  | trafficGen g =>
      simp only [own, TrafficGenerator.handleDownstreamResponse] at e
      split at e
      · cases e
      · have hrel := congrArg (fun r => r.2.2.1.released.length) e
        simp at hrel
  | _ => cases hm'

end Module

/-- The class a type name stands for, for the packets these classes are there to handle: any
    packet of a Crossbar, a Router or an Arbiter, and what arrives at a TrafficGenerator. -/
def namedClass (type : String) (f : Callback) : Option ModuleClass :=
  if type = "Crossbar" then some .crossbar
  else if type = "Router" then some .router
  else if type = "Arbiter" then some .arbiter
  else if type = "TrafficGenerator" ∧ f = .handleDownstreamResponse then some .trafficGenerator
  else none

/-- What is registered under these names. -/
theorem lookup_of_namedClass {type : String} {f : Callback} {k : ModuleClass}
    (h : namedClass type f = some k) :
    registerObject.lookup type = some .memorySim ∧ k ≠ .memorySim ∨
      registerObject.lookup type = some .trafficGenerator ∧ k = .trafficGenerator ∧
        f = .handleDownstreamResponse := by
  unfold namedClass at h
  split at h
  · next e =>
      cases h
      exact Or.inl ⟨e ▸ rfl, by decide⟩
  · split at h
    · next e =>
        cases h
        exact Or.inl ⟨e ▸ rfl, by decide⟩
    · split at h
      · next e =>
          cases h
          exact Or.inl ⟨e ▸ rfl, by decide⟩
      · split at h
        · next e =>
            cases h
            exact Or.inr ⟨e.1 ▸ rfl, rfl, e.2⟩
        · cases h

/-- **NO PACKET REACHES THE NAMED CLASS.** For every configuration, every entry with one of these
    types, every module of the class that is registered for it, in any state, and every packet one
    of its ports hands over: the named class's function does not process it. A request is answered
    by `MemorySim`, and what comes from downstream is deleted by `SimObject`. -/
theorem named_not_reached (final : Json) (e : String × String) (_he : e ∈ moduleEntries final)
    (f : Callback) (k : ModuleClass) (hk : namedClass e.2 f = some k) (c : Context ρ) (m : Module)
    (hm : registerObject.lookup e.2 = some m.cls) (p : PacketId) (srcId : Nat) (w : Heap × ρ) :
    ¬ m.ProcessedBy k f c p srcId w ∧
      m.handle f c p srcId w =
        match f with
        | .handleUpstreamRequest => (true, .memory, (MemorySim.handleUpstreamRequest c p srcId w).2)
        | .handleDownstreamResponse => (false, m, (w.1.delete p, w.2)) := by
  rcases lookup_of_namedClass hk with ⟨hreg, hne⟩ | ⟨hreg, rfl, rfl⟩
  · rw [hreg, Option.some.injEq] at hm
    refine ⟨Module.not_processedBy_of_cls_ne (hm ▸ hne.symm) f c p srcId w, ?_⟩
    cases m with
    | memory => cases f <;> rfl
    | _ => cases hm
  · rw [hreg, Option.some.injEq] at hm
    exact ⟨Module.not_processedBy_trafficGenerator hm.symm c p srcId w,
      Module.handle_of_not_override (by rw [← hm]; decide) c p srcId w⟩

/-- A configuration with one Crossbar. -/
def oneCrossbar : Json :=
  .obj [("modules", .arr [.obj [("name", .str "xbar"), ("type", .str "Crossbar")]])]

/-- One port on either side; what is scheduled is written down. -/
def onePort : Context (List Deferred) where
  now := 0
  upstream := 1
  downstream := 1
  sendReq _ _ w := (true, w)
  sendResp _ _ w := (true, w)
  tickUpstream _ w := w
  tickDownstream _ w := w
  schedule e _ r := r ++ [e]

/-- A read request with its payload. -/
def oneRequest : Heap := (({} : Heap).newRequest {} {}).2

theorem named_not_reached_oneCrossbar :
    ¬ Module.memory.ProcessedBy .crossbar .handleUpstreamRequest onePort 0 0 (oneRequest, []) ∧
      Module.memory.handle .handleUpstreamRequest onePort 0 0 (oneRequest, []) =
        (true, .memory, (MemorySim.handleUpstreamRequest onePort 0 0 (oneRequest, [])).2) :=
  named_not_reached oneCrossbar ("xbar", "Crossbar") (List.mem_singleton_self _)
    .handleUpstreamRequest .crossbar rfl onePort .memory rfl 0 0 (oneRequest, [])

/-- The request is not queued: a response is scheduled, and the request is deleted. -/
theorem oneCrossbar_not_reached :
    ("xbar", "Crossbar") ∈ moduleEntries oneCrossbar ∧
      registerObject.lookup "Crossbar" = some Module.memory.cls ∧
      ¬ Module.memory.ProcessedBy .crossbar .handleUpstreamRequest onePort 0 0 (oneRequest, []) ∧
      (Module.memory.handle .handleUpstreamRequest onePort 0 0 (oneRequest, [])).2.2.2 =
        [.respond 0 1] ∧
      (Module.memory.handle .handleUpstreamRequest onePort 0 0 (oneRequest, [])).2.2.1.released =
        [0] :=
  ⟨List.mem_singleton_self _, rfl,
    Module.not_processedBy_of_cls_ne (by decide) _ _ _ _ _, rfl, rfl⟩

end Gem5Sc
