/-
  File:      Gem5Sc/Network.lean
  Subject:   THE NETWORK: the modules, their ports and the pending `LambdaEvent`s, under every order
             of events.

  The event queue fixes an order of the ticks and of the `LambdaEvent`s, and no module ticks its
  ports. Here any of these may happen at any time (`Action`): a tick of a module, a tick of a port,
  a pending `LambdaEvent`, a reset of the statistics, each in any cycle. The code that runs is the
  code of `Simulation.lean`; only the choice of the next event is left open.

  A request is at one place at a time: in a channel of a port, in the miss buffer of a cache, or
  answered by a response that waits to be sent. `Network.requests` is the multiset of all of them.
-/
import Gem5Sc.Library.Runs
import Gem5Sc.Library.Tally
import Gem5Sc.Simulation.Writes
import Mathlib.Algebra.Order.Group.Multiset

namespace Gem5Sc

/-! ## 1. Channels -/

/-- What a virtual channel of either kind holds, and how much it may hold. -/
structure Channel where
  buffer : List PacketId := []
  capacity : Nat := 0
  deriving DecidableEq, Repr, Inhabited

/-- The packets of a row of channels. -/
def Channel.held (cs : List Channel) : Multiset PacketId :=
  (cs.map fun c => (c.buffer : Multiset PacketId)).sum

namespace UpstreamPort

def channels (u : UpstreamPort) : List Channel := u.inputVcs.map fun vc => ⟨vc.buffer, vc.capacity⟩

theorem channels_length (u : UpstreamPort) : u.channels.length = u.inputVcs.length :=
  List.length_map _

theorem channels_getD (u : UpstreamPort) (v : Nat) :
    u.channels.getD v default = ⟨(u.vc v).buffer, (u.vc v).capacity⟩ := by
  simp only [channels, vc, List.getD_eq_getElem?_getD, List.getElem?_map]
  cases u.inputVcs[v]? <;> rfl

theorem channels_setVc (u : UpstreamPort) (v : Nat) (x : InputVC) :
    (u.setVc v x).channels = u.channels.set v ⟨x.buffer, x.capacity⟩ :=
  List.map_set

end UpstreamPort

namespace DownstreamPort

def channels (d : DownstreamPort) : List Channel :=
  d.outputVcs.map fun vc => ⟨vc.buffer, vc.capacity⟩

theorem channels_length (d : DownstreamPort) : d.channels.length = d.outputVcs.length :=
  List.length_map _

theorem channels_getD (d : DownstreamPort) (v : Nat) :
    d.channels.getD v default = ⟨(d.vc v).buffer, (d.vc v).capacity⟩ := by
  simp only [channels, vc, List.getD_eq_getElem?_getD, List.getElem?_map]
  cases d.outputVcs[v]? <;> rfl

theorem channels_setVc (d : DownstreamPort) (v : Nat) (x : OutputVC) :
    (d.setVc v x).channels = d.channels.set v ⟨x.buffer, x.capacity⟩ :=
  List.map_set

end DownstreamPort

/-! ## 2. Where requests are held -/

/-- The requests a module keeps. -/
def Module.held : Module → Multiset PacketId
  | .cache m => m.reqBuffer
  | .crossbar m => m.reqQueue.map Prod.fst
  | .arbiter m => m.reqQueue.map Prod.fst
  | _ => 0

/-- The modules that answer requests. -/
def Module.Responds : Module → Prop
  | .cache _ => True
  | .memory => True
  | _ => False

/-- The requests of a module and its ports. -/
def Instance.held (x : Instance) : Multiset PacketId :=
  x.mod.held + (x.up.map fun u => Channel.held u.channels).sum +
    (x.down.map fun d => Channel.held d.channels).sum

/-- The request that a `LambdaEvent` answers. -/
def Deferred.request (h : Heap) : Deferred → Option PacketId
  | .respond _ resp => (h.packet resp).originalReq
  | .tryForward => none

/-- The requests that a set of `LambdaEvent`s answers. -/
def owed (h : Heap) (s : Multiset (Nat × Deferred)) : Multiset PacketId :=
  s.filterMap fun e => e.2.request h

theorem owed_add (h : Heap) (s t : Multiset (Nat × Deferred)) :
    owed h (s + t) = owed h s + owed h t :=
  Multiset.filterMap_add _ s t

/-- What is owed depends on the pending responses alone. -/
theorem owed_congr {h h' : Heap} {s : Multiset (Nat × Deferred)}
    (hs : ∀ e ∈ s, e.2.request h' = e.2.request h) : owed h' s = owed h s := by
  induction s using Quotient.inductionOn with
  | h l => exact congrArg _ (List.filterMap_congr hs)

/-- An event that is a `LambdaEvent`, with its module. -/
def SimEvent.lambda? : SimEvent → Option (Nat × Deferred)
  | .lambda a e => some (a, e)
  | .tick _ => none

namespace Fabric

def held (f : Fabric) : Multiset PacketId := (f.insts.map Instance.held).sum

/-- An instance that takes in or gives away requests. -/
theorem held_setInst {f : Fabric} {a : Nat} {x : Instance} {hand hand' : Multiset PacketId}
    (ha : a < f.insts.length) (hx : hand' + x.held = hand + (f.inst a).held) :
    hand' + (f.setInst a x).held = hand + f.held :=
  Library.sum_exchange Instance.held ha hx

/-- An exchange with one of three parts. -/
theorem exchange_middle {x x' l r hand hand' : Multiset PacketId} (h : hand' + x' = hand + x) :
    hand' + (l + x' + r) = hand + (l + x + r) := by
  calc hand' + (l + x' + r) = hand' + x' + (l + r) := by ac_rfl
    _ = hand + x + (l + r) := by rw [h]
    _ = hand + (l + x + r) := by ac_rfl

/-- What an upstream port takes in or gives away, the system does. -/
theorem held_setUp {f : Fabric} {a j : Nat} {u u' : UpstreamPort} {hand hand' : Multiset PacketId}
    (hu : (f.inst a).up[j]? = some u)
    (hbal : hand' + Channel.held u'.channels = hand + Channel.held u.channels) :
    hand' + (f.setUp a j u').held = hand + f.held := by
  refine held_setInst (lt_of_up f a j hu) ?_
  obtain ⟨hj, hget⟩ := List.getElem?_eq_some_iff.mp hu
  have hports : hand' + (((f.inst a).up.set j u').map fun u => Channel.held u.channels).sum =
      hand + ((f.inst a).up.map fun u => Channel.held u.channels).sum := by
    refine Library.sum_exchange (y := u) _ hj ?_
    rw [List.getD_eq_getElem?_getD, hu]
    exact hbal
  exact exchange_middle hports

theorem held_setDown {f : Fabric} {a i : Nat} {d d' : DownstreamPort}
    {hand hand' : Multiset PacketId} (hd : (f.inst a).down[i]? = some d)
    (hbal : hand' + Channel.held d'.channels = hand + Channel.held d.channels) :
    hand' + (f.setDown a i d').held = hand + f.held := by
  refine held_setInst (lt_of_down f a i hd) ?_
  obtain ⟨hi, hget⟩ := List.getElem?_eq_some_iff.mp hd
  have hports : hand' + (((f.inst a).down.set i d').map fun d => Channel.held d.channels).sum =
      hand + ((f.inst a).down.map fun d => Channel.held d.channels).sum := by
    refine Library.sum_exchange (y := d) _ hi ?_
    rw [List.getD_eq_getElem?_getD, hd]
    exact hbal
  have hall := exchange_middle (l := (f.inst a).mod.held +
    ((f.inst a).up.map fun u => Channel.held u.channels).sum) (r := 0) hports
  rwa [add_zero, add_zero] at hall

/-- What a module takes in or gives away, the system does. -/
theorem held_setMod {f : Fabric} {a : Nat} {m : Module} {hand hand' : Multiset PacketId}
    (ha : a < f.insts.length) (hbal : hand' + m.held = hand + (f.inst a).mod.held) :
    hand' + (f.setMod a m).held = hand + f.held := by
  refine held_setInst ha ?_
  simp only [Instance.held, ← add_assoc, hbal]

/-- The `LambdaEvent`s among the `schedule` calls. -/
def lambdas (calls : List (SimEvent × UInt64)) : List (Nat × Deferred) :=
  calls.filterMap fun c => c.1.lambda?

/-- `PortManager::resetAllStats` of module `a`. -/
def resetAllStats (a : Nat) (f : Fabric) : Fabric :=
  f.setInst a { f.inst a with
    up := (f.inst a).up.map fun p => { p with stats := p.stats.reset }
    down := (f.inst a).down.map fun p => { p with stats := p.stats.reset } }

end Fabric

/-! ## 3. The network -/

/-- The system with the `LambdaEvent`s that wait to be processed, each with its module. -/
structure Network where
  heap : Heap := {}
  fabric : Fabric
  pending : Multiset (Nat × Deferred) := 0

namespace Network

/-- What may happen next. -/
inductive Action where
  | tick (now : UInt64) (a : Nat)
  /-- `tick` of an upstream port. -/
  | tickUp (now : UInt64) (a j : Nat)
  /-- `tick` of a downstream port. -/
  | tickDown (now : UInt64) (a i : Nat)
  /-- A pending `LambdaEvent`. -/
  | fire (now : UInt64) (a : Nat) (e : Deferred)
  | resetStats (a : Nat)
  deriving DecidableEq, Repr

/-- What the code of an event works on. -/
def world (n : Network) : Heap × Fabric := (n.heap, n.fabric)

def put (n : Network) (w : Heap × Fabric) : Network := { n with heap := w.1, fabric := w.2 }

/-- The `LambdaEvent`s that wait, those of the running event included. -/
def scheduled (n : Network) : Multiset (Nat × Deferred) :=
  n.pending + (Fabric.lambdas n.fabric.calls : Multiset (Nat × Deferred))

/-- The event is over: its `schedule` calls become pending events. -/
def settle (n : Network) : Network :=
  { n with fabric := { n.fabric with calls := [] }, pending := n.scheduled }

/-- One event, whatever its turn. A `LambdaEvent` that does not wait does nothing. -/
def step (n : Network) : Action → Network
  | .tick now a => (n.put (Fabric.tickModule now a n.world)).settle
  | .tickUp now a j => (n.put (Fabric.tickUpAt now a j n.world)).settle
  | .tickDown now a i => (n.put (Fabric.tickDownAt now a i n.world)).settle
  | .fire now a e =>
      if (a, e) ∈ n.pending then
        ({ n with pending := n.pending.erase (a, e) }.put
          (Fabric.runLambda now a e n.world)).settle
      else n
  | .resetStats a => n.put (n.heap, n.fabric.resetAllStats a)

/-- Every request the network is responsible for, as often as it is held. -/
def requests (n : Network) : Multiset PacketId := n.fabric.held + owed n.heap n.scheduled

end Network

/-! ## 4. A new system -/

/-- A module as its constructor leaves it. -/
def Module.Fresh : Module → Prop
  | .cpu m => m.inflightReqs = []
  | .cache m => m.reqBuffer = []
  | .crossbar m => m.reqQueue = []
  | .arbiter m => m.reqQueue = []
  | _ => True

/-- An instance with no packet. -/
structure Instance.Fresh (x : Instance) : Prop where
  mod : x.mod.Fresh
  input : ∀ u ∈ x.up, ∀ c ∈ u.channels, c.buffer = []
  output : ∀ d ∈ x.down, ∀ c ∈ d.channels, c.buffer = []

/-- No packet anywhere. -/
structure Fabric.Fresh (f : Fabric) : Prop where
  insts : ∀ x ∈ f.insts, x.Fresh
  calls : f.calls = []

theorem Fabric.Fresh.inst {f : Fabric} (hf : f.Fresh) (a : Nat) : (f.inst a).Fresh := by
  by_cases ha : a < f.insts.length
  · refine hf.insts _ ?_
    simp [Fabric.inst, ha]
  · rw [inst_of_length_le f a (Nat.le_of_not_lt ha)]
    exact ⟨trivial, fun _ hu => absurd hu List.not_mem_nil, fun _ hd => absurd hd List.not_mem_nil⟩

/-- A new port is empty. -/
theorem UpstreamPort.create_channels (id : Nat) (inSizes priorities : List Nat) (label : String) :
    ∀ c ∈ (create id inSizes priorities label).channels, c.buffer = [] := by
  intro c hc
  obtain ⟨vc, hvc, rfl⟩ := List.mem_map.mp hc
  obtain ⟨i, hi, rfl⟩ := List.mem_mapIdx.mp hvc
  rfl

theorem DownstreamPort.create_channels (id : Nat) (outSizes priorities : List Nat)
    (label : String) : ∀ c ∈ (create id outSizes priorities label).channels, c.buffer = [] := by
  intro c hc
  obtain ⟨vc, hvc, rfl⟩ := List.mem_map.mp hc
  obtain ⟨i, hi, rfl⟩ := List.mem_mapIdx.mp hvc
  rfl

/-- The network before the first event. -/
def Network.start (f : Fabric) : Network := { fabric := f }

/-- A CPU, a cache and a memory in a row, with one channel of two slots from each to the next. -/
def Fabric.chain : Fabric where
  insts :=
    [{ name := "cpu", mod := .cpu {}, down := [DownstreamPort.create 0 [2] [] "l1"] },
     { name := "l1", mod := .cache {}, up := [UpstreamPort.create 0 [2] [] "cpu"],
       down := [DownstreamPort.create 0 [2] [] "mem"] },
     { name := "mem", mod := .memory, up := [UpstreamPort.create 0 [2] [] "l1"] }]
  downPair a i := if a < 2 ∧ i = 0 then some (a + 1, 0) else none
  upPair a j := if 0 < a ∧ a < 3 ∧ j = 0 then some (a - 1, 0) else none

theorem Fabric.chain_fresh : Fabric.chain.Fresh where
  insts := by
    have hup := fun u (hu : u ∈ [UpstreamPort.create 0 [2] [] "cpu"]) =>
      List.mem_singleton.mp hu ▸ UpstreamPort.create_channels 0 [2] [] "cpu"
    have hup' := fun u (hu : u ∈ [UpstreamPort.create 0 [2] [] "l1"]) =>
      List.mem_singleton.mp hu ▸ UpstreamPort.create_channels 0 [2] [] "l1"
    have hdown := fun d (hd : d ∈ [DownstreamPort.create 0 [2] [] "l1"]) =>
      List.mem_singleton.mp hd ▸ DownstreamPort.create_channels 0 [2] [] "l1"
    have hdown' := fun d (hd : d ∈ [DownstreamPort.create 0 [2] [] "mem"]) =>
      List.mem_singleton.mp hd ▸ DownstreamPort.create_channels 0 [2] [] "mem"
    intro x hx
    rcases List.mem_cons.mp hx with rfl | hx
    · exact ⟨rfl, fun _ h => absurd h List.not_mem_nil, hdown⟩
    · rcases List.mem_cons.mp hx with rfl | hx
      · exact ⟨rfl, hup, hdown'⟩
      · obtain rfl := List.mem_singleton.mp hx
        exact ⟨trivial, hup', fun _ h => absurd h List.not_mem_nil⟩
  calls := rfl

end Gem5Sc
