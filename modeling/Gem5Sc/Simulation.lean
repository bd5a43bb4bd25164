/-
  File:      Gem5Sc/Simulation.lean
  Subject:   THE WHOLE SIMULATION: modules with their ports, the pairs between the ports, the heap
             and the event queue.

  `Fabric` is everything but the heap and the queue. An event is a `TickEvent` of a module or a
  `LambdaEvent` a module has scheduled (`SimEvent`), and `processEvent` is its `process()`: the
  module's own code, with the real ports for its surroundings (`context`).

  A port calls its owner through the `SimObject` interface (`ownerRequest`, `ownerResponse`). No
  handler that can be reached so uses a port, so the handlers see inert ports (`inert`).

  Two things are written down for the reader of a run and read by no function: `log`, what the
  ticks of the ports have offered and tried, and `ticked`, what the channels of a module held
  when it was ticked.
-/
import Gem5Sc.EventQueue
import Gem5Sc.Modules

namespace Gem5Sc

/-- A `SimObject` with the ports of its `PortManager`. -/
structure Instance where
  name : String := ""
  mod : Module
  up : List UpstreamPort := []
  down : List DownstreamPort := []

instance : Inhabited Instance := ⟨{ mod := .memory }⟩

/-- The events of the simulation, by the index of the module. -/
inductive SimEvent where
  | tick (obj : Nat)
  | lambda (obj : Nat) (e : Deferred)
  deriving DecidableEq, Repr

/-- What the tick of a port does with the head of a channel. -/
inductive Service where
  /-- An `UpstreamPort` offers it to its owner. -/
  | offer (cycle : UInt64) (obj port : Nat) (p : PacketId)
  /-- A `DownstreamPort` tries to forward it. -/
  | attempt (cycle : UInt64) (obj port : Nat) (p : PacketId)
  deriving DecidableEq, Repr

/-- The heads of a module's channels when it is ticked, each with its port. -/
structure TickRecord where
  cycle : UInt64
  obj : Nat
  inputs : List (Nat × PacketId)
  outputs : List (Nat × PacketId)
  deriving DecidableEq, Repr

structure Fabric where
  insts : List Instance
  /-- The other end of a downstream port: module and upstream port. -/
  downPair : Nat → Nat → Option (Nat × Nat) := fun _ _ => none
  /-- The other end of an upstream port: module and downstream port. -/
  upPair : Nat → Nat → Option (Nat × Nat) := fun _ _ => none
  /-- The random numbers of each tick to come. -/
  draw : Nat → Draw := fun _ => default
  drawn : Nat := 0
  /-- The `schedule` calls of the event being processed. -/
  calls : List (SimEvent × UInt64) := []
  log : List Service := []
  ticked : List TickRecord := []

namespace UpstreamPort

/-- The heads of the non-empty channels. -/
def heads (u : UpstreamPort) : List PacketId := u.inputVcs.filterMap (·.buffer.head?)

end UpstreamPort

namespace DownstreamPort

/-- The heads of the non-empty channels. -/
def heads (d : DownstreamPort) : List PacketId := d.outputVcs.filterMap (·.buffer.head?)

end DownstreamPort

namespace Instance

/-- The heads of all input channels, each with its port. -/
def inputHeads (x : Instance) : List (Nat × PacketId) :=
  (List.range x.up.length).flatMap fun j => (x.up.getD j default).heads.map (j, ·)

/-- The heads of all output channels, each with its port. -/
def outputHeads (x : Instance) : List (Nat × PacketId) :=
  (List.range x.down.length).flatMap fun i => (x.down.getD i default).heads.map (i, ·)

end Instance

namespace Fabric

def inst (f : Fabric) (a : Nat) : Instance := f.insts.getD a default

def setInst (f : Fabric) (a : Nat) (x : Instance) : Fabric := { f with insts := f.insts.set a x }

def setMod (f : Fabric) (a : Nat) (m : Module) : Fabric := f.setInst a { f.inst a with mod := m }

def setUp (f : Fabric) (b j : Nat) (u : UpstreamPort) : Fabric :=
  f.setInst b { f.inst b with up := (f.inst b).up.set j u }

def setDown (f : Fabric) (a i : Nat) (d : DownstreamPort) : Fabric :=
  f.setInst a { f.inst a with down := (f.inst a).down.set i d }

/-- `event_queue->schedule(new LambdaEvent(..), delay)` of module `a`. -/
def schedule (a : Nat) (e : Deferred) (delay : UInt64) (f : Fabric) : Fabric :=
  { f with calls := f.calls ++ [(.lambda a e, delay)] }

/-! ## 1. What the ports of a module do -/

/-- The surroundings of a handler of module `a`. -/
def inert (a : Nat) (now : UInt64) (f : Fabric) : Context Fabric where
  now := now
  upstream := (f.inst a).up.length
  downstream := (f.inst a).down.length
  sendReq _ _ w := (false, w)
  sendResp _ _ w := (false, w)
  tickUpstream _ w := w
  tickDownstream _ w := w
  schedule := schedule a

/-- `owner->handleUpstreamRequest` of the ports of module `a`. -/
def ownerRequest (a : Nat) (now : UInt64) : Handler Fabric := fun p id _ w =>
  let r := (w.2.inst a).mod.handleUpstreamRequest (inert a now w.2) p id w
  (r.1, (r.2.2.1, r.2.2.2.setMod a r.2.1))

/-- `owner->handleDownstreamResponse` of the ports of module `a`. -/
def ownerResponse (a : Nat) (now : UInt64) : Handler Fabric := fun p id _ w =>
  let r := (w.2.inst a).mod.handleDownstreamResponse (inert a now w.2) p id w
  (r.1, (r.2.2.1, r.2.2.2.setMod a r.2.1))

/-- `recv` of upstream port `j` of module `b`. -/
def recvReqAt (now : UInt64) (b j : Nat) (p : PacketId) (w : Heap × Fabric) :
    Bool × (Heap × Fabric) :=
  match (w.2.inst b).up[j]? with
  | none => (false, w)
  | some u =>
      let r := u.recv now p w.1
      (r.1, (r.2.2, w.2.setUp b j r.2.1))

/-- `recv` of downstream port `i` of module `b`. -/
def recvRespAt (now : UInt64) (b i : Nat) (p : PacketId) (w : Heap × Fabric) :
    Bool × (Heap × Fabric) :=
  match (w.2.inst b).down[i]? with
  | none => (false, w)
  | some d =>
      let r := d.toMasterPort.recv (ownerResponse b now) now d.id d.label p w
      (r.1, (r.2.2.1, r.2.2.2.setDown b i { d with toMasterPort := r.2.1 }))

/-- What `send` on downstream port `i` of module `a` reaches. -/
def downPeer (f : Fabric) (now : UInt64) (a i : Nat) : Peer Fabric :=
  (f.downPair a i).map fun x => recvReqAt now x.1 x.2

/-- What `send` on upstream port `j` of module `a` reaches. -/
def upPeer (f : Fabric) (now : UInt64) (a j : Nat) : Peer Fabric :=
  (f.upPair a j).map fun x => recvRespAt now x.1 x.2

/-- `sendReq` on downstream port `i` of module `a`. -/
def sendReqAt (now : UInt64) (a i : Nat) (p : PacketId) (w : Heap × Fabric) :
    Bool × (Heap × Fabric) :=
  match (w.2.inst a).down[i]? with
  | none => (false, w)
  | some d =>
      let r := d.sendReq (w.2.downPeer now a i) p w
      (r.1, (r.2.2.1, r.2.2.2.setDown a i r.2.1))

/-- `sendResp` on upstream port `j` of module `a`. -/
def sendRespAt (now : UInt64) (a j : Nat) (p : PacketId) (w : Heap × Fabric) :
    Bool × (Heap × Fabric) :=
  match (w.2.inst a).up[j]? with
  | none => (false, w)
  | some u =>
      let r := u.toSlavePort.sendResp (w.2.upPeer now a j) p w
      (r.1, (r.2.2.1, r.2.2.2.setUp a j { u with toSlavePort := r.2.1 }))

/-- `tick` of upstream port `j` of module `a`. -/
def tickUpAt (now : UInt64) (a j : Nat) (w : Heap × Fabric) : Heap × Fabric :=
  match (w.2.inst a).up[j]? with
  | none => w
  | some u =>
      let offered : Handler Fabric := fun p id label w =>
        ownerRequest a now p id label
          (w.1, { w.2 with log := w.2.log ++ [.offer now a j p] })
      let r := u.tick offered w
      (r.2.1, r.2.2.setUp a j r.1)

/-- `tick` of downstream port `i` of module `a`. -/
def tickDownAt (now : UInt64) (a i : Nat) (w : Heap × Fabric) : Heap × Fabric :=
  match (w.2.inst a).down[i]? with
  | none => w
  | some d =>
      let f := { w.2 with log := w.2.log ++ d.heads.map (.attempt now a i) }
      let r := d.tick (w.2.downPeer now a i) (w.1, f)
      (r.2.1, r.2.2.setDown a i r.1)

/-- The surroundings of a `tick` or a `LambdaEvent` of module `a`. -/
def context (a : Nat) (now : UInt64) (f : Fabric) : Context Fabric where
  now := now
  upstream := (f.inst a).up.length
  downstream := (f.inst a).down.length
  sendReq := sendReqAt now a
  sendResp := sendRespAt now a
  tickUpstream := tickUpAt now a
  tickDownstream := tickDownAt now a
  schedule := schedule a

/-! ## 2. The events -/

/-- Note what the channels of module `a` hold. -/
def record (now : UInt64) (a : Nat) (f : Fabric) : Fabric :=
  { f with
    ticked := f.ticked ++ [{ cycle := now, obj := a, inputs := (f.inst a).inputHeads,
                             outputs := (f.inst a).outputHeads }] }

/-- `obj->tick()`. -/
def tickModule (now : UInt64) (a : Nat) (w : Heap × Fabric) : Heap × Fabric :=
  let f := { w.2.record now a with drawn := w.2.drawn + 1 }
  let r := (f.inst a).mod.tick (context a now f) (f.draw w.2.drawn) (w.1, f)
  (r.2.1, r.2.2.setMod a r.1)

/-- The body of a `LambdaEvent` of module `a`. -/
def runLambda (now : UInt64) (a : Nat) (e : Deferred) (w : Heap × Fabric) : Heap × Fabric :=
  let r := (w.2.inst a).mod.runDeferred (context a now w.2) e w
  (r.2.1, r.2.2.setMod a r.1)

/-- Take the `schedule` calls out. -/
def takeCalls (w : Heap × Fabric) : (Heap × Fabric) × List (SimEvent × UInt64) :=
  ((w.1, { w.2 with calls := [] }), w.2.calls)

/-- `process()`: a `TickEvent` ticks its module and schedules the next tick. -/
def processEvent : Process SimEvent (Heap × Fabric) := fun ev now w =>
  match ev with
  | .tick a =>
      let r := takeCalls (tickModule now a w)
      (r.1, r.2 ++ [(.tick a, 1)])
  | .lambda a e => takeCalls (runLambda now a e w)

/-- The simulation after `initiate_tick` has been called once for each of the modules `order`. -/
def start (Q : Library.PriorityQueue (Pending SimEvent) Pending.key) (h : Heap)
    (insts : List Instance) (downPair upPair : Nat → Nat → Option (Nat × Nat)) (draw : Nat → Draw)
    (order : List Nat) : Sim Q (Heap × Fabric) where
  queue := ({} : EventQueue Q).scheduleAll (order.map fun a => (.tick a, 1))
  state := (h, { insts := insts, downPair := downPair, upPair := upPair, draw := draw })

end Fabric

end Gem5Sc
