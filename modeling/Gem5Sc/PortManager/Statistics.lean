/-
  File:      Gem5Sc/PortManager/Statistics.lean
  Subject:   THE STATISTICS OF A PORT MANAGER DO NOT DEPEND ON HOW TRAFFIC IS SPLIT OVER ITS PORTS.

  `merge` makes the counters a commutative monoid with the default `PortStats` as its zero: sums
  modulo 2^64, a minimum whose zero is the greatest 64-bit number, a maximum whose zero is 0. Every
  update a port makes -- the two `updateStats`, the counters of `send` and of `sendResp` -- is an
  addition in this monoid, of something that depends on the packet and the cycle but not on what
  the port has counted before. The rest is the general fact about such cells (`Library/Tally.lean`).

  An event carries the heap of the moment it happens in, so a list of events is any interleaving
  of any traffic. A `sendReq` that queues its packet counts nothing; one that hands it on is the
  event `send`.
-/
import Gem5Sc.Library.Runs
import Gem5Sc.Library.Tally
import Gem5Sc.PortManager

namespace Gem5Sc

/-! ## 1. The counters as a monoid -/

namespace PortStats

/-- The three rules of `merge`, each with its neutral value. -/
theorem merge_default (s : PortStats) : s.merge {} = s := by
  obtain ⟨req, resp, bytes, total, lo, hi, sent, received, value⟩ := s
  have hlo : ¬ (0xFFFFFFFFFFFFFFFF : UInt64) < lo := by
    rw [UInt64.lt_iff_toNat_lt]
    exact Nat.not_lt.mpr (Nat.le_of_lt_succ lo.toNat_lt)
  have hhi : ¬ (0 : UInt64) > hi := by simp
  simp only [merge, if_neg hlo, if_neg hhi, UInt64.add_zero]

/-- The two comparisons of `merge`, as minimum and maximum of the numbers. -/
theorem toNat_smaller (x y : UInt64) : (if y < x then y else x).toNat = min x.toNat y.toNat := by
  split <;> rename_i h <;> rw [UInt64.lt_iff_toNat_lt] at h <;> omega

theorem toNat_greater (x y : UInt64) : (if y > x then y else x).toNat = max x.toNat y.toNat := by
  split <;> rename_i h <;> rw [gt_iff_lt, UInt64.lt_iff_toNat_lt] at h <;> omega

theorem merge_comm (a b : PortStats) : a.merge b = b.merge a := by
  have hmin : ∀ x y : UInt64, (if y < x then y else x) = if x < y then x else y := by
    intro x y
    apply UInt64.toNat_inj.mp
    rw [toNat_smaller, toNat_smaller, Nat.min_comm]
  have hmax : ∀ x y : UInt64, (if y > x then y else x) = if x > y then x else y := by
    intro x y
    apply UInt64.toNat_inj.mp
    rw [toNat_greater, toNat_greater, Nat.max_comm]
  simp only [merge, mk.injEq]
  exact ⟨UInt64.add_comm _ _, UInt64.add_comm _ _, UInt64.add_comm _ _, UInt64.add_comm _ _,
    hmin _ _, hmax _ _, UInt64.add_comm _ _, UInt64.add_comm _ _, UInt64.add_comm _ _⟩

theorem merge_assoc (a b c : PortStats) : (a.merge b).merge c = a.merge (b.merge c) := by
  have hmin : ∀ x y z : UInt64, (if z < if y < x then y else x then z else if y < x then y else x) =
      if (if z < y then z else y) < x then (if z < y then z else y) else x := by
    intro x y z
    apply UInt64.toNat_inj.mp
    rw [toNat_smaller, toNat_smaller, toNat_smaller, toNat_smaller, Nat.min_assoc]
  have hmax : ∀ x y z : UInt64, (if z > if y > x then y else x then z else if y > x then y else x) =
      if (if z > y then z else y) > x then (if z > y then z else y) else x := by
    intro x y z
    apply UInt64.toNat_inj.mp
    rw [toNat_greater, toNat_greater, toNat_greater, toNat_greater, Nat.max_assoc]
  simp only [merge, mk.injEq]
  exact ⟨UInt64.add_assoc _ _ _, UInt64.add_assoc _ _ _, UInt64.add_assoc _ _ _,
    UInt64.add_assoc _ _ _, hmin _ _ _, hmax _ _ _, UInt64.add_assoc _ _ _,
    UInt64.add_assoc _ _ _, UInt64.add_assoc _ _ _⟩

instance : Zero PortStats := ⟨{}⟩

instance : Add PortStats := ⟨merge⟩

/-- `merge` is the addition, the default statistics are the zero. -/
instance : AddCommMonoid PortStats where
  add_assoc := merge_assoc
  add_comm := merge_comm
  zero_add s := (merge_comm {} s).trans (merge_default s)
  add_zero := merge_default
  nsmul := nsmulRec

theorem reset_eq (s : PortStats) : s.reset = 0 := rfl

end PortStats

/-! ## 2. What an event adds -/

/-- What an `UpstreamPort` counts: a packet that comes in, a response that goes out. -/
inductive UpstreamEvent (ρ : Type) where
  | recv (now : UInt64) (p : PacketId) (h : Heap)
  | sendResp (peer : Peer ρ) (p : PacketId) (w : Heap × ρ)

/-- What a `DownstreamPort` counts: a packet that goes out, a response or credit that comes in. -/
inductive DownstreamEvent (ρ : Type) where
  | send (peer : Peer ρ) (p : PacketId) (w : Heap × ρ)
  | recv (handle : Handler ρ) (now : UInt64) (p : PacketId) (w : Heap × ρ)

variable {ρ : Type}

/-- The port after an event. -/
def UpstreamPort.event (e : UpstreamEvent ρ) (u : UpstreamPort) : UpstreamPort :=
  match e with
  | .recv now p h => (u.recv now p h).2.1
  | .sendResp peer p w => { u with toSlavePort := (u.toSlavePort.sendResp peer p w).2.1 }

/-- The port after an event. -/
def DownstreamPort.event (e : DownstreamEvent ρ) (d : DownstreamPort) : DownstreamPort :=
  match e with
  | .send peer p w => { d with toMasterPort := (d.toMasterPort.send peer p w).2.1 }
  | .recv handle now p w =>
      { d with toMasterPort := (d.toMasterPort.recv handle now d.id d.label p w).2.1 }

section Adds

open Library

/-- On the counters alone, an update is an addition when it merges in a fixed `PortStats`. -/
theorem adds_of_merge {f : PortStats → PortStats} (d : PortStats) (h : ∀ s, f s = s.merge d) :
    ∃ d, Adds id f d := ⟨d, h⟩

/-- Nothing is the minimum of more than itself, nor the maximum of less. -/
theorem merge_counts (s : PortStats) (d : PortStats) (hlo : d.minDelay = 0xFFFFFFFFFFFFFFFF)
    (hhi : d.maxDelay = 0) :
    s.merge d = { s with reqCount := s.reqCount + d.reqCount,
                         respCount := s.respCount + d.respCount,
                         byteCount := s.byteCount + d.byteCount,
                         totalDelay := s.totalDelay + d.totalDelay,
                         creditSent := s.creditSent + d.creditSent,
                         creditReceived := s.creditReceived + d.creditReceived,
                         creditValue := s.creditValue + d.creditValue } := by
  have hmin : (s.merge d).minDelay = s.minDelay := by
    have h := congrArg PortStats.minDelay (PortStats.merge_default s)
    simpa only [PortStats.merge, hlo] using h
  have hmax : (s.merge d).maxDelay = s.maxDelay := by
    have h := congrArg PortStats.maxDelay (PortStats.merge_default s)
    simpa only [PortStats.merge, hhi] using h
  simp only [PortStats.merge] at hmin hmax ⊢
  rw [hmin, hmax]

/-- Counters that go up by fixed amounts. -/
theorem adds_counts (req resp bytes sent received value : UInt64) :
    ∃ d, Adds id (fun s : PortStats =>
      { s with reqCount := s.reqCount + req, respCount := s.respCount + resp,
               byteCount := s.byteCount + bytes, creditSent := s.creditSent + sent,
               creditReceived := s.creditReceived + received,
               creditValue := s.creditValue + value }) d := by
  refine adds_of_merge { reqCount := req, respCount := resp, byteCount := bytes,
                         creditSent := sent, creditReceived := received,
                         creditValue := value } fun s => ?_
  rw [merge_counts s _ rfl rfl, UInt64.add_zero]

theorem adds_addDelay (x : UInt64) : ∃ d, Adds id (fun s : PortStats => s.addDelay x) d := by
  refine adds_of_merge { totalDelay := x, minDelay := x, maxDelay := x } fun s => ?_
  simp [PortStats.merge, PortStats.addDelay]

theorem adds_nothing : ∃ d, Adds id (fun s : PortStats => s) d := ⟨0, Adds.zero fun _ => rfl⟩

/-- One request with its bytes, as `SlavePort::updateStats` and `MasterPort::send` count it. -/
theorem adds_request (bytes : UInt64) :
    ∃ d, Adds id (fun s : PortStats =>
      { s with reqCount := s.reqCount + 1, byteCount := s.byteCount + bytes }) d := by
  simpa using adds_counts 1 0 bytes 0 0 0

/-- One response with its bytes. -/
theorem adds_response (bytes : UInt64) :
    ∃ d, Adds id (fun s : PortStats =>
      { s with respCount := s.respCount + 1, byteCount := s.byteCount + bytes }) d := by
  simpa using adds_counts 0 1 bytes 0 0 0

variable (h : Heap) (p : PacketId)

/-- **`SlavePort::updateStats` adds**: a delay sample, then a request or a stream packet. -/
theorem adds_slave_updateStats : ∃ d, Adds id (SlavePort.updateStats h p) d := by
  have hdelay : ∃ d, Adds id (fun s : PortStats =>
      if (h.packet p).originalReq.isSome && !(h.packet p).isCredit then
        s.addDelay (h.packet p).getDelayCycles else s) d := by
    split
    · exact adds_addDelay _
    · exact adds_nothing
  have hcount : ∃ d, Adds id (fun s : PortStats =>
      if (h.packet p).isRequest then
        { s with reqCount := s.reqCount + 1, byteCount := s.byteCount + h.dataLength p }
      else if (h.packet p).isStream then { s with reqCount := s.reqCount + 1 } else s) d := by
    split
    · exact adds_request _
    · split
      · simpa using adds_counts 1 0 0 0 0 0
      · exact adds_nothing
  obtain ⟨d, hd⟩ := hdelay
  obtain ⟨e, he⟩ := hcount
  exact ⟨d + e, he.comp hd⟩

/-- **`MasterPort::updateStats` adds**: a response and its delay, or a credit. -/
theorem adds_master_updateStats : ∃ d, Adds id (MasterPort.updateStats h p) d := by
  unfold MasterPort.updateStats
  dsimp only
  split
  · obtain ⟨d, hd⟩ := adds_response (h.dataLength p)
    cases (h.packet p).originalReq with
    | none => exact ⟨d, hd⟩
    | some r =>
        obtain ⟨e, he⟩ := adds_addDelay ((h.packet p).dstCycle - (h.packet r).srcCycle)
        exact ⟨d + e, he.comp hd⟩
  · split
    · simpa using adds_counts 0 0 0 0 1 (UInt64.ofInt (h.packet p).credits)
    · exact adds_nothing

/-- **The counters of `MasterPort::send` add.** -/
theorem adds_countSend : ∃ d, Adds id (MasterPort.countSend h p) d := by
  unfold MasterPort.countSend
  dsimp only
  split
  · exact adds_request _
  · split
    · simpa using adds_counts 0 0 0 1 0 0
    · exact adds_nothing

/-- Whatever `recvReq` does with the packet, it leaves the counters alone. -/
theorem recvReq_stats (now : UInt64) (u : UpstreamPort) :
    (u.recvReq now p h).2.1.stats = u.stats := by
  unfold UpstreamPort.recvReq
  dsimp only
  split
  · split <;> rfl
  · rfl

/-- **Every event of an `UpstreamPort` adds to its statistics.** -/
theorem adds_upstream_event (e : UpstreamEvent ρ) :
    ∃ d, Adds (fun u : UpstreamPort => u.stats) (UpstreamPort.event e) d := by
  cases e with
  | recv now p h =>
      obtain ⟨d, hd⟩ := adds_slave_updateStats (h.setDstCycle p now) p
      refine ⟨d, fun u => ?_⟩
      show ((u.received now p h).recvReq now p (h.setDstCycle p now)).2.1.stats = u.stats + d
      rw [recvReq_stats]
      exact hd u.stats
  | sendResp peer p w =>
      obtain ⟨d, hd⟩ := adds_response (w.1.dataLength p)
      exact ⟨d, fun u => hd u.stats⟩

/-- **Every event of a `DownstreamPort` adds to its statistics.** -/
theorem adds_downstream_event (e : DownstreamEvent ρ) :
    ∃ d, Adds (fun d : DownstreamPort => d.stats) (DownstreamPort.event e) d := by
  cases e with
  | send peer p w =>
      obtain ⟨d, hd⟩ := adds_countSend w.1 p
      exact ⟨d, fun port => hd port.stats⟩
  | recv handle now p w =>
      obtain ⟨d, hd⟩ := adds_master_updateStats (w.1.setDstCycle p now) p
      exact ⟨d, fun port => hd port.stats⟩

end Adds

/-! ## 3. A port manager against a single pair of ports -/

/-- An event on the port of a given index. -/
inductive PortEvent (ρ : Type) where
  | upstream (i : Nat) (e : UpstreamEvent ρ)
  | downstream (i : Nat) (e : DownstreamEvent ρ)

namespace PortManager

/-- The manager after an event on one of its ports. -/
def event (pm : PortManager) : PortEvent ρ → PortManager
  | .upstream i e =>
      { pm with
        upstreamPorts := pm.upstreamPorts.modify i (UpstreamPort.event e)
        upstream_valid := by
          rw [List.length_modify]
          exact pm.upstream_valid }
  | .downstream i e =>
      { pm with
        downstreamPorts := pm.downstreamPorts.modify i (DownstreamPort.event e)
        downstream_valid := by
          rw [List.length_modify]
          exact pm.downstream_valid }

/-- The event hits a port the manager has. -/
def Hits (pm : PortManager) : PortEvent ρ → Prop
  | .upstream i _ => i < pm.upstreamPorts.length
  | .downstream i _ => i < pm.downstreamPorts.length

instance (pm : PortManager) (e : PortEvent ρ) : Decidable (pm.Hits e) :=
  match e with
  | .upstream i _ => inferInstanceAs (Decidable (i < pm.upstreamPorts.length))
  | .downstream i _ => inferInstanceAs (Decidable (i < pm.downstreamPorts.length))

/-- The same event when there is one port of each kind to receive it. -/
def pairEvent (s : UpstreamPort × DownstreamPort) : PortEvent ρ → UpstreamPort × DownstreamPort
  | .upstream _ e => (s.1.event e, s.2)
  | .downstream _ e => (s.1, s.2.event e)

/-- No port has counted anything yet. -/
structure Fresh (pm : PortManager) : Prop where
  upstream : ∀ u ∈ pm.upstreamPorts, u.stats = {}
  downstream : ∀ d ∈ pm.downstreamPorts, d.stats = {}

theorem fresh_empty : empty.Fresh :=
  ⟨fun _ hu => absurd hu List.not_mem_nil, fun _ hd => absurd hd List.not_mem_nil⟩

/-- A reset makes all ports fresh. -/
theorem fresh_resetAllStats (pm : PortManager) : pm.resetAllStats.Fresh := by
  refine ⟨fun u hu => ?_, fun d hd => ?_⟩
  · obtain ⟨v, -, rfl⟩ := List.mem_map.mp hu
    exact v.stats.reset_eq
  · obtain ⟨v, -, rfl⟩ := List.mem_map.mp hd
    exact v.stats.reset_eq

/-- Ports are created fresh. -/
theorem Fresh.addUpstreamPort {pm : PortManager} (h : pm.Fresh) (inSizes priorities : List Nat)
    (label : String) : (pm.addUpstreamPort inSizes priorities label).Fresh := by
  refine ⟨fun u hu => ?_, h.downstream⟩
  rcases List.mem_append.mp hu with hu | hu
  · exact h.upstream u hu
  · rw [List.mem_singleton.mp hu]
    rfl

theorem Fresh.addDownstreamPort {pm : PortManager} (h : pm.Fresh) (outSizes priorities : List Nat)
    (label : String) : (pm.addDownstreamPort outSizes priorities label).Fresh := by
  refine ⟨h.upstream, fun d hd => ?_⟩
  rcases List.mem_append.mp hd with hd | hd
  · exact h.downstream d hd
  · rw [List.mem_singleton.mp hd]
    rfl

/-- Merging one after another into a default `PortStats` is the sum. -/
theorem foldl_merge {κ : Type} (stats : κ → PortStats) (ports : List κ) :
    ports.foldl (fun total p => total.merge (stats p)) {} = (ports.map stats).sum := by
  rw [List.sum_eq_foldl, List.foldl_map]
  rfl

theorem getUpstreamStats_eq (pm : PortManager) :
    pm.getUpstreamStats = (pm.upstreamPorts.map fun u => u.stats).sum :=
  foldl_merge _ _

theorem getDownstreamStats_eq (pm : PortManager) :
    pm.getDownstreamStats = (pm.downstreamPorts.map fun d => d.stats).sum :=
  foldl_merge _ _

/-- Fresh ports sum to the default statistics. -/
theorem sum_of_fresh {κ : Type} {stats : κ → PortStats} {ports : List κ}
    (h : ∀ p ∈ ports, stats p = {}) : (ports.map stats).sum = 0 := by
  refine List.sum_eq_zero fun x hx => ?_
  obtain ⟨p, hp, rfl⟩ := List.mem_map.mp hx
  exact h p hp

/-- The manager's totals are what the two single ports hold. -/
structure Matches (pm : PortManager) (s : UpstreamPort × DownstreamPort) : Prop where
  upstream : pm.getUpstreamStats = s.1.stats
  downstream : pm.getDownstreamStats = s.2.stats

/-- **One event** keeps the totals equal, whichever port it hits. -/
theorem matches_event {pm : PortManager} {s : UpstreamPort × DownstreamPort}
    (h : pm.Matches s) {e : PortEvent ρ} (he : pm.Hits e) :
    (pm.event e).Matches (pairEvent s e) := by
  cases e with
  | upstream i e =>
      obtain ⟨d, hd⟩ := adds_upstream_event e
      refine ⟨?_, h.downstream⟩
      calc (pm.event (.upstream i e)).getUpstreamStats
          = ((pm.upstreamPorts.modify i (UpstreamPort.event e)).map fun u => u.stats).sum :=
            getUpstreamStats_eq _
        _ = pm.getUpstreamStats + d := by rw [Library.sum_modify hd he, getUpstreamStats_eq]
        _ = s.1.stats + d := by rw [h.upstream]
        _ = (s.1.event e).stats := (hd s.1).symm
  | downstream i e =>
      obtain ⟨d, hd⟩ := adds_downstream_event e
      refine ⟨h.upstream, ?_⟩
      calc (pm.event (.downstream i e)).getDownstreamStats
          = ((pm.downstreamPorts.modify i (DownstreamPort.event e)).map fun d => d.stats).sum :=
            getDownstreamStats_eq _
        _ = pm.getDownstreamStats + d := by rw [Library.sum_modify hd he, getDownstreamStats_eq]
        _ = s.2.stats + d := by rw [h.downstream]
        _ = (s.2.event e).stats := (hd s.2).symm

/-- An event creates no port and removes none. -/
theorem hits_event (pm : PortManager) (e e' : PortEvent ρ) : (pm.event e).Hits e' ↔ pm.Hits e' := by
  cases e <;> cases e' <;> simp [event, Hits]

/-- **A run of events** keeps the totals equal. -/
theorem matches_run {pm : PortManager} {s : UpstreamPort × DownstreamPort} (h : pm.Matches s)
    {es : List (PortEvent ρ)} (hes : ∀ e ∈ es, pm.Hits e) :
    (Library.run event pm es).Matches (Library.run pairEvent s es) := by
  induction es generalizing pm s with
  | nil => exact h
  | cons e es ih =>
      refine ih (matches_event h (hes e List.mem_cons_self)) fun e' he' => ?_
      exact (hits_event pm e e').mpr (hes e' (List.mem_cons_of_mem e he'))

/-- **The totals of a port manager do not depend on the ports the events hit**: they are the
    statistics one port of each kind would hold after the same events. Merging is commutative and
    associative, and the default `PortStats` is its identity. -/
theorem stats_of_split (pm : PortManager) (hpm : pm.Fresh) (es : List (PortEvent ρ))
    (hes : ∀ e ∈ es, pm.Hits e) (u : UpstreamPort) (d : DownstreamPort) (hu : u.stats = {})
    (hd : d.stats = {}) :
    (Library.run event pm es).getUpstreamStats = (Library.run pairEvent (u, d) es).1.stats ∧
      (Library.run event pm es).getDownstreamStats = (Library.run pairEvent (u, d) es).2.stats ∧
      (∀ a b : PortStats, a.merge b = b.merge a) ∧
      (∀ a b c : PortStats, (a.merge b).merge c = a.merge (b.merge c)) ∧
      (∀ a : PortStats, a.merge {} = a ∧ PortStats.merge {} a = a) := by
  have hup : pm.getUpstreamStats = u.stats := by
    rw [getUpstreamStats_eq, sum_of_fresh hpm.upstream, hu]
    rfl
  have hdown : pm.getDownstreamStats = d.stats := by
    rw [getDownstreamStats_eq, sum_of_fresh hpm.downstream, hd]
    rfl
  obtain ⟨h1, h2⟩ := matches_run (s := (u, d)) ⟨hup, hdown⟩ hes
  refine ⟨h1, h2, PortStats.merge_comm, PortStats.merge_assoc, fun a => ⟨a.merge_default, ?_⟩⟩
  rw [PortStats.merge_comm]
  exact a.merge_default

/-- Two upstream ports and one downstream port. -/
def threePorts : PortManager :=
  ((empty.addUpstreamPort [4] [] "a").addUpstreamPort [1, 2] [] "b").addDownstreamPort [4] [] "c"

/-- Two reads, one for each upstream port, and the response to the first. -/
def readsAndResponse : List (PortEvent Unit) :=
  let h : Heap :=
    { packet := fun p => if p = 2 then { type := .resp, originalReq := some 0 } else {} }
  [.upstream 0 (.recv 3 0 h), .upstream 1 (.recv 5 1 h), .downstream 0 (.recv
    (fun _ _ _ w => (true, w)) 9 2 (h, ()))]

/-- The events go to new ports, and once more to the same ports after a reset. -/
theorem stats_of_split_threePorts :
    (Library.run event threePorts readsAndResponse).getUpstreamStats.reqCount = 2 ∧
      (Library.run event threePorts readsAndResponse).getUpstreamStats =
        (Library.run pairEvent (({} : UpstreamPort), ({} : DownstreamPort))
          readsAndResponse).1.stats ∧
      (Library.run event threePorts readsAndResponse).getDownstreamStats =
        (Library.run pairEvent (({} : UpstreamPort), ({} : DownstreamPort))
          readsAndResponse).2.stats ∧
      (Library.run event (Library.run event threePorts readsAndResponse).resetAllStats
        readsAndResponse).getUpstreamStats =
        (Library.run pairEvent (({} : UpstreamPort), ({} : DownstreamPort))
          readsAndResponse).1.stats := by
  have hfresh : threePorts.Fresh :=
    ((fresh_empty.addUpstreamPort [4] [] "a").addUpstreamPort [1, 2] [] "b").addDownstreamPort
      [4] [] "c"
  have hhits : ∀ e ∈ readsAndResponse, threePorts.Hits e := by decide
  have h := stats_of_split threePorts hfresh readsAndResponse hhits {} {} rfl rfl
  have hagain := stats_of_split _ (fresh_resetAllStats (Library.run event threePorts
    readsAndResponse)) readsAndResponse (by decide) {} {} rfl rfl
  exact ⟨by decide +kernel, h.1, h.2.1, hagain.1⟩

end PortManager

end Gem5Sc
