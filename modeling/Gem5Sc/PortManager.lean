/-
  File:      Gem5Sc/PortManager.lean
  Subject:   The `PortManager` of a module: its ports by index and by label.

  The label maps point into the port lists; the structure carries the proof.
-/
import Gem5Sc.Port
import Gem5Sc.Selection

namespace Gem5Sc

/-- `class PortManager`. -/
structure PortManager where
  upstreamPorts : List UpstreamPort := []
  downstreamPorts : List DownstreamPort := []
  upstreamMap : List (String × Nat) := []
  downstreamMap : List (String × Nat) := []
  upstream_valid : ∀ e ∈ upstreamMap, e.2 < upstreamPorts.length := by decide
  downstream_valid : ∀ e ∈ downstreamMap, e.2 < downstreamPorts.length := by decide

namespace PortManager

theorem noPorts_valid : ∀ e ∈ ([] : List (String × Nat)), e.2 < 0 := nofun

/-- A manager as it is constructed. -/
def empty : PortManager := { upstream_valid := noPorts_valid, downstream_valid := noPorts_valid }

/-- A map into a list, after the list has grown by one. -/
theorem valid_setKey {l : List (String × Nat)} {n : Nat} (h : ∀ e ∈ l, e.2 < n) (k : String) :
    ∀ e ∈ (if k = "" then l else setKey l k n), e.2 < n + 1 := by
  intro e he
  split at he
  · exact Nat.lt_succ_of_lt (h e he)
  · rcases List.mem_cons.mp he with rfl | he
    · exact Nat.lt_succ_self n
    · exact Nat.lt_succ_of_lt (h e (List.mem_filter.mp he).1)

/-- `addUpstreamPort`. -/
def addUpstreamPort (pm : PortManager) (inSizes priorities : List Nat) (label : String) :
    PortManager where
  upstreamPorts := pm.upstreamPorts ++
    [UpstreamPort.create pm.upstreamPorts.length inSizes priorities label]
  downstreamPorts := pm.downstreamPorts
  upstreamMap := if label = "" then pm.upstreamMap
    else setKey pm.upstreamMap label pm.upstreamPorts.length
  downstreamMap := pm.downstreamMap
  upstream_valid := by
    rw [List.length_append, List.length_singleton]
    exact valid_setKey pm.upstream_valid label
  downstream_valid := pm.downstream_valid

/-- `addDownstreamPort`. -/
def addDownstreamPort (pm : PortManager) (outSizes priorities : List Nat) (label : String) :
    PortManager where
  upstreamPorts := pm.upstreamPorts
  downstreamPorts := pm.downstreamPorts ++
    [DownstreamPort.create pm.downstreamPorts.length outSizes priorities label]
  upstreamMap := pm.upstreamMap
  downstreamMap := if label = "" then pm.downstreamMap
    else setKey pm.downstreamMap label pm.downstreamPorts.length
  upstream_valid := pm.upstream_valid
  downstream_valid := by
    rw [List.length_append, List.length_singleton]
    exact valid_setKey pm.downstream_valid label

/-- `getUpstreamPort(label)`, as an index. -/
def getUpstreamPort (pm : PortManager) (label : String) : Option Nat := pm.upstreamMap.lookup label

/-- `getDownstreamPort(label)`, as an index. -/
def getDownstreamPort (pm : PortManager) (label : String) : Option Nat :=
  pm.downstreamMap.lookup label

/-- `getDownstreamPorts()[i]->setDelay(d)`. -/
def setDelay (pm : PortManager) (i : Nat) (d : Int) : PortManager :=
  { pm with
    downstreamPorts := pm.downstreamPorts.modify i fun p => { p with delayCycles := d }
    downstream_valid := by
      rw [List.length_modify]
      exact pm.downstream_valid }

/-- `getUpstreamStats`. -/
def getUpstreamStats (pm : PortManager) : PortStats :=
  pm.upstreamPorts.foldl (fun total p => total.merge p.stats) {}

/-- `getDownstreamStats`. -/
def getDownstreamStats (pm : PortManager) : PortStats :=
  pm.downstreamPorts.foldl (fun total p => total.merge p.stats) {}

/-- `resetAllStats`. -/
def resetAllStats (pm : PortManager) : PortManager where
  upstreamPorts := pm.upstreamPorts.map fun p => { p with stats := p.stats.reset }
  downstreamPorts := pm.downstreamPorts.map fun p => { p with stats := p.stats.reset }
  upstreamMap := pm.upstreamMap
  downstreamMap := pm.downstreamMap
  upstream_valid := by
    rw [List.length_map]
    exact pm.upstream_valid
  downstream_valid := by
    rw [List.length_map]
    exact pm.downstream_valid

/-- A label leads to a port. -/
theorem getDownstreamPort_lt {pm : PortManager} {label : String} {i : Nat}
    (h : pm.getDownstreamPort label = some i) : i < pm.downstreamPorts.length := by
  obtain ⟨before, after, hl, _⟩ := List.lookup_eq_some_iff.mp h
  have hmem : (label, i) ∈ pm.downstreamMap := by
    rw [hl]
    exact List.mem_append_right before List.mem_cons_self
  exact pm.downstream_valid (label, i) hmem

theorem getUpstreamPort_lt {pm : PortManager} {label : String} {i : Nat}
    (h : pm.getUpstreamPort label = some i) : i < pm.upstreamPorts.length := by
  obtain ⟨before, after, hl, _⟩ := List.lookup_eq_some_iff.mp h
  have hmem : (label, i) ∈ pm.upstreamMap := by
    rw [hl]
    exact List.mem_append_right before List.mem_cons_self
  exact pm.upstream_valid (label, i) hmem

end PortManager

end Gem5Sc
