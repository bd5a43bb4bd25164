/-
  File:      Gem5Sc/PortStats/Delays.lean
  Subject:   WHAT THE DELAY FIELDS OF A `PortStats` KNOW of the samples recorded in it.

  `Summary s l`: `total_delay`, `min_delay` and `max_delay` of `s` are those of the samples `l`,
  the total modulo 2^64. A sample adds to the list, `merge` joins two lists, `reset` empties it and
  everything else leaves it alone; the minimum and the maximum bound the exact total from both
  sides (`Summary.bounds`).

  Which packet leaves a sample, and which one, is `MasterPort.sample` and `SlavePort.sample`.
-/
import Gem5Sc.PortManager.Statistics
import Mathlib.Algebra.Group.Action.Defs
import Mathlib.Algebra.Order.BigOperators.Group.List
import Mathlib.Algebra.Order.Ring.Nat

namespace Gem5Sc

/-- The total of the samples in exact arithmetic. -/
def exactTotal (l : List UInt64) : Nat := (l.map UInt64.toNat).sum

theorem exactTotal_append (l k : List UInt64) :
    exactTotal (l ++ k) = exactTotal l + exactTotal k := by
  unfold exactTotal
  rw [List.map_append, List.sum_append]

/-- The delay fields of `s` are those of the samples `l`. -/
structure PortStats.Summary (s : PortStats) (l : List UInt64) : Prop where
  total : s.totalDelay.toNat = exactTotal l % 2 ^ 64
  lower : ∀ d ∈ l, s.minDelay.toNat ≤ d.toNat
  upper : ∀ d ∈ l, d.toNat ≤ s.maxDelay.toNat
  least : s.minDelay ∈ l ∨ l = [] ∧ s.minDelay = 0xFFFFFFFFFFFFFFFF
  greatest : s.maxDelay ∈ l ∨ l = [] ∧ s.maxDelay = 0

namespace PortStats

/-- The delay fields of two statistics are the same. -/
structure SameDelays (s t : PortStats) : Prop where
  total : t.totalDelay = s.totalDelay
  min : t.minDelay = s.minDelay
  max : t.maxDelay = s.maxDelay

variable {s t : PortStats} {l k : List UInt64}

theorem Summary.congr (h : s.Summary l) (hst : SameDelays s t) : t.Summary l := by
  refine ⟨?_, ?_, ?_, ?_, ?_⟩
  · rw [hst.total]
    exact h.total
  · rw [hst.min]
    exact h.lower
  · rw [hst.max]
    exact h.upper
  · rw [hst.min]
    exact h.least
  · rw [hst.max]
    exact h.greatest

/-- Fresh counters and counters after `reset`. -/
theorem summary_default : Summary {} [] :=
  ⟨rfl, fun _ hd => absurd hd List.not_mem_nil, fun _ hd => absurd hd List.not_mem_nil,
    Or.inr ⟨rfl, rfl⟩, Or.inr ⟨rfl, rfl⟩⟩

theorem Summary.minDelay_le (h : s.Summary l) (hk : ∀ d ∈ k, t.minDelay.toNat ≤ d.toNat) :
    ∀ d ∈ l ++ k, min s.minDelay.toNat t.minDelay.toNat ≤ d.toNat := by
  intro d hd
  rcases List.mem_append.mp hd with hd | hd
  · exact Nat.le_trans (Nat.min_le_left _ _) (h.lower d hd)
  · exact Nat.le_trans (Nat.min_le_right _ _) (hk d hd)

theorem Summary.le_maxDelay (h : s.Summary l) (hk : ∀ d ∈ k, d.toNat ≤ t.maxDelay.toNat) :
    ∀ d ∈ l ++ k, d.toNat ≤ max s.maxDelay.toNat t.maxDelay.toNat := by
  intro d hd
  rcases List.mem_append.mp hd with hd | hd
  · exact Nat.le_trans (h.upper d hd) (Nat.le_max_left _ _)
  · exact Nat.le_trans (hk d hd) (Nat.le_max_right _ _)

/-- Of two lists the smaller minimum is in one of them. -/
theorem least_merge (hs : s.minDelay ∈ l ∨ l = [] ∧ s.minDelay = 0xFFFFFFFFFFFFFFFF)
    (ht : t.minDelay ∈ k ∨ k = [] ∧ t.minDelay = 0xFFFFFFFFFFFFFFFF) :
    (s.merge t).minDelay ∈ l ++ k ∨ l ++ k = [] ∧ (s.merge t).minDelay = 0xFFFFFFFFFFFFFFFF := by
  have htop : ∀ x : UInt64, ¬ (0xFFFFFFFFFFFFFFFF : UInt64) < x := by
    intro x hx
    have hlt : 2 ^ 64 - 1 < x.toNat := UInt64.lt_iff_toNat_lt.mp hx
    have hx64 := x.toNat_lt
    omega
  simp only [merge]
  split
  · next hlt =>
      rcases ht with ht | ⟨-, ht⟩
      · exact Or.inl (List.mem_append_right l ht)
      · exact absurd (ht ▸ hlt) (htop _)
  · next hge =>
      rcases hs with hs | ⟨rfl, hs⟩
      · exact Or.inl (List.mem_append_left k hs)
      · rcases ht with ht | ⟨rfl, ht⟩
        · -- the left list is empty, so its minimum is not below the right one
          have heq : t.minDelay = s.minDelay := by
            rw [hs] at hge ⊢
            rw [UInt64.lt_iff_toNat_lt] at hge
            apply UInt64.toNat_inj.mp
            have ht64 := t.minDelay.toNat_lt
            have htopNat : (0xFFFFFFFFFFFFFFFF : UInt64).toNat = 2 ^ 64 - 1 := rfl
            omega
          exact Or.inl (heq ▸ ht)
        · exact Or.inr ⟨rfl, hs⟩

/-- And so is the greater maximum. -/
theorem greatest_merge (hs : s.maxDelay ∈ l ∨ l = [] ∧ s.maxDelay = 0)
    (ht : t.maxDelay ∈ k ∨ k = [] ∧ t.maxDelay = 0) :
    (s.merge t).maxDelay ∈ l ++ k ∨ l ++ k = [] ∧ (s.merge t).maxDelay = 0 := by
  simp only [merge]
  split
  · next hgt =>
      rcases ht with ht | ⟨-, ht⟩
      · exact Or.inl (List.mem_append_right l ht)
      · rw [gt_iff_lt, ht] at hgt
        exact absurd hgt (UInt64.not_lt_zero)
  · next hle =>
      rcases hs with hs | ⟨rfl, hs⟩
      · exact Or.inl (List.mem_append_left k hs)
      · rcases ht with ht | ⟨rfl, ht⟩
        · have heq : t.maxDelay = s.maxDelay := by
            rw [hs] at hle ⊢
            rw [gt_iff_lt, UInt64.lt_iff_toNat_lt] at hle
            apply UInt64.toNat_inj.mp
            have hzero : (0 : UInt64).toNat = 0 := rfl
            omega
          exact Or.inl (heq ▸ ht)
        · exact Or.inr ⟨rfl, hs⟩

/-- **`merge` joins the samples.** -/
theorem Summary.merge (hs : s.Summary l) (ht : t.Summary k) : (s.merge t).Summary (l ++ k) := by
  refine ⟨?_, ?_, ?_, least_merge hs.least ht.least, greatest_merge hs.greatest ht.greatest⟩
  · show (s.totalDelay + t.totalDelay).toNat = _
    rw [UInt64.toNat_add, hs.total, ht.total, exactTotal_append, ← Nat.add_mod]
  · rw [show (s.merge t).minDelay.toNat = min s.minDelay.toNat t.minDelay.toNat from
      toNat_smaller _ _]
    exact hs.minDelay_le ht.lower
  · rw [show (s.merge t).maxDelay.toNat = max s.maxDelay.toNat t.maxDelay.toNat from
      toNat_greater _ _]
    exact hs.le_maxDelay ht.upper

/-- **A sample is one more.** -/
theorem Summary.addDelay (h : s.Summary l) (d : UInt64) : (s.addDelay d).Summary (l ++ [d]) := by
  have hone : Summary { totalDelay := d, minDelay := d, maxDelay := d } [d] := by
    refine ⟨?_, ?_, ?_, Or.inl List.mem_cons_self, Or.inl List.mem_cons_self⟩
    · show d.toNat = (d.toNat + 0) % 2 ^ 64
      have hd := d.toNat_lt
      omega
    · intro x hx
      rw [List.mem_singleton.mp hx]
    · intro x hx
      rw [List.mem_singleton.mp hx]
  exact (h.merge hone).congr ⟨rfl, rfl, rfl⟩

/-- **Minimum and maximum bound the exact total**, and each other if there is a sample. -/
theorem Summary.bounds (h : s.Summary l) :
    l.length * s.minDelay.toNat ≤ exactTotal l ∧ exactTotal l ≤ l.length * s.maxDelay.toNat := by
  constructor
  · have hlow : ∀ x ∈ l.map UInt64.toNat, s.minDelay.toNat ≤ x := by
      intro x hx
      obtain ⟨d, hd, rfl⟩ := List.mem_map.mp hx
      exact h.lower d hd
    have hsum := List.card_nsmul_le_sum (l.map UInt64.toNat) s.minDelay.toNat hlow
    rw [List.length_map, smul_eq_mul] at hsum
    exact hsum
  · have hhigh : ∀ x ∈ l.map UInt64.toNat, x ≤ s.maxDelay.toNat := by
      intro x hx
      obtain ⟨d, hd, rfl⟩ := List.mem_map.mp hx
      exact h.upper d hd
    have hsum := List.sum_le_card_nsmul (l.map UInt64.toNat) s.maxDelay.toNat hhigh
    rw [List.length_map, smul_eq_mul] at hsum
    exact hsum

theorem Summary.min_le_max (h : s.Summary l) (hne : l ≠ []) : s.minDelay ≤ s.maxDelay := by
  obtain ⟨d, hd⟩ := List.exists_mem_of_ne_nil l hne
  exact UInt64.le_iff_toNat_le.mpr (Nat.le_trans (h.lower d hd) (h.upper d hd))

end PortStats

/-! ## The samples of the two kinds of port -/

/-- The delay `MasterPort::updateStats` records for a packet, if any. -/
def MasterPort.sample (h : Heap) (p : PacketId) : Option UInt64 :=
  if (h.packet p).isResponse then
    (h.packet p).originalReq.map fun r => (h.packet p).dstCycle - (h.packet r).srcCycle
  else none

/-- The delay `SlavePort::updateStats` records for a packet, if any. -/
def SlavePort.sample (h : Heap) (p : PacketId) : Option UInt64 :=
  if (h.packet p).originalReq.isSome && !(h.packet p).isCredit then
    some (h.packet p).getDelayCycles
  else none

section Samples

variable {s : PortStats} {l : List UInt64} {h : Heap} {p : PacketId}

/-- **`MasterPort::updateStats` records its sample and no other.** -/
theorem MasterPort.summary_updateStats (hs : s.Summary l) :
    (MasterPort.updateStats h p s).Summary (l ++ (MasterPort.sample h p).toList) := by
  unfold MasterPort.updateStats MasterPort.sample
  dsimp only
  by_cases hresp : (h.packet p).isResponse = true
  · rw [if_pos hresp, if_pos hresp]
    have hcount : PortStats.Summary
        { s with respCount := s.respCount + 1, byteCount := s.byteCount + h.dataLength p } l :=
      hs.congr ⟨rfl, rfl, rfl⟩
    cases (h.packet p).originalReq with
    | none => exact (List.append_nil l).symm ▸ hcount
    | some r => exact hcount.addDelay _
  · rw [if_neg hresp, if_neg hresp, Option.toList_none, List.append_nil]
    split
    · exact hs.congr ⟨rfl, rfl, rfl⟩
    · exact hs

/-- **`SlavePort::updateStats` records its sample and no other.** -/
theorem SlavePort.summary_updateStats (hs : s.Summary l) :
    (SlavePort.updateStats h p s).Summary (l ++ (SlavePort.sample h p).toList) := by
  have hdelay : PortStats.Summary
      (if (h.packet p).originalReq.isSome && !(h.packet p).isCredit then
        s.addDelay (h.packet p).getDelayCycles else s)
      (l ++ (SlavePort.sample h p).toList) := by
    unfold SlavePort.sample
    split
    · exact hs.addDelay _
    · exact (List.append_nil l).symm ▸ hs
  unfold SlavePort.updateStats
  dsimp only
  split
  · exact hdelay.congr ⟨rfl, rfl, rfl⟩
  · split
    · exact hdelay.congr ⟨rfl, rfl, rfl⟩
    · exact hdelay

/-- Sending records none. -/
theorem MasterPort.summary_countSend (hs : s.Summary l) :
    (MasterPort.countSend h p s).Summary l := by
  unfold MasterPort.countSend
  dsimp only
  split
  · exact hs.congr ⟨rfl, rfl, rfl⟩
  · split
    · exact hs.congr ⟨rfl, rfl, rfl⟩
    · exact hs

end Samples

end Gem5Sc
