/-
  File:      Gem5Sc/PortManager/Sound.lean
  Subject:   THE PORTS OF A MODULE AS THE FACTORY LEAVES THEM: numbered, labelled and empty.

  A port is created with the number of ports before it as its id, and a label that is used again
  leads to the port created last (`Sound.upstreamLabel`). Nothing is in a channel before a packet
  is sent. Every method of `PortManager` keeps this.
-/
import Gem5Sc.PortManager

namespace Gem5Sc

/-- The last place where `l` stands in a list. -/
def LastAt (ls : List String) (l : String) (i : Nat) : Prop :=
  ls[i]? = some l ∧ ∀ j, i < j → ls[j]? ≠ some l

theorem LastAt.lt {ls : List String} {l : String} {i : Nat} (h : LastAt ls l i) : i < ls.length :=
  (List.getElem?_eq_some_iff.mp h.1).1

/-- One more label. -/
theorem lastAt_append {ls : List String} {l k : String} {i : Nat} :
    LastAt (ls ++ [k]) l i ↔ (l = k ∧ i = ls.length) ∨ (l ≠ k ∧ LastAt ls l i) := by
  have hnew : (ls ++ [k])[ls.length]? = some k := List.getElem?_concat_length
  constructor
  · intro h
    have hi : i ≤ ls.length := by
      have hlt := h.lt
      rw [List.length_append, List.length_singleton] at hlt
      omega
    rcases Nat.lt_or_eq_of_le hi with hlt | rfl
    · have hold : ∀ j < ls.length, (ls ++ [k])[j]? = ls[j]? :=
        fun j hj => List.getElem?_append_left hj
      refine Or.inr ⟨fun hl => h.2 ls.length hlt (hl ▸ hnew), ?_, fun j hj hls => ?_⟩
      · rw [← hold i hlt]
        exact h.1
      · have hlen : j < ls.length := (List.getElem?_eq_some_iff.mp hls).1
        exact h.2 j hj ((hold j hlen).trans hls)
    · rw [LastAt, hnew, Option.some.injEq] at h
      exact Or.inl ⟨h.1.symm, rfl⟩
  · rintro (⟨rfl, rfl⟩ | ⟨hne, h⟩)
    · refine ⟨hnew, fun j hj hls => ?_⟩
      have hlt := (List.getElem?_eq_some_iff.mp hls).1
      rw [List.length_append, List.length_singleton] at hlt
      omega
    · refine ⟨(List.getElem?_append_left h.lt).trans h.1, fun j hj hls => ?_⟩
      rcases Nat.lt_or_ge j ls.length with hlt | hge
      · exact h.2 j hj ((List.getElem?_append_left hlt).symm.trans hls)
      · have hlt := (List.getElem?_eq_some_iff.mp hls).1
        rw [List.length_append, List.length_singleton] at hlt
        obtain rfl : j = ls.length := by omega
        exact hne (Option.some.inj (hls.symm.trans hnew))

/-- A map of labels leads to the last port with the label; no label is no label. -/
def Leads (m : List (String × Nat)) (ls : List String) : Prop :=
  ∀ l i, m.lookup l = some i ↔ l ≠ "" ∧ LastAt ls l i

theorem Leads.nil : Leads [] [] := fun l i => by
  simp [LastAt]

/-- **A port is added.** -/
theorem Leads.add {m : List (String × Nat)} {ls : List String} (h : Leads m ls) (k : String) :
    Leads (if k = "" then m else setKey m k ls.length) (ls ++ [k]) := by
  intro l i
  rw [lastAt_append]
  by_cases hk : k = ""
  · subst hk
    rw [if_pos rfl, h l i]
    refine ⟨fun ⟨hne, hl⟩ => ⟨hne, Or.inr ⟨hne, hl⟩⟩, fun ⟨hne, hl⟩ => ⟨hne, ?_⟩⟩
    exact (hl.resolve_left fun hl => hne hl.1).2
  · rw [if_neg hk]
    by_cases hl : l = k
    · subst hl
      rw [lookup_setKey_self, Option.some.injEq]
      refine ⟨fun hi => ⟨hk, Or.inl ⟨rfl, hi.symm⟩⟩, fun ⟨_, hi⟩ => ?_⟩
      exact ((hi.resolve_right fun hi => hi.1 rfl).2).symm
    · rw [lookup_setKey_of_ne m _ hl, h l i]
      refine ⟨fun ⟨hne, hi⟩ => ⟨hne, Or.inr ⟨hl, hi⟩⟩, fun ⟨hne, hi⟩ => ⟨hne, ?_⟩⟩
      exact (hi.resolve_left fun hi => hl hi.1).2

namespace PortManager

/-- Nothing has been sent yet. -/
structure Sound (pm : PortManager) : Prop where
  upstreamId : ∀ (j : Nat) (u : UpstreamPort), pm.upstreamPorts[j]? = some u → u.id = j
  downstreamId : ∀ (i : Nat) (d : DownstreamPort), pm.downstreamPorts[i]? = some d → d.id = i
  upstreamLabel : Leads pm.upstreamMap (pm.upstreamPorts.map (·.label))
  downstreamLabel : Leads pm.downstreamMap (pm.downstreamPorts.map (·.label))
  input : ∀ u ∈ pm.upstreamPorts, ∀ vc ∈ u.inputVcs, vc.buffer = []
  output : ∀ d ∈ pm.downstreamPorts, ∀ vc ∈ d.outputVcs, vc.buffer = []

/-- A port behind the others. -/
theorem getElem?_concat {α : Type} {l : List α} {x y : α} {i : Nat} (h : (l ++ [x])[i]? = some y) :
    l[i]? = some y ∨ (i = l.length ∧ y = x) := by
  rcases Nat.lt_or_ge i l.length with hlt | hge
  · exact Or.inl ((List.getElem?_append_left hlt).symm.trans h)
  · have hi := (List.getElem?_eq_some_iff.mp h).1
    rw [List.length_append, List.length_singleton] at hi
    obtain rfl : i = l.length := by omega
    rw [List.getElem?_concat_length, Option.some.injEq] at h
    exact Or.inr ⟨rfl, h.symm⟩

namespace Sound

theorem empty : Sound {} where
  upstreamId _ _ h := by cases h
  downstreamId _ _ h := by cases h
  upstreamLabel := .nil
  downstreamLabel := .nil
  input _ h := absurd h List.not_mem_nil
  output _ h := absurd h List.not_mem_nil

variable {pm : PortManager}

theorem addUpstreamPort (h : pm.Sound) (inSizes priorities : List Nat) (label : String) :
    (pm.addUpstreamPort inSizes priorities label).Sound where
  upstreamId j u hu := by
    rcases getElem?_concat hu with hu | ⟨rfl, rfl⟩
    · exact h.upstreamId j u hu
    · rfl
  downstreamId := h.downstreamId
  upstreamLabel := by
    have hadd := h.upstreamLabel.add label
    rw [List.length_map] at hadd
    simp only [PortManager.addUpstreamPort, List.map_append]
    exact hadd
  downstreamLabel := h.downstreamLabel
  input u hu := by
    rcases List.mem_append.mp hu with hu | hu
    · exact h.input u hu
    · rw [List.mem_singleton.mp hu]
      intro vc hvc
      obtain ⟨i, hi, rfl⟩ := List.mem_mapIdx.mp hvc
      rfl
  output := h.output

theorem addDownstreamPort (h : pm.Sound) (outSizes priorities : List Nat) (label : String) :
    (pm.addDownstreamPort outSizes priorities label).Sound where
  upstreamId := h.upstreamId
  downstreamId i d hd := by
    rcases getElem?_concat hd with hd | ⟨rfl, rfl⟩
    · exact h.downstreamId i d hd
    · rfl
  upstreamLabel := h.upstreamLabel
  downstreamLabel := by
    have hadd := h.downstreamLabel.add label
    rw [List.length_map] at hadd
    simp only [PortManager.addDownstreamPort, List.map_append]
    exact hadd
  input := h.input
  output d hd := by
    rcases List.mem_append.mp hd with hd | hd
    · exact h.output d hd
    · rw [List.mem_singleton.mp hd]
      intro vc hvc
      obtain ⟨i, hi, rfl⟩ := List.mem_mapIdx.mp hvc
      rfl

/-- The delay is nothing the others read. -/
theorem setDelay (h : pm.Sound) (i : Nat) (delay : Int) : (pm.setDelay i delay).Sound := by
  have hget : ∀ (k : Nat) (d' : DownstreamPort),
      (pm.setDelay i delay).downstreamPorts[k]? = some d' → ∃ d : DownstreamPort,
        pm.downstreamPorts[k]? = some d ∧ d'.id = d.id ∧ d'.outputVcs = d.outputVcs := by
    intro k d' hd'
    simp only [PortManager.setDelay, List.getElem?_modify] at hd'
    obtain ⟨d, hd, rfl⟩ := Option.map_eq_some_iff.mp hd'
    refine ⟨d, hd, ?_, ?_⟩
    · split <;> rfl
    · split <;> rfl
  refine ⟨h.upstreamId, fun k d' hd' => ?_, h.upstreamLabel, ?_, h.input, fun d' hd' => ?_⟩
  · obtain ⟨d, hd, hid, -⟩ := hget k d' hd'
    exact hid.trans (h.downstreamId k d hd)
  · have hlabels : (pm.setDelay i delay).downstreamPorts.map (·.label) =
        pm.downstreamPorts.map (·.label) := by
      refine List.ext_getElem? fun k => ?_
      simp only [PortManager.setDelay, List.getElem?_map, List.getElem?_modify]
      cases pm.downstreamPorts[k]? with
      | none => rfl
      | some d => by_cases hk : i = k <;> simp [hk]
    rw [hlabels]
    exact h.downstreamLabel
  · obtain ⟨k, hk⟩ := List.getElem?_of_mem hd'
    obtain ⟨d, hd, -, hvcs⟩ := hget k d' hk
    rw [hvcs]
    exact h.output d (List.mem_of_getElem? hd)

theorem resetAllStats (h : pm.Sound) : pm.resetAllStats.Sound where
  upstreamId j u hu := by
    simp only [PortManager.resetAllStats, List.getElem?_map] at hu
    obtain ⟨u₀, hu₀, rfl⟩ := Option.map_eq_some_iff.mp hu
    exact h.upstreamId j u₀ hu₀
  downstreamId i d hd := by
    simp only [PortManager.resetAllStats, List.getElem?_map] at hd
    obtain ⟨d₀, hd₀, rfl⟩ := Option.map_eq_some_iff.mp hd
    exact h.downstreamId i d₀ hd₀
  upstreamLabel := by
    simp only [PortManager.resetAllStats, List.map_map]
    exact h.upstreamLabel
  downstreamLabel := by
    simp only [PortManager.resetAllStats, List.map_map]
    exact h.downstreamLabel
  input u hu := by
    obtain ⟨u₀, hu₀, rfl⟩ := List.mem_map.mp hu
    exact h.input u₀ hu₀
  output d hd := by
    obtain ⟨d₀, hd₀, rfl⟩ := List.mem_map.mp hd
    exact h.output d₀ hd₀

end Sound

end PortManager

end Gem5Sc
