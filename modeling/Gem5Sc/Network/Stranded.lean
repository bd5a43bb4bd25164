/-
  File:      Gem5Sc/Network/Stranded.lean
  Subject:   AN OUTPUT QUEUE NEVER DRAINS.

  `DownstreamPort::tick` hands the head of an output channel to `trySend`, which puts it back at the
  end, or deletes it where it stands. So no event in any order takes a packet out of an output
  channel (`SmallStep.output`), and a request that has to wait there once is never answered
  (`queued_stranded`).
-/
import Gem5Sc.Network.Custody

namespace Gem5Sc

/-- What stands in output channel `v` of downstream port `i` of module `a`. -/
def Fabric.output (f : Fabric) (a i v : Nat) : Multiset PacketId :=
  match (f.inst a).down[i]? with
  | some d => (d.channels.getD v default).buffer
  | none => 0

namespace Fabric

variable {f f' : Fabric} {a i v : Nat}

theorem output_congr (h : (f'.inst a).down = (f.inst a).down) : f'.output a i v = f.output a i v := by
  rw [output, output, h]

/-- The channels decide. -/
theorem output_contents (h : (f'.inst a).contents = (f.inst a).contents) :
    f'.output a i v = f.output a i v := by
  have hrow := congrArg (fun x : Module × List (List Channel) × List (List Channel) =>
    x.2.2[i]?) h
  simp only [Instance.contents, List.getElem?_map] at hrow
  unfold output
  cases hd : (f.inst a).down[i]? with
  | none =>
      cases hd' : (f'.inst a).down[i]? with
      | none => rfl
      | some d' => simp [hd, hd'] at hrow
  | some d =>
      cases hd' : (f'.inst a).down[i]? with
      | none => simp [hd, hd'] at hrow
      | some d' =>
          rw [hd, hd', Option.map_some, Option.map_some, Option.some.injEq] at hrow
          simp only [hrow]

/-- What an output channel holds, the system holds. -/
theorem output_le_held {p : PacketId} (hp : p ∈ f.output a i v) : p ∈ f.held := by
  unfold output at hp
  split at hp
  · next d hd => exact mem_held_row (rows_of_down hd) hp
  · exact absurd hp (Multiset.notMem_zero p)

end Fabric

/-! ## 1. Nothing leaves -/

theorem Carry.output {c c' : Config} (hc : Carry c c') (a i v : Nat) :
    c.net.fabric.output a i v ≤ c'.net.fabric.output a i v := by
  cases hc with
  | heap ht => exact le_refl _
  | up hu hw => exact (Fabric.output_congr (Fabric.down_setUp _ _ _ _ _)).ge
  | @down n hand hand' b k d d' hd hw =>
      by_cases hba : a = b ∧ i = k
      · obtain ⟨rfl, rfl⟩ := hba
        have hd' := Fabric.down_setDown_self n.fabric a i d' hd
        simp only [Fabric.output, hd, hd']
        exact hw.kept v
      · -- another port, or another module
        have hsame : ((n.fabric.setDown b k d').inst a).down[i]? = (n.fabric.inst a).down[i]? := by
          rw [Fabric.down_setDown]
          by_cases hab : a = b
          · rw [if_pos hab, List.getElem?_set_ne fun hk => hba ⟨hab, hk.symm⟩]
          · rw [if_neg hab]
        simp only [Fabric.output, hsame]
        exact le_refl _

/-- **No small step takes a packet out of an output channel.** -/
theorem SmallStep.output {c c' : Config} (hm : SmallStep c c') (a i v : Nat) :
    c.net.fabric.output a i v ≤ c'.net.fabric.output a i v := by
  have hmod : ∀ (f : Fabric) b m, f.output a i v ≤ (f.setMod b m).output a i v :=
    fun f b m => (Fabric.output_congr (Fabric.down_setMod f b a m)).ge
  cases hm with
  | work hw =>
      cases hw with
      | turn ht =>
          cases ht with
          | carry hc => exact hc.output a i v
          | note hf hcalls hpairs => exact (Fabric.output_contents (Fabric.contents_inst hf a)).ge
          | issue t pkt b hreq horig hvc => exact le_refl _
          | forward hm hb => exact hmod _ _ _
          | track hm hlt hp haddr => exact hmod _ _ _
          | generator hm => exact hmod _ _ _
      | keep hm hroom => exact hmod _ _ _
      | untrack hm addr => exact hmod _ _ _
      | _ => exact le_refl _
  | _ => exact le_refl _

theorem SmallSteps.output {c c' : Config} (hm : SmallSteps c c') (a i v : Nat) :
    c.net.fabric.output a i v ≤ c'.net.fabric.output a i v := by
  induction hm with
  | refl => exact le_refl _
  | tail _ h ih => exact ih.trans (h.output a i v)

namespace Network

/-- From any state with the packets at their places. -/
theorem run_output {n : Network} (hn : n.Typed) (acts : List Action) (a i v : Nat) :
    n.fabric.output a i v ≤ (Library.run step n acts).fabric.output a i v := by
  induction acts generalizing n with
  | nil => exact le_refl _
  | cons act acts ih =>
      exact ((step_smallSteps hn.ready act).output a i v).trans (ih (hn.step act))

/-- **AN OUTPUT QUEUE NEVER DRAINS.** In every system of new modules and every run, events in any
    order: what stands in an output channel at some time stands there ever after, and to a request
    that does, no response is ever handed to a CPU, neither before nor later. -/
theorem queued_stranded (f : Fabric) (hf : f.Fresh) (acts rest : List Action) (a i v : Nat)
    (p : PacketId) (hp : p ∈ (Library.run step (start f) acts).fabric.output a i v) :
    p ∈ (Library.run step (start f) (acts ++ rest)).fabric.output a i v ∧
      Library.count step (fun n act => n.delivers act == some p) (start f) (acts ++ rest) = 0 := by
  have hstay : p ∈ (Library.run step (start f) (acts ++ rest)).fabric.output a i v := by
    rw [Library.run, List.foldl_append]
    exact Multiset.mem_of_le (run_output (custody_run hf acts).typed rest a i v) hp
  refine ⟨hstay, Library.count_eq_zero (I := Custody) (D := Spent p) (fun n act hc => hc.step act)
    (fun n act hc hs => hs.step hc.typed act) (fun n act hc h => ?_) (custody_start hf) fun hs => ?_⟩
  · exact (delivers_spent hc (eq_of_beq h)).2
  · exact hs.2 (Multiset.mem_add.mpr (Or.inl (Fabric.output_le_held hstay)))

/-- The third request finds the channel of the cache full and stays behind, though there is room
    again when the cache has taken the first. -/
theorem queued_stranded_chain : (2 : PacketId) ∈ (Library.run step (start .chain)
    ([.tick 1 0, .tick 2 0, .tick 3 0] ++ [.tickUp 4 1 0, .tickDown 5 0 0])).fabric.output 0 0 0 :=
  (queued_stranded .chain Fabric.chain_fresh [.tick 1 0, .tick 2 0, .tick 3 0]
    [.tickUp 4 1 0, .tickDown 5 0 0] 0 0 0 2 (by decide)).1

end Network

end Gem5Sc
