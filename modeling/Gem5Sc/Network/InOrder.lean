/-
  File:      Gem5Sc/Network/InOrder.lean
  Subject:   EVERY INPUT CHANNEL OF A SYSTEM IS A QUEUE.

  What comes in goes to the end, in whatever event it comes (`step_prefix`), and only the tick of
  the port itself takes something out: the head or nothing (`tickUpAt_input`). So after every run a
  channel holds what has come in, in this order, but for the packets at the front that its owner
  has taken (`channels_in_order`).
-/
import Gem5Sc.Network.Served
import Gem5Sc.Port.Offers

namespace Gem5Sc

/-- A tick takes the head of a channel or nothing. -/
theorem UpstreamPort.tick_buffer {ρ : Type} (handle : Handler ρ) (u : UpstreamPort) (w : Heap × ρ)
    (v : Nat) : ((u.tick handle w).1.vc v).buffer = (u.vc v).buffer ∨
      ((u.tick handle w).1.vc v).buffer = (u.vc v).buffer.tail := by
  have hround : ∀ (s : UpstreamPort × (Heap × ρ)) (i : Nat),
      ((tickVc handle s i).1.vc i).buffer = (s.1.vc i).buffer ∨
        ((tickVc handle s i).1.vc i).buffer = (s.1.vc i).buffer.tail := by
    intro s i
    cases hb : (s.1.vc i).buffer with
    | nil =>
        rw [tickVc_nil hb]
        exact Or.inl hb
    | cons p rest =>
        rw [tickVc_cons hb]
        dsimp only
        split
        · refine Or.inr ?_
          have hi : i < s.1.inputVcs.length := by
            by_contra hi
            rw [vc_of_length_le (Nat.le_of_not_lt hi)] at hb
            cases hb
          rw [setVc_vc_self hi, InputVC.pop_buffer, hb]
        · exact Or.inl hb
  -- the rounds before and after its own leave the channel alone
  have hother : ∀ (is : List Nat) (s : UpstreamPort × (Heap × ρ)), v ∉ is →
      (is.foldl (tickVc handle) s).1.vc v = s.1.vc v := by
    intro is
    induction is with
    | nil => exact fun _ _ => rfl
    | cons i is ih =>
        intro s hv
        obtain ⟨hi, his⟩ := List.ne_and_not_mem_of_not_mem_cons hv
        rw [List.foldl_cons, ih _ his, tickVc_vc_ne s (Ne.symm hi)]
  by_cases hv : v ∈ List.range u.inputVcs.length
  · obtain ⟨before, after, hsplit⟩ := List.append_of_mem hv
    have hnd : (before ++ v :: after).Nodup := hsplit ▸ List.nodup_range
    obtain ⟨-, hafter, hdisj⟩ := List.nodup_append.mp hnd
    have hbefore : v ∉ before := fun h => hdisj v h v List.mem_cons_self rfl
    rw [tick, hsplit, List.foldl_append, List.foldl_cons,
      hother after _ (List.nodup_cons.mp hafter).1]
    have h := hround (before.foldl (tickVc handle) (u, w)) v
    rwa [hother before _ hbefore] at h
  · rw [tick, hother _ _ hv]
    exact Or.inl rfl

namespace Network

variable {a j v : Nat}

/-- **A tick of the port itself.** -/
theorem tickUpAt_input (n : Network) (now : UInt64) (a j v : Nat) :
    (n.step (.tickUp now a j)).fabric.input a j v = n.fabric.input a j v ∨
      (n.step (.tickUp now a j)).fabric.input a j v = (n.fabric.input a j v).tail := by
  show (Fabric.tickUpAt now a j n.world).2.input a j v = n.fabric.input a j v ∨
    (Fabric.tickUpAt now a j n.world).2.input a j v = (n.fabric.input a j v).tail
  unfold Fabric.tickUpAt
  split
  · exact Or.inl rfl
  · next u hu =>
      have hu : (n.fabric.inst a).up[j]? = some u := hu
      have hin : n.fabric.input a j v = (u.vc v).buffer := by rw [Fabric.input, hu]
      have hin' : ((u.tick (offered now a j) n.world).2.2.setUp a j
          (u.tick (offered now a j) n.world).1).input a j v =
          ((u.tick (offered now a j) n.world).1.vc v).buffer := by
        -- the ticked port is written back
        have hport : ((u.tick (offered now a j) n.world).2.2.inst a).up[j]? = some u := by
          rw [tick_offered_up, hu]
        rw [Fabric.input, Fabric.up_setUp_self _ _ _ _ hport]
      rw [hin]
      exact hin'.symm ▸ u.tick_buffer (offered now a j) n.world v

/-- A packet is taken out of the channel. -/
def takes (a j v : Nat) (n : Network) (act : Action) : Bool :=
  act.ticksUp a j &&
    ((n.step act).fabric.input a j v).length < (n.fabric.input a j v).length

/-- The packets that come into the channel. -/
def arrivals (a j v : Nat) (n : Network) (act : Action) : List PacketId :=
  if act.ticksUp a j then []
  else ((n.step act).fabric.input a j v).drop (n.fabric.input a j v).length

/-- **EVERY INPUT CHANNEL IS A QUEUE.** From every state on, after every run, events in any order:
    an input channel holds what it held and what has come in since, in this order, without as many
    packets from the front as ticks of its port have taken. -/
theorem channels_in_order (n : Network) (acts : List Action) (a j v : Nat) :
    (Library.run step n acts).fabric.input a j v =
      (n.fabric.input a j v ++ Library.collect step (arrivals a j v) n acts).drop
        (Library.count step (takes a j v) n acts) := by
  refine Library.queue_run (q := fun n => n.fabric.input a j v) (fun n act => ?_)
    (fun n act hact => ?_) n acts
  · cases hact : act.ticksUp a j with
    | false =>
        have hfront : n.fabric.input a j v <+: (n.step act).fabric.input a j v :=
          step_prefix act (List.prefix_refl _) (Action.ne_tickUp hact)
        simpa [takes, arrivals, hact] using List.prefix_iff_eq_append.mp hfront |>.symm
    | true =>
        obtain ⟨now, rfl⟩ := Action.ticksUp_eq hact
        rcases tickUpAt_input n now a j v with h | h
        · simp [takes, arrivals, hact, h]
        · cases hb : n.fabric.input a j v with
          | nil => simp [takes, arrivals, hact, h, hb]
          | cons p rest => simp [takes, arrivals, hact, h, hb]
  · intro hnil
    rw [List.append_eq_nil_iff] at hnil
    simp [takes, hnil.1] at hact

end Network

end Gem5Sc
