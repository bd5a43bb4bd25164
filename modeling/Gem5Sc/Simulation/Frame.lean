/-
  File:      Gem5Sc/Simulation/Frame.lean
  Subject:   WHAT AN EVENT LEAVES ALONE, for any system of modules.

  The code of an event writes to modules and their ports, schedules, and notes what a tick has
  found. A property that each of these keeps (`Frame`) is kept by the whole event
  (`tickModule_keeps`, `runLambda_keeps`). No module ticks a port, so nothing is asked of that.
-/
import Gem5Sc.Simulation

namespace Gem5Sc.Fabric

/-- A property that no single write of an event breaks. -/
structure Frame (J : Fabric → Prop) : Prop where
  inst : ∀ f a x, J f → J (f.setInst a x)
  /-- What an event reaches is scheduled for the next cycle. -/
  schedule : ∀ f a e, J f → J (schedule a e 1 f)
  note : ∀ f now a n, J f → J { f.record now a with drawn := n }

section Keeps

variable {J : Fabric → Prop} {now : UInt64} {a : Nat}

theorem recvReqAt_keeps (hJ : Frame J) (b j : Nat) (p : PacketId) (w : Heap × Fabric)
    (hw : J w.2) : J (recvReqAt now b j p w).2.2 := by
  unfold recvReqAt
  split
  · exact hw
  · exact hJ.inst _ _ _ hw

theorem sendReqAt_keeps (hJ : Frame J) (i : Nat) (p : PacketId) (w : Heap × Fabric) (hw : J w.2) :
    J (sendReqAt now a i p w).2.2 := by
  unfold sendReqAt
  split
  · exact hw
  · next d _ =>
      have hpeer : ∀ recv, w.2.downPeer now a i = some recv → ∀ p (w : Heap × Fabric),
          J w.2 → J (recv p w).2.2 := by
        intro recv hrecv p w hw
        obtain ⟨x, -, rfl⟩ := Option.map_eq_some_iff.mp hrecv
        exact recvReqAt_keeps hJ x.1 x.2 p w hw
      exact hJ.inst _ _ _ (DownstreamPort.sendReq_keeps hpeer d p w hw)

theorem ownerResponse_keeps (hJ : Frame J) (b : Nat) (p : PacketId) (id : Nat) (label : String)
    (w : Heap × Fabric) (hw : J w.2) : J (ownerResponse b now p id label w).2.2 :=
  hJ.inst _ _ _ (Module.handleDownstreamResponse_keeps (c := inert b now w.2)
    (fun e r hr => hJ.schedule r b e hr) (w.2.inst b).mod p id w hw)

theorem recvRespAt_keeps (hJ : Frame J) (b i : Nat) (p : PacketId) (w : Heap × Fabric)
    (hw : J w.2) : J (recvRespAt now b i p w).2.2 := by
  unfold recvRespAt
  split
  · exact hw
  · next d _ =>
      exact hJ.inst _ _ _ (ownerResponse_keeps hJ b p d.id d.label (w.1.setDstCycle p now, w.2) hw)

theorem sendRespAt_keeps (hJ : Frame J) (j : Nat) (p : PacketId) (w : Heap × Fabric) (hw : J w.2) :
    J (sendRespAt now a j p w).2.2 := by
  unfold sendRespAt
  split
  · exact hw
  · refine hJ.inst _ _ _ ?_
    show J (SimplePort.send (w.2.upPeer now a j) p w).2.2
    unfold SimplePort.send
    split
    · next recv hrecv =>
        obtain ⟨x, -, rfl⟩ := Option.map_eq_some_iff.mp hrecv
        exact recvRespAt_keeps hJ x.1 x.2 p w hw
    · exact hw

/-- **A tick keeps it.** -/
theorem tickModule_keeps (hJ : Frame J) (w : Heap × Fabric) (hw : J w.2) :
    J (tickModule now a w).2 :=
  hJ.inst _ _ _ (Module.tick_keeps (fun i p w => sendReqAt_keeps hJ i p w) _ _
    (w.1, { w.2.record now a with drawn := w.2.drawn + 1 }) (hJ.note _ _ _ _ hw))

/-- **So does a `LambdaEvent`.** -/
theorem runLambda_keeps (hJ : Frame J) (e : Deferred) (w : Heap × Fabric) (hw : J w.2) :
    J (runLambda now a e w).2 :=
  hJ.inst _ _ _ (Module.runDeferred_keeps (c := context a now w.2)
    (fun i p w => sendReqAt_keeps hJ i p w) (fun j p w => sendRespAt_keeps hJ j p w)
    (w.2.inst a).mod e w hw)

end Keeps

end Gem5Sc.Fabric
