/-
  File:      Gem5Sc/Link/Backpressure.lean
  Subject:   WHAT A TICK OF THE SENDING PORT RECOVERS AFTER BACKPRESSURE.

  A packet the `UpstreamPort` has refused waits in its output channel for `tick` to forward it.
  The attempt of `trySend` is a `sendReq` on the very port that holds the packet, which finds the
  channel in use and queues the packet behind itself (`DownstreamPort.trySend_cons`). So:

  * `stuck_downTick` -- a tick leaves the `UpstreamPort`, the number of packets in every output
    channel, and every empty output channel exactly as they are;
  * `recovered_iff_empty` -- hence ticks recover a channel only when it has nothing to recover.
-/
import Gem5Sc.Link

namespace Gem5Sc.Link

/-- From `l` to `l'` the packets of output channel `v` have moved, in order, to the end of input
    channel `v`, one `forwarded` each and no `dropped`. -/
structure Recovered (v : Nat) (l l' : Link) : Prop where
  arrived : l'.inp v = l.inp v ++ l.out v
  emptied : l'.out v = []
  forwarded : (l'.down.vc v).forwarded =
    (l.down.vc v).forwarded + UInt64.ofNat (l.out v).length
  dropped : (l'.down.vc v).dropped = (l.down.vc v).dropped

/-- Nothing has left the `DownstreamPort`. -/
structure Stuck (l l' : Link) : Prop where
  up : l'.up = l.up
  length : ∀ v, (l'.out v).length = (l.out v).length
  idle : ∀ v, l.out v = [] → l'.down.vc v = l.down.vc v

theorem Stuck.refl (l : Link) : Stuck l l := ⟨rfl, fun _ => rfl, fun _ _ => rfl⟩

theorem Stuck.empty {l l' : Link} (h : Stuck l l') {v : Nat} (he : l.out v = []) :
    l'.out v = [] := by
  rw [← List.length_eq_zero_iff, h.length, he]
  rfl

theorem Stuck.trans {l₁ l₂ l₃ : Link} (h12 : Stuck l₁ l₂) (h23 : Stuck l₂ l₃) : Stuck l₁ l₃ where
  up := h23.up.trans h12.up
  length v := (h23.length v).trans (h12.length v)
  idle v he := (h23.idle v (h12.empty he)).trans (h12.idle v he)

/-- The round for channel `i` leaves an empty channel alone, counters included. -/
theorem forward_idle {l : Link} (hI : Inv l) (now : UInt64) (i : Nat) {v : Nat}
    (he : l.out v = []) : (l.forward now i).down.vc v = l.down.vc v := by
  unfold forward
  cases hb : l.out i with
  | nil => rw [DownstreamPort.trySend_nil hb]
  | cons p rest =>
      have hiv : i ≠ v := by
        rintro rfl
        rw [he] at hb
        cases hb
      have hp : (l.heap.packet p).vcId = i := hI.outVc i p (by rw [hb]; exact List.mem_cons_self)
      rw [DownstreamPort.trySend_cons (lt_of_out_cons hb) hb hp]
      split
      · exact DownstreamPort.setVc_vc_ne _ hiv _
      · exact DownstreamPort.setVc_vc_ne _ hiv _

theorem stuck_forward {l : Link} (hI : Inv l) (now : UInt64) (i : Nat) :
    Stuck l (l.forward now i) := by
  obtain ⟨hc, hup, -⟩ := forward_cases l now i (hI.outVc i)
  refine ⟨hup, fun v => ?_, fun v he => forward_idle hI now i he⟩
  cases hc with
  | idle _ h => rw [h]
  | dropped p rest hb hout => rw [hout]
  | rotated p rest hb hout =>
      rw [hout]
      by_cases hv : v = i
      · subst hv
        rw [Function.update_self, hb, List.length_append, List.length_singleton, List.length_cons]
      · rw [Function.update_of_ne hv]

/-- **A tick moves nothing out of the port**, in every state a run of the link reaches. -/
theorem stuck_downTick {l : Link} (hI : Inv l) (now : UInt64) : Stuck l (l.downTick now) := by
  rw [downTick_eq]
  exact (Library.run_invariant (I := fun l' => Inv l' ∧ Stuck l l') ⟨hI, Stuck.refl l⟩
    (fun _ i h => ⟨inv_forward h.1 now i, h.2.trans (stuck_forward h.1 now i)⟩) _).2

theorem stuck_downTicks {l : Link} (hI : Inv l) (nows : List UInt64) :
    Stuck l (Library.run downTick l nows) :=
  (Library.run_invariant (I := fun l' => Inv l' ∧ Stuck l l') ⟨hI, Stuck.refl l⟩
    (fun _ now h => ⟨inv_step h.1 (.downTick now), h.2.trans (stuck_downTick h.1 now)⟩) _).2

/-- **RECOVERY AFTER BACKPRESSURE.** In every state that a run of a link reaches, and after any
    number of consecutive ticks of the `DownstreamPort`, whatever room the `UpstreamPort` has:
    output channel `v` has been recovered if and only if it was empty to begin with. -/
theorem recovered_iff_empty (outSizes outPriorities inSizes inPriorities : List Nat)
    (acts : List Action) (v : Nat) (nows : List UInt64) :
    let l := Library.run step (create outSizes outPriorities inSizes inPriorities) acts
    Recovered v l (Library.run downTick l nows) ↔ l.out v = [] := by
  intro l
  have hs : Stuck l (Library.run downTick l nows) :=
    stuck_downTicks (inv_run outSizes outPriorities inSizes inPriorities acts) nows
  constructor
  · intro h
    rw [← List.length_eq_zero_iff, ← hs.length, h.emptied]
    rfl
  · intro he
    have hvc := hs.idle v he
    refine ⟨?_, hs.empty he, ?_, ?_⟩
    · rw [he, List.append_nil]
      unfold inp
      rw [hs.up]
    · rw [hvc, he]
      exact (UInt64.add_zero _).symm
    · rw [hvc]

/-- Two packets over a link with one channel, four slots before it and one behind it: the second
    is refused and queued, the owner then takes the first. -/
def backlog : Link :=
  Library.run step (create [4] [] [1] [])
    [.sendReq {} 0, .sendReq {} 1, .upTick fun _ => .accept true]

/-- One packet waits, there is room for one, and one tick does not bring it over. -/
theorem backlog_not_recovered :
    (backlog.out 0).length = 1 ∧ (backlog.inp 0).length + 1 ≤ (backlog.up.vc 0).capacity ∧
      ¬ Recovered 0 backlog (Library.run downTick backlog [3]) := by
  refine ⟨by decide, by decide, fun h => ?_⟩
  exact absurd h.emptied (by decide)

end Gem5Sc.Link
