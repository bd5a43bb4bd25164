/-
  File:      Gem5Sc/Link/Order.lean
  Subject:   IN-ORDER DELIVERY PER VIRTUAL CHANNEL, on every run of a link.

  A packet has two ways into a link: straight to the `UpstreamPort` when its output channel is
  empty, or into the output channel. The invariant `Ordered` says, for each channel by itself,
  that the packets taken by the owner, followed by the packets waiting at the `UpstreamPort`, are
  a prefix of the packets `sendReq` took -- and all of them as long as the output channel is
  empty. An output channel once in use stays in use (`forward_cases`), so a packet behind it can
  never overtake it.
-/
import Gem5Sc.Link

namespace Gem5Sc.Link

/-- The packets of channel `v` in a list of packets. -/
def onVc (l : Link) (v : Nat) (ps : List PacketId) : List PacketId :=
  ps.filter fun p => l.vcOf p = v

/-- What has left the sending side of channel `v`: taken by the owner, or waiting for it. -/
def arrived (l : Link) (v : Nat) : List PacketId := l.onVc v l.accepted ++ l.inp v

/-- **The order invariant**, channel by channel. -/
structure Ordered (l : Link) : Prop where
  isPrefix : ∀ v, l.arrived v <+: l.onVc v l.sent
  whole : ∀ v, l.out v = [] → l.arrived v = l.onVc v l.sent

theorem onVc_append (l : Link) (v : Nat) (ps qs : List PacketId) :
    l.onVc v (ps ++ qs) = l.onVc v ps ++ l.onVc v qs := List.filter_append ps qs

theorem onVc_singleton_self {l : Link} {v : Nat} {p : PacketId} (h : l.vcOf p = v) :
    l.onVc v [p] = [p] := by
  simp [onVc, h]

theorem onVc_singleton_ne {l : Link} {v : Nat} {p : PacketId} (h : l.vcOf p ≠ v) :
    l.onVc v [p] = [] := by
  simp [onVc, h]

theorem onVc_congr {l l' : Link} {ps : List PacketId} (v : Nat)
    (h : ∀ p ∈ ps, l'.vcOf p = l.vcOf p) : l'.onVc v ps = l.onVc v ps :=
  List.filter_congr fun p hp => by rw [h p hp]

theorem ordered_create (outSizes outPriorities inSizes inPriorities : List Nat) :
    Ordered (create outSizes outPriorities inSizes inPriorities) where
  isPrefix v := by simp [arrived, onVc, create, inp]
  whole v _ := by simp [arrived, onVc, create, inp]

theorem ordered_sendReq {l : Link} (hI : Inv l) (hO : Ordered l) (pkt : Packet) (now : UInt64) :
    Ordered (l.sendReq pkt now) := by
  obtain ⟨hc, hk⟩ := sendReq_cases l pkt now
  generalize l.sendReq pkt now = l' at hc hk
  have hacc : ∀ v, l'.onVc v l'.accepted = l.onVc v l.accepted := by
    intro v
    rw [hk.accepted]
    exact onVc_congr v fun p hp => hk.vcOf_old (hI.acceptedLt p hp)
  have hsent : ∀ v, l'.onVc v l.sent = l.onVc v l.sent := fun v =>
    onVc_congr v fun p hp => hk.vcOf_old (hI.sentLt p hp)
  -- a step that takes no packet and moves none
  have hstay : l'.out = l.out → l'.inp = l.inp → l'.sent = l.sent → Ordered l' := by
    intro h1 h2 h3
    constructor
    · intro v
      rw [arrived, hacc, h2, h3, hsent]
      exact hO.isPrefix v
    · intro v hv
      have hv' : l.out v = [] := by rw [← h1]; exact hv
      rw [arrived, hacc, h2, h3, hsent]
      exact hO.whole v hv'
  -- a step that takes the packet into the output channel
  have hqueue : ∀ q, l'.out = Function.update l.out pkt.vcId.toNat q → q ≠ [] → l'.inp = l.inp →
      validVc pkt.vcId l.down.outputVcs.length = true →
      l'.sent = l.sent ++ [l.heap.nextPacket] → Ordered l' := by
    intro q h1 hq h2 hv h3
    constructor
    · intro v
      rw [arrived, hacc, h2, h3, onVc_append, hsent]
      exact (hO.isPrefix v).trans (List.prefix_append _ _)
    · intro v he
      rw [h1] at he
      by_cases hvi : v = pkt.vcId.toNat
      · subst hvi
        rw [Function.update_self] at he
        exact absurd he hq
      · rw [Function.update_of_ne hvi] at he
        have hne := hk.vcOf_new_ne hv hvi
        rw [arrived, hacc, h2, h3, onVc_append, hsent, onVc_singleton_ne hne, List.append_nil]
        exact hO.whole v he
  cases hc with
  | invalid _ hout hinp hs => exact hstay hout hinp hs
  | dropped _ _ hout hinp hs => exact hstay hout hinp hs
  | refusedDropped _ _ _ hout hinp hs => exact hstay hout hinp hs
  | queued hv _ hout hinp hs => exact hqueue _ hout (by simp) hinp hv hs
  | refusedQueued hv _ _ hout hinp hs => exact hqueue _ hout (by simp) hinp hv hs
  | direct hv he _ hout hinp hs =>
      -- the packet arrives at once: both sides of the invariant grow by it
      have hnew : ∀ v, l'.arrived v = l.arrived v ++ l'.onVc v [l.heap.nextPacket] := by
        intro v
        rw [arrived, hacc, hinp, arrived, List.append_assoc]
        by_cases hvi : v = pkt.vcId.toNat
        · subst hvi
          rw [Function.update_self, onVc_singleton_self (by rw [hk.vcOf_new, validVc_cast hv])]
        · have hne := hk.vcOf_new_ne hv hvi
          rw [Function.update_of_ne hvi, onVc_singleton_ne hne, List.append_nil]
      constructor
      · intro v
        rw [hnew, hs, onVc_append, hsent]
        by_cases hvi : v = pkt.vcId.toNat
        · subst hvi
          simp only [hO.whole _ he, List.prefix_refl]
        · have hne := hk.vcOf_new_ne hv hvi
          rw [onVc_singleton_ne hne, List.append_nil, List.append_nil]
          exact hO.isPrefix v
      · intro v hv'
        rw [hout] at hv'
        rw [hnew, hs, onVc_append, hsent, hO.whole v hv']

theorem ordered_forward {l : Link} (hI : Inv l) (hO : Ordered l) (now : UInt64) (i : Nat) :
    Ordered (l.forward now i) := by
  obtain ⟨hc, hup, hs, hacc, -⟩ := forward_cases l now i (hI.outVc i)
  have hinp : (l.forward now i).inp = l.inp := by unfold inp; rw [hup]
  generalize l.forward now i = l' at hc hinp hs hacc
  -- a channel that was in use is still in use
  have hkeep : ∀ p, l'.heap = l.heap.delete p → (∀ v, l'.out v = [] → l.out v = []) →
      Ordered l' := by
    intro p hheap hempty
    have hvc : ∀ v ps, l'.onVc v ps = l.onVc v ps := fun v ps =>
      onVc_congr v fun q _ => by unfold vcOf; rw [hheap]; rfl
    constructor
    · intro v
      rw [arrived, hvc, hvc, hacc, hinp, hs]
      exact hO.isPrefix v
    · intro v hv
      rw [arrived, hvc, hvc, hacc, hinp, hs]
      exact hO.whole v (hempty v hv)
  cases hc with
  | idle _ h => rw [h]; exact hO
  | dropped p rest hb hout hheap => exact hkeep p hheap fun v hv => by rw [← hout]; exact hv
  | rotated p rest hb hout hheap =>
      refine hkeep p hheap fun v hv => ?_
      rw [hout] at hv
      by_cases hvi : v = i
      · subst hvi
        rw [Function.update_self] at hv
        exact absurd hv (by simp)
      · rw [Function.update_of_ne hvi] at hv
        exact hv

theorem ordered_offer {l : Link} (hI : Inv l) (hO : Ordered l) (answer : PacketId → Answer)
    (i : Nat) : Ordered (l.offer answer i) := by
  obtain ⟨hc, hdown, hs, -⟩ := offer_cases l answer i
  have hout : (l.offer answer i).out = l.out := by unfold out; rw [hdown]
  generalize l.offer answer i = l' at hc hout hs
  cases hc with
  | idle h => rw [h]; exact hO
  | accepted p rest hb hinp hacc hheap =>
      have hvc : ∀ v ps, l'.onVc v ps = l.onVc v ps := fun v ps => onVc_congr v fun q _ => by
        rcases hheap with e | e <;> simp [vcOf, e]
      have hp : l.vcOf p = i := hI.inpVc i p (by rw [hb]; exact List.mem_cons_self)
      -- the head moves from the waiting packets to the accepted ones
      have harr : ∀ v, l'.arrived v = l.arrived v := by
        intro v
        rw [arrived, arrived, hvc, hacc, onVc_append, hinp]
        by_cases hvi : v = i
        · subst hvi
          rw [onVc_singleton_self hp, Function.update_self, hb, List.append_assoc]
          rfl
        · have hne : l.vcOf p ≠ v := by omega
          rw [onVc_singleton_ne hne, Function.update_of_ne hvi, List.append_nil]
      constructor
      · intro v
        rw [harr, hvc, hs]; exact hO.isPrefix v
      · intro v hv
        have hv' : l.out v = [] := by rw [← hout]; exact hv
        rw [harr, hvc, hs]
        exact hO.whole v hv'

theorem ordered_step {l : Link} (hI : Inv l) (hO : Ordered l) (a : Action) :
    Inv (l.step a) ∧ Ordered (l.step a) := by
  refine ⟨inv_step hI a, ?_⟩
  cases a with
  | sendReq pkt now => exact ordered_sendReq hI hO pkt now
  | downTick now =>
      rw [step, downTick_eq]
      exact (Library.run_invariant (I := fun l => Inv l ∧ Ordered l) ⟨hI, hO⟩
        (fun l i h => ⟨inv_forward h.1 now i, ordered_forward h.1 h.2 now i⟩) _).2
  | upTick answer =>
      rw [step, upTick_eq]
      exact (Library.run_invariant (I := fun l => Inv l ∧ Ordered l) ⟨hI, hO⟩
        (fun l i h => ⟨inv_offer h.1 answer i, ordered_offer h.1 h.2 answer i⟩) _).2
  | release p =>
      rw [step]
      split
      · exact ⟨hO.isPrefix, hO.whole⟩
      · exact hO

/-- The order invariant on every run. -/
theorem ordered_run (outSizes outPriorities inSizes inPriorities : List Nat) (acts : List Action) :
    Ordered (Library.run step (create outSizes outPriorities inSizes inPriorities) acts) :=
  (Library.run_invariant (I := fun l => Inv l ∧ Ordered l) ⟨inv_create .., ordered_create ..⟩
    (fun _ a h => ordered_step h.1 h.2 a) acts).2

/-- **IN-ORDER DELIVERY.** On every run of every link, and for every channel `v`, the packets of
    `v` that the owner has accepted are a prefix of the packets of `v` that `sendReq` has taken,
    and none of them occurs twice. -/
theorem accepted_prefix_sent (outSizes outPriorities inSizes inPriorities : List Nat)
    (acts : List Action) (v : Nat) :
    let l := Library.run step (create outSizes outPriorities inSizes inPriorities) acts
    l.onVc v l.accepted <+: l.onVc v l.sent ∧ (l.onVc v l.accepted).Nodup := by
  intro l
  have hpre : l.onVc v l.accepted <+: l.onVc v l.sent :=
    (List.prefix_append _ _).trans ((ordered_run _ _ _ _ acts).isPrefix v)
  exact ⟨hpre, hpre.sublist.nodup ((inv_run _ _ _ _ acts).sentNodup.filter _)⟩

end Gem5Sc.Link
