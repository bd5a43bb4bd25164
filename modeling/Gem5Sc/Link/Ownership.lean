/-
  File:      Gem5Sc/Link/Ownership.lean
  Subject:   WHO OWNS A PACKET ON A LINK: no stored packet has been deleted, none is deleted twice,
             and what `sendReq` took is in one slot or with the owner.

  `recvReq` deletes a packet it refuses, and so does the sending port with a packet it drops. The
  two meet in one place: a direct send into an empty output channel that the `UpstreamPort`
  refuses. The packet comes back deleted, and the `DownstreamPort` queues it, or deletes it once
  more (`SendCase.refusedQueued`, `SendCase.refusedDropped`).

  `DirectSendTaken` says that a step is no such send. `owned_iff_directSendTaken`: ownership
  holds in every state of a run exactly when each of its steps meets that condition.
-/
import Gem5Sc.Link
import Mathlib.Data.List.Nodup

namespace Gem5Sc.Link

/-- Every slot of every channel of both ports. -/
def slots (l : Link) : List PacketId :=
  (List.range l.down.outputVcs.length).flatMap l.out ++
    (List.range l.up.inputVcs.length).flatMap l.inp

/-- **Ownership.** -/
structure Owned (l : Link) : Prop where
  alive : ∀ p ∈ l.slots, p ∉ l.heap.released
  once : l.heap.released.Nodup
  kept : ∀ p ∈ l.sent, l.slots.count p = 1 ∨ p ∈ l.accepted

/-- A `sendReq` that goes straight to the `UpstreamPort` is taken there. -/
def DirectSendTaken (l : Link) : Action → Prop
  | .sendReq pkt _ => validVc pkt.vcId l.down.outputVcs.length = true →
      l.out pkt.vcId.toNat = [] → l.up.accepts pkt.vcId = true
  | _ => True

theorem mem_slots_out {l : Link} {v : Nat} {p : PacketId} (h : p ∈ l.out v) : p ∈ l.slots := by
  obtain ⟨q, rest, hb⟩ := List.exists_cons_of_ne_nil (List.ne_nil_of_mem h)
  refine List.mem_append_left _ (List.mem_flatMap.mpr ⟨v, ?_, h⟩)
  exact List.mem_range.mpr (lt_of_out_cons hb)

theorem mem_slots_inp {l : Link} {v : Nat} {p : PacketId} (h : p ∈ l.inp v) : p ∈ l.slots := by
  obtain ⟨q, rest, hb⟩ := List.exists_cons_of_ne_nil (List.ne_nil_of_mem h)
  refine List.mem_append_right _ (List.mem_flatMap.mpr ⟨v, ?_, h⟩)
  exact List.mem_range.mpr (lt_of_inp_cons hb)

/-- What a run of direct sends keeps: nothing waits in an output channel, and a packet waiting in
    an input channel waits once, is alive and has not been accepted. -/
structure Direct (l : Link) : Prop extends Inv l where
  out : ∀ v, l.out v = []
  inpNodup : ∀ v, (l.inp v).Nodup
  inpAlive : ∀ v, ∀ p ∈ l.inp v, p ∉ l.heap.released
  inpPending : ∀ v, ∀ p ∈ l.inp v, p ∉ l.accepted
  relNodup : l.heap.released.Nodup
  relLt : ∀ p ∈ l.heap.released, p < l.heap.nextPacket
  sentKept : ∀ p ∈ l.sent, (∃ v, p ∈ l.inp v) ∨ p ∈ l.accepted

theorem Direct.slots_eq {l : Link} (hD : Direct l) :
    l.slots = (List.range l.up.inputVcs.length).flatMap l.inp := by
  have e : l.out = fun _ => [] := funext hD.out
  rw [slots, e]
  simp

/-- The input channels share no packet: each holds packets that ask for it. -/
theorem Direct.slots_nodup {l : Link} (hD : Direct l) : l.slots.Nodup := by
  rw [hD.slots_eq, List.nodup_flatMap]
  refine ⟨fun v _ => hD.inpNodup v, List.nodup_range.imp fun {v w} hvw p hv hw => hvw ?_⟩
  have hvw' : (v : Int) = w := (hD.inpVc v p hv).symm.trans (hD.inpVc w p hw)
  exact Int.ofNat.inj hvw'

theorem Direct.owned {l : Link} (hD : Direct l) : Owned l where
  alive p hp := by
    rw [hD.slots_eq] at hp
    obtain ⟨v, -, hv⟩ := List.mem_flatMap.mp hp
    exact hD.inpAlive v p hv
  once := hD.relNodup
  kept p hp := (hD.sentKept p hp).imp
    (fun ⟨_, hv⟩ => List.count_eq_one_of_mem hD.slots_nodup (mem_slots_inp hv)) id

theorem direct_create (outSizes outPriorities inSizes inPriorities : List Nat) :
    Direct (create outSizes outPriorities inSizes inPriorities) where
  toInv := inv_create ..
  out v := out_create ..
  inpNodup v := by rw [inp_create]; exact List.nodup_nil
  inpAlive v p h := by simp at h
  inpPending v p h := by simp at h
  relNodup := List.nodup_nil
  relLt p h := absurd h List.not_mem_nil
  sentKept p h := absurd h List.not_mem_nil

theorem direct_sendReq {l : Link} (hD : Direct l) (pkt : Packet) (now : UInt64)
    (hC : DirectSendTaken l (.sendReq pkt now)) : Direct (l.sendReq pkt now) := by
  have hI := inv_sendReq hD.toInv pkt now
  obtain ⟨hc, hk⟩ := sendReq_cases l pkt now
  generalize l.sendReq pkt now = l' at hI hc hk
  cases hc with
  | invalid _ hout hinp hs hrel =>
      have hfresh : l.heap.nextPacket ∉ l.heap.released := fun h => Nat.lt_irrefl _ (hD.relLt _ h)
      refine ⟨hI, fun v => ?_, fun v => ?_, fun v p h => ?_, fun v p h => ?_, ?_, fun p h => ?_,
        fun p h => ?_⟩
      · rw [hout]; exact hD.out v
      · rw [hinp]; exact hD.inpNodup v
      · rw [hinp] at h
        rw [hrel, List.mem_cons, not_or]
        exact ⟨Nat.ne_of_lt (hD.inpLt v p h), hD.inpAlive v p h⟩
      · rw [hinp] at h
        rw [hk.accepted]
        exact hD.inpPending v p h
      · rw [hrel]
        exact List.nodup_cons.mpr ⟨hfresh, hD.relNodup⟩
      · rw [hrel, List.mem_cons] at h
        rw [hk.next]
        rcases h with rfl | h
        · exact Nat.lt_succ_self _
        · exact Nat.lt_succ_of_lt (hD.relLt p h)
      · rw [hs] at h
        rw [hinp, hk.accepted]
        exact hD.sentKept p h
  | direct hv he _ hout hinp hs hrel =>
      have hmem : ∀ {v p}, p ∈ l'.inp v → p ∈ l.inp v ∨ p = l.heap.nextPacket := by
        intro v p h
        rw [hinp] at h
        rcases mem_update h with ⟨rfl, hx⟩ | hx
        · simpa using hx
        · exact Or.inl hx
      refine ⟨hI, fun v => ?_, fun v => ?_, fun v p h => ?_, fun v p h => ?_, ?_, fun p h => ?_,
        fun p h => ?_⟩
      · rw [hout]; exact hD.out v
      · rw [hinp]
        refine nodup_update hD.inpNodup ?_ v
        rw [List.nodup_append]
        refine ⟨hD.inpNodup _, List.pairwise_singleton _ _, fun p hp q hq => ?_⟩
        rw [List.mem_singleton] at hq
        exact hq ▸ Nat.ne_of_lt (hD.inpLt _ p hp)
      · rw [hrel]
        rcases hmem h with h | rfl
        · exact hD.inpAlive v p h
        · exact fun hr => Nat.lt_irrefl _ (hD.relLt _ hr)
      · rw [hk.accepted]
        rcases hmem h with h | rfl
        · exact hD.inpPending v p h
        · exact fun ha => Nat.lt_irrefl _ (hD.acceptedLt _ ha)
      · rw [hrel]; exact hD.relNodup
      · rw [hrel] at h
        rw [hk.next]
        exact Nat.lt_succ_of_lt (hD.relLt p h)
      · rw [hs, List.mem_append, List.mem_singleton] at h
        rw [hk.accepted, hinp]
        rcases h with h | rfl
        · exact (hD.sentKept p h).imp
            (fun ⟨v, hv⟩ => ⟨v, mem_update_of_mem hv (List.mem_append_left _)⟩) id
        · refine Or.inl ⟨pkt.vcId.toNat, ?_⟩
          rw [Function.update_self]
          exact List.mem_append_right _ (List.mem_singleton_self _)
  -- no output channel is in use, and no direct send is refused
  | queued _ hne => exact absurd (hD.out _) hne
  | dropped _ hne => exact absurd (hD.out _) hne
  | refusedQueued hv he ha =>
      have ht := hC hv he
      rw [ha] at ht
      cases ht
  | refusedDropped hv he ha =>
      have ht := hC hv he
      rw [ha] at ht
      cases ht

theorem direct_forward {l : Link} (hD : Direct l) (now : UInt64) (i : Nat) :
    Direct (l.forward now i) := by
  obtain ⟨hc, -⟩ := forward_cases l now i (hD.outVc i)
  cases hc with
  | idle _ h => rw [h]; exact hD
  | dropped p rest hb => rw [hD.out i] at hb; cases hb
  | rotated p rest hb => rw [hD.out i] at hb; cases hb

theorem direct_offer {l : Link} (hD : Direct l) (answer : PacketId → Answer) (i : Nat) :
    Direct (l.offer answer i) := by
  have hI := inv_offer hD.toInv answer i
  obtain ⟨hc, hdown, hs, -⟩ := offer_cases l answer i
  have hout : (l.offer answer i).out = l.out := by unfold Link.out; rw [hdown]
  generalize l.offer answer i = l' at hI hc hout hs
  cases hc with
  | idle h => rw [h]; exact hD
  | accepted p rest hb hinp hacc hheap =>
      have hp : p ∈ l.inp i := by rw [hb]; exact List.mem_cons_self
      have hnd : p ∉ rest ∧ rest.Nodup := by
        have h := hD.inpNodup i
        rw [hb] at h
        exact List.nodup_cons.mp h
      -- what still waits waited before, and is not the packet just taken
      have hmem : ∀ {v q}, q ∈ l'.inp v → q ∈ l.inp v ∧ q ≠ p := by
        intro v q h
        rw [hinp] at h
        by_cases hvi : v = i
        · subst hvi
          rw [Function.update_self] at h
          exact ⟨by rw [hb]; exact List.mem_cons_of_mem _ h, fun e => hnd.1 (e ▸ h)⟩
        · rw [Function.update_of_ne hvi] at h
          refine ⟨h, ?_⟩
          rintro rfl
          have hv := hD.inpVc v q h
          have hi := hD.inpVc i q hp
          omega
      have hrel : l'.heap.released = l.heap.released ∨
          l'.heap.released = p :: l.heap.released := by
        rcases hheap with e | e <;> simp [e]
      have hnext : l'.heap.nextPacket = l.heap.nextPacket := by
        rcases hheap with e | e <;> simp [e]
      refine ⟨hI, fun v => ?_, fun v => ?_, fun v q h => ?_, fun v q h => ?_, ?_, fun q h => ?_,
        fun q h => ?_⟩
      · rw [hout]; exact hD.out v
      · rw [hinp]
        exact nodup_update hD.inpNodup hnd.2 v
      · obtain ⟨hq, hne⟩ := hmem h
        rcases hrel with e | e
        · rw [e]; exact hD.inpAlive v q hq
        · rw [e, List.mem_cons, not_or]
          exact ⟨hne, hD.inpAlive v q hq⟩
      · obtain ⟨hq, hne⟩ := hmem h
        rw [hacc, List.mem_append, List.mem_singleton, not_or]
        exact ⟨hD.inpPending v q hq, hne⟩
      · rcases hrel with e | e
        · rw [e]; exact hD.relNodup
        · rw [e]; exact List.nodup_cons.mpr ⟨hD.inpAlive i p hp, hD.relNodup⟩
      · rw [hnext]
        rcases hrel with e | e
        · exact hD.relLt q (e ▸ h)
        · rw [e, List.mem_cons] at h
          rcases h with rfl | h
          · exact hD.inpLt i q hp
          · exact hD.relLt q h
      · rw [hs] at h
        rw [hacc, hinp]
        rcases hD.sentKept q h with ⟨v, hv⟩ | ha
        · by_cases hqp : q = p
          · subst hqp
            exact Or.inr (List.mem_append_right _ (List.mem_singleton_self _))
          · refine Or.inl ⟨v, mem_update_of_mem hv fun h => ?_⟩
            rw [hb, List.mem_cons] at h
            exact h.resolve_left hqp
        · exact Or.inr (List.mem_append_left _ ha)

theorem direct_release {l : Link} (hD : Direct l) {p : PacketId} (hp : p ∈ l.accepted)
    (hr : p ∉ l.heap.released) : Direct { l with heap := l.heap.delete p } := by
  refine ⟨⟨hD.outVc, hD.inpVc, hD.outLt, hD.inpLt, hD.sentLt, hD.sentNodup, hD.acceptedLt⟩,
    hD.out, hD.inpNodup, fun v q hq => ?_, hD.inpPending, ?_, fun q hq => ?_, hD.sentKept⟩
  · refine fun h => (List.mem_cons.mp h).elim ?_ (hD.inpAlive v q hq)
    rintro rfl
    exact hD.inpPending v q hq hp
  · exact List.nodup_cons.mpr ⟨hr, hD.relNodup⟩
  · rcases List.mem_cons.mp hq with rfl | h
    · exact hD.acceptedLt q hp
    · exact hD.relLt q h

/-- A step that meets the condition keeps the invariant. -/
theorem direct_step {l : Link} (hD : Direct l) (a : Action) (hC : DirectSendTaken l a) :
    Direct (l.step a) := by
  cases a with
  | sendReq pkt now => exact direct_sendReq hD pkt now hC
  | downTick now =>
      rw [step, downTick_eq]
      exact Library.run_invariant hD (fun l i h => direct_forward h now i) _
  | upTick answer =>
      rw [step, upTick_eq]
      exact Library.run_invariant hD (fun l i h => direct_offer h answer i) _
  | release p =>
      rw [step]
      split
      · next h => exact direct_release hD h.1 h.2
      · exact hD

/-- **A step outside the condition breaks ownership at once**: the refused packet is stored
    though deleted, or deleted twice. -/
theorem not_owned_of_refused {l : Link} (a : Action) (hC : ¬ DirectSendTaken l a) :
    ¬ Owned (l.step a) := by
  cases a with
  | downTick now => exact absurd trivial hC
  | upTick answer => exact absurd trivial hC
  | release p => exact absurd trivial hC
  | sendReq pkt now =>
      simp only [DirectSendTaken, Classical.not_imp] at hC
      obtain ⟨hv, he, ha⟩ := hC
      rw [step]
      obtain ⟨hc, -⟩ := sendReq_cases l pkt now
      generalize l.sendReq pkt now = l' at hc
      intro hO
      cases hc with
      | invalid hv' => rw [hv] at hv'; cases hv'
      | queued _ hne => exact hne he
      | dropped _ hne => exact hne he
      | direct _ _ ha' => exact ha ha'
      | refusedQueued _ _ _ hout _ _ hrel =>
          refine hO.alive l.heap.nextPacket (mem_slots_out (v := pkt.vcId.toNat) ?_) ?_
          · rw [hout, Function.update_self]
            exact List.mem_singleton_self _
          · rw [hrel]
            exact List.mem_cons_self
      | refusedDropped _ _ _ _ _ _ hrel =>
          have h := hO.once
          rw [hrel] at h
          exact (List.nodup_cons.mp h).1 List.mem_cons_self

/-- **PACKET OWNERSHIP.** On every link and for every run of sends, ticks and releases, ownership
    holds in every state of the run if and only if every direct send of the run is taken by the
    `UpstreamPort`. -/
theorem owned_iff_directSendTaken (outSizes outPriorities inSizes inPriorities : List Nat)
    (acts : List Action) :
    Library.Everywhere step Owned (create outSizes outPriorities inSizes inPriorities) acts ↔
      Library.Along step DirectSendTaken
        (create outSizes outPriorities inSizes inPriorities) acts :=
  Library.everywhere_iff_along (I := Direct) (direct_create ..) (fun _ h => h.owned)
    (fun _ a h hC => direct_step h a hC) (fun _ a _ hC => not_owned_of_refused a hC)

/-- Two sends over a link with one slot behind it: the second is refused, deleted and queued. -/
theorem not_owned_second_send :
    ¬ Library.Everywhere step Owned (create [4] [] [1] []) [.sendReq {} 0, .sendReq {} 1] := by
  intro h
  exact absurd (h.2.2.alive 1 (by decide)) (by decide)

end Gem5Sc.Link
