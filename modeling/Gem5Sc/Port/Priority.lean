/-
  File:      Gem5Sc/Port/Priority.lean
  Subject:   IN WHICH ORDER A TICK SERVES THE CHANNELS: by index, and not by priority.

  The constructors store a priority in every channel, and a smaller number is to mean a higher
  priority. No loop reads it: both ticks go through the channels by index.

  * An input port offers the heads of its non-empty channels to the owner, by index
    (`UpstreamPort.offers_heads`).
  * An output port calls `trySend` for them, by index (`DownstreamPort.attempts_heads`). Such a call
    finds its own channel non-empty and enqueues the head again, so nothing reaches the link
    (`DownstreamPort.linkOffers_nil`). Both need that a packet stands in the channel its `vc_id`
    names, an invariant of every reachable state (`inPlace_of_reachable`).
  * `served_by_priority_iff` -- so the order is the one of the priorities exactly when that of the
    indices is.
-/
import Gem5Sc.Port.Offers

namespace Gem5Sc

/-! ## 1. Two orders -/

/-- Of two heads with different priorities the one with the smaller number comes first in `seq`,
    where `offer v p` is the entry for head `p` of channel `v`. -/
def ByPriority {β : Type} (buffer : Nat → List PacketId) (priority : Nat → Nat) (n : Nat)
    (offer : Nat → PacketId → β) (seq : List β) : Prop :=
  ∀ v w p q, v < n → w < n → (buffer v).head? = some p → (buffer w).head? = some q →
    priority v < priority w → [offer v p, offer w q].Sublist seq

/-- Among the non-empty channels the priorities follow the indices. -/
def IndexOrdered (buffer : Nat → List PacketId) (priority : Nat → Nat) (n : Nat) : Prop :=
  ∀ v w, v < w → w < n → buffer v ≠ [] → buffer w ≠ [] → priority v ≤ priority w

/-- All non-empty channels have the same priority. -/
def OnePriority (buffer : Nat → List PacketId) (priority : Nat → Nat) (n : Nat) : Prop :=
  ∀ v w, v < n → w < n → buffer v ≠ [] → buffer w ≠ [] → priority v = priority w

section Orders

variable {buffer : Nat → List PacketId} {priority : Nat → Nat} {n : Nat}

theorem exists_head {l : List PacketId} (h : l ≠ []) : ∃ p, l.head? = some p := by
  cases l with
  | nil => exact absurd rfl h
  | cons p rest => exact ⟨p, rfl⟩

theorem ne_nil_of_head {l : List PacketId} {p : PacketId} (h : l.head? = some p) : l ≠ [] := by
  intro hnil
  rw [hnil] at h
  cases h

/-- In a list whose first components go up, two entries stand in the order of theirs. -/
theorem pair_sublist {l : List (Nat × PacketId)} (hl : l.Pairwise fun x y => x.1 < y.1)
    {x y : Nat × PacketId} (hx : x ∈ l) (hy : y ∈ l) (hxy : x.1 < y.1) : [x, y].Sublist l := by
  induction l with
  | nil => exact absurd hx List.not_mem_nil
  | cons z l ih =>
      obtain ⟨hz, hl⟩ := List.pairwise_cons.mp hl
      rcases List.mem_cons.mp hx with rfl | hxl
      · rcases List.mem_cons.mp hy with rfl | hyl
        · exact absurd hxy (Nat.lt_irrefl _)
        · exact (List.singleton_sublist.mpr hyl).cons_cons x
      · rcases List.mem_cons.mp hy with rfl | hyl
        · have hlt := hz x hxl
          omega
        · exact (ih hl hxl hyl).cons z

/-- **By index is by priority** exactly when the priorities follow the indices. -/
theorem byPriority_headsOf_iff :
    ByPriority buffer priority n Prod.mk (headsOf buffer n) ↔ IndexOrdered buffer priority n := by
  have hup := headsOf_pairwise buffer n
  constructor
  · intro h v w hvw hw hv0 hw0
    obtain ⟨p, hp⟩ := exists_head hv0
    obtain ⟨q, hq⟩ := exists_head hw0
    by_contra hlt
    have hv : v < n := Nat.lt_trans hvw hw
    -- the head of `w` would have to come first, and its index is the greater one
    have hsub := h w v q p hw hv hq hp (Nat.lt_of_not_le hlt)
    have hwv : w < v := List.pairwise_iff_forall_sublist.mp hup hsub
    omega
  · intro h v w p q hv hw hp hq hlt
    have hvw : v < w := by
      by_contra hnot
      rcases Nat.lt_or_eq_of_le (Nat.le_of_not_lt hnot) with hwv | rfl
      · have hle := h w v hwv hv (ne_nil_of_head hq) (ne_nil_of_head hp)
        omega
      · exact absurd hlt (Nat.lt_irrefl _)
    exact pair_sublist hup (mem_headsOf.mpr ⟨hv, hp⟩) (mem_headsOf.mpr ⟨hw, hq⟩) hvw

/-- **Nothing is by priority** exactly when there is nothing to order. -/
theorem byPriority_nil_iff {β : Type} (offer : Nat → PacketId → β) :
    ByPriority buffer priority n offer [] ↔ OnePriority buffer priority n := by
  have hle : ByPriority buffer priority n offer [] → ∀ v w, v < n → w < n → buffer v ≠ [] →
      buffer w ≠ [] → priority w ≤ priority v := by
    intro h v w hv hw hv0 hw0
    obtain ⟨p, hp⟩ := exists_head hv0
    obtain ⟨q, hq⟩ := exists_head hw0
    by_contra hlt
    have hsub := h v w p q hv hw hp hq (Nat.lt_of_not_le hlt)
    exact absurd (List.sublist_nil.mp hsub) (List.cons_ne_nil _ _)
  constructor
  · intro h v w hv hw hv0 hw0
    exact Nat.le_antisymm (hle h w v hw hv hw0 hv0) (hle h v w hv hw hv0 hw0)
  · intro h v w p q hv hw hp hq hlt
    have heq := h v w hv hw (ne_nil_of_head hp) (ne_nil_of_head hq)
    omega

end Orders

/-! ## 2. Output ports -/

/-- Nothing but new packets gets a `vc_id`. -/
structure Heap.KeepsVc (h h' : Heap) : Prop where
  next : h.nextPacket ≤ h'.nextPacket
  vcId : ∀ r < h.nextPacket, (h'.packet r).vcId = (h.packet r).vcId

variable {ρ : Type}

/-- The other end of the pair writes no `vc_id` either. -/
def Peer.KeepsVc (peer : Peer ρ) : Prop :=
  ∀ recv, peer = some recv → ∀ p w, Heap.KeepsVc w.1 (recv p w).2.1

/-- The other end of the pair, with the packets it has been handed. -/
def Peer.logged (peer : Peer ρ) : Peer (ρ × List PacketId) :=
  peer.map fun recv p w =>
    let r := recv p (w.1, w.2.1)
    (r.1, (r.2.1, (r.2.2, w.2.2 ++ [p])))

theorem Heap.KeepsVc.refl (h : Heap) : Heap.KeepsVc h h := ⟨Nat.le_refl _, fun _ _ => rfl⟩

theorem Heap.keepsVc_delete (h : Heap) (p : PacketId) : Heap.KeepsVc h (h.delete p) :=
  ⟨Nat.le_refl _, fun _ _ => rfl⟩

theorem Heap.KeepsVc.trans {h₁ h₂ h₃ : Heap} (h12 : KeepsVc h₁ h₂) (h23 : KeepsVc h₂ h₃) :
    KeepsVc h₁ h₃ :=
  ⟨Nat.le_trans h12.next h23.next,
    fun r hr => (h23.vcId r (Nat.lt_of_lt_of_le hr h12.next)).trans (h12.vcId r hr)⟩

namespace DownstreamPort

/-- The states of a port and its surroundings. -/
inductive Reachable : DownstreamPort → Heap × ρ → Prop where
  | create (id : Nat) (outSizes priorities : List Nat) (label : String) (w : Heap × ρ) :
      Reachable (create id outSizes priorities label) w
  | sendReq {d : DownstreamPort} {w : Heap × ρ} (h : Reachable d w) (peer : Peer ρ)
      (hpeer : peer.KeepsVc) (p : PacketId) (hp : p < w.1.nextPacket) :
      Reachable (d.sendReq peer p w).2.1 (d.sendReq peer p w).2.2
  | tick {d : DownstreamPort} {w : Heap × ρ} (h : Reachable d w) (peer : Peer ρ)
      (hpeer : peer.KeepsVc) : Reachable (d.tick peer w).1 (d.tick peer w).2
  /-- A packet comes in, statistics are reset, a delay is set. -/
  | master {d : DownstreamPort} {w : Heap × ρ} (h : Reachable d w) (m : MasterPort) :
      Reachable { d with toMasterPort := m } w
  /-- Anything happens elsewhere. -/
  | other {d : DownstreamPort} {w w' : Heap × ρ} (h : Reachable d w)
      (hkeeps : Heap.KeepsVc w.1 w'.1) : Reachable d w'

/-- Every packet stands in the channel its `vc_id` names. -/
def InPlace (d : DownstreamPort) (h : Heap) : Prop :=
  ∀ i, ∀ p ∈ (d.vc i).buffer, p < h.nextPacket ∧ (h.packet p).vcId = i

/-- One round of `tick`, with the heads that `trySend` has been called for. -/
def attemptVc (peer : Peer ρ) (s : (DownstreamPort × (Heap × ρ)) × List (Nat × PacketId))
    (i : Nat) : (DownstreamPort × (Heap × ρ)) × List (Nat × PacketId) :=
  ((s.1.1.trySend peer i s.1.2).2, s.2 ++ ((s.1.1.vc i).buffer.head?.map fun p => (i, p)).toList)

/-- The heads a `tick` tries to send. -/
def attempts (peer : Peer ρ) (d : DownstreamPort) (w : Heap × ρ) : List (Nat × PacketId) :=
  ((List.range d.outputVcs.length).foldl (attemptVc peer) ((d, w), [])).2

/-- The packets a `tick` hands to the link. -/
def linkOffers (peer : Peer ρ) (d : DownstreamPort) (w : Heap × ρ) : List PacketId :=
  (d.tick peer.logged (w.1, (w.2, []))).2.2.2

section InPlace

variable {d : DownstreamPort} {peer : Peer ρ} {w : Heap × ρ}

theorem InPlace.keeps {h h' : Heap} (hd : d.InPlace h) (hk : Heap.KeepsVc h h') : d.InPlace h' := by
  intro i p hp
  obtain ⟨hlt, hvc⟩ := hd i p hp
  exact ⟨Nat.lt_of_lt_of_le hlt hk.next, (hk.vcId p hlt).trans hvc⟩

/-- The channel `p` belongs to takes it. -/
theorem InPlace.setVc {h : Heap} (hd : d.InPlace h) {i : Nat} {x : OutputVC}
    (hx : ∀ p ∈ x.buffer, p < h.nextPacket ∧ (h.packet p).vcId = i) : (d.setVc i x).InPlace h := by
  intro j p hp
  by_cases hij : i = j
  · subst hij
    by_cases hi : i < d.outputVcs.length
    · rw [setVc_vc_self hi] at hp
      exact hx p hp
    · rw [vc_of_length_le (by rw [setVc_length]; omega)] at hp
      exact absurd hp List.not_mem_nil
  · rw [setVc_vc_ne d hij] at hp
    exact hd j p hp

theorem InPlace.enqueueOrDrop (hd : d.InPlace w.1) {p : PacketId} {i : Nat}
    (hp : p < w.1.nextPacket) (hi : (w.1.packet p).vcId = i) :
    (d.enqueueOrDrop i p w).2.1.InPlace (d.enqueueOrDrop i p w).2.2.1 := by
  cases hf : (d.vc i).full with
  | true =>
      rw [enqueueOrDrop_of_full hf]
      have hdrop : (d.setVc i (d.vc i).countDropped).InPlace w.1 := hd.setVc fun q hq => hd i q hq
      exact hdrop.keeps (w.1.keepsVc_delete p)
  | false =>
      rw [enqueueOrDrop_of_not_full hf]
      refine hd.setVc fun q hq => ?_
      rcases List.mem_append.mp hq with hq | hq
      · exact hd i q hq
      · rw [List.mem_singleton.mp hq]
        exact ⟨hp, hi⟩

/-- What the other end does with a packet writes no `vc_id`. -/
theorem keepsVc_send (hpeer : peer.KeepsVc) (p : PacketId) (w : Heap × ρ) :
    Heap.KeepsVc w.1 (SimplePort.send peer p w).2.1 := by
  unfold SimplePort.send
  cases peer with
  | none => exact Heap.KeepsVc.refl _
  | some recv => exact hpeer recv rfl p w

/-- **`sendReq` puts a packet into the channel its `vc_id` names**, or nowhere. -/
theorem InPlace.sendReq (hd : d.InPlace w.1) (hpeer : peer.KeepsVc) {p : PacketId}
    (hp : p < w.1.nextPacket) :
    (d.sendReq peer p w).2.1.InPlace (d.sendReq peer p w).2.2.1 := by
  cases hv : validVc (w.1.packet p).vcId d.outputVcs.length with
  | false =>
      rw [sendReq_invalid hv]
      exact hd.keeps (w.1.keepsVc_delete p)
  | true =>
      have hcast := validVc_cast hv
      by_cases hb : (d.vc (w.1.packet p).vcId.toNat).buffer = []
      · rw [sendReq_direct hv hb]
        have hkeeps := keepsVc_send hpeer p w
        have hcounted : (d.counted p w.1).InPlace (SimplePort.send peer p w).2.1 := hd.keeps hkeeps
        split
        · exact hcounted
        · refine hcounted.enqueueOrDrop (Nat.lt_of_lt_of_le hp hkeeps.next) ?_
          rw [hkeeps.vcId p hp]
          exact hcast.symm
      · rw [sendReq_queued hv hb]
        exact hd.enqueueOrDrop hp hcast.symm

/-- What is known of a tick after `k` rounds: packets stand in place, the surroundings have not been
    called, the later channels are untouched and the earlier heads have been tried. -/
structure AttemptLoop (d : DownstreamPort) (w : Heap × ρ) (k : Nat)
    (s : (DownstreamPort × (Heap × ρ)) × List (Nat × PacketId)) : Prop where
  length : s.1.1.outputVcs.length = d.outputVcs.length
  inPlace : s.1.1.InPlace s.1.2.1
  surroundings : s.1.2.2 = w.2
  later : ∀ j, k ≤ j → s.1.1.vc j = d.vc j
  heads : s.2 = headsOf (fun i => (d.vc i).buffer) k

/-- The round of a channel with a head: the channel may change, but it holds nothing new, and the
    head is deleted either way. -/
theorem attemptVc_cons (peer : Peer ρ) {k : Nat}
    {s : (DownstreamPort × (Heap × ρ)) × List (Nat × PacketId)} {p : PacketId} {rest : List PacketId}
    (hk : k < s.1.1.outputVcs.length)
    (hb : (s.1.1.vc k).buffer = p :: rest) (hv : (s.1.2.1.packet p).vcId = k) :
    ∃ x : OutputVC, (∀ q ∈ x.buffer, q ∈ (s.1.1.vc k).buffer) ∧
      (attemptVc peer s k).1 = (s.1.1.setVc k x, (s.1.2.1.delete p, s.1.2.2)) := by
  have htry : s.1.1.trySend peer k s.1.2 = _ := trySend_cons hk hb hv
  cases hf : (s.1.1.vc k).full with
  | true =>
      refine ⟨(s.1.1.vc k).countDropped, fun q hq => hq, ?_⟩
      show (s.1.1.trySend peer k s.1.2).2 = _
      rw [htry, hf]
      rfl
  | false =>
      refine ⟨((s.1.1.vc k).push p).popForwarded, fun q hq => ?_, ?_⟩
      · have hq' : q ∈ ((s.1.1.vc k).buffer ++ [p]).tail := hq
        rw [hb] at hq' ⊢
        rcases List.mem_append.mp hq' with hq' | hq'
        · exact List.mem_cons_of_mem p hq'
        · exact List.mem_cons.mpr (Or.inl (List.mem_singleton.mp hq'))
      · show (s.1.1.trySend peer k s.1.2).2 = _
        rw [htry, hf]
        rfl

theorem attemptLoop_step {k : Nat} {s : (DownstreamPort × (Heap × ρ)) × List (Nat × PacketId)}
    (hk : k < d.outputVcs.length) (h : AttemptLoop d w k s) :
    AttemptLoop d w (k + 1) (attemptVc peer s k) := by
  have hvc : s.1.1.vc k = d.vc k := h.later k (Nat.le_refl _)
  have hheads : (attemptVc peer s k).2 = headsOf (fun i => (d.vc i).buffer) (k + 1) := by
    rw [headsOf_succ, ← h.heads, ← hvc]
    rfl
  cases hb : (s.1.1.vc k).buffer with
  | nil =>
      have htry : (attemptVc peer s k).1 = s.1 := by
        show (s.1.1.trySend peer k s.1.2).2 = s.1
        rw [trySend_nil hb]
      refine ⟨?_, ?_, ?_, fun j hj => ?_, hheads⟩
      · rw [htry]
        exact h.length
      · rw [htry]
        exact h.inPlace
      · rw [htry]
        exact h.surroundings
      · rw [htry]
        exact h.later j (by omega)
  | cons p rest =>
      have hp : p ∈ (s.1.1.vc k).buffer := hb ▸ List.mem_cons_self
      have hlen : k < s.1.1.outputVcs.length := by
        rw [h.length]
        exact hk
      obtain ⟨x, hx, hround⟩ := attemptVc_cons peer hlen hb (h.inPlace k p hp).2
      have hplace : (s.1.1.setVc k x).InPlace s.1.2.1 :=
        h.inPlace.setVc fun q hq => h.inPlace k q (hx q hq)
      refine ⟨?_, ?_, ?_, fun j hj => ?_, hheads⟩
      · rw [hround, setVc_length]
        exact h.length
      · rw [hround]
        exact hplace.keeps (s.1.2.1.keepsVc_delete p)
      · rw [hround]
        exact h.surroundings
      · rw [hround, setVc_vc_ne _ (by omega)]
        exact h.later j (by omega)

theorem attempts_tick (is : List Nat) (s : (DownstreamPort × (Heap × ρ)) × List (Nat × PacketId)) :
    (is.foldl (attemptVc peer) s).1 =
      is.foldl (fun s i => (s.1.trySend peer i s.2).2) s.1 := by
  induction is generalizing s with
  | nil => rfl
  | cons i is ih =>
      rw [List.foldl_cons, List.foldl_cons, ih]
      rfl

/-- **A whole tick of a port whose packets stand in place.** -/
theorem attemptLoop_tick (hd : d.InPlace w.1) :
    AttemptLoop d w d.outputVcs.length (d.tick peer w, d.attempts peer w) := by
  have hloop : ∀ k ≤ d.outputVcs.length,
      AttemptLoop d w k ((List.range k).foldl (attemptVc peer) ((d, w), [])) := by
    intro k
    induction k with
    | zero => exact fun _ => ⟨rfl, hd, rfl, fun _ _ => rfl, rfl⟩
    | succ k ih =>
        intro hk
        rw [List.range_succ, List.foldl_append]
        exact attemptLoop_step hk (ih (Nat.le_of_succ_le hk))
  have hpair : (List.range d.outputVcs.length).foldl (attemptVc peer) ((d, w), []) =
      (d.tick peer w, d.attempts peer w) :=
    Prod.ext (attempts_tick _ _) rfl
  exact hpair ▸ hloop d.outputVcs.length (Nat.le_refl _)

/-- The heads a tick tries to send, in the order of the indices of their channels. -/
theorem attempts_heads (hd : d.InPlace w.1) :
    d.attempts peer w = headsOf (fun i => (d.vc i).buffer) d.outputVcs.length :=
  (attemptLoop_tick hd).heads

/-- **Nothing reaches the link.** -/
theorem linkOffers_nil (hd : d.InPlace w.1) : d.linkOffers peer w = [] := by
  have hloop : AttemptLoop d (w.1, (w.2, [])) d.outputVcs.length
      (d.tick peer.logged (w.1, (w.2, [])), d.attempts peer.logged (w.1, (w.2, []))) :=
    attemptLoop_tick hd
  exact congrArg Prod.snd hloop.surroundings

end InPlace

/-- **Packets stand in place in every reachable state.** -/
theorem inPlace_of_reachable {d : DownstreamPort} {w : Heap × ρ} (h : Reachable d w) :
    d.InPlace w.1 := by
  induction h with
  | create id outSizes priorities label w =>
      intro i p hp
      rw [create_buffer] at hp
      exact absurd hp List.not_mem_nil
  | sendReq h peer hpeer p hp ih => exact ih.sendReq hpeer hp
  | tick h peer hpeer ih => exact (attemptLoop_tick ih).inPlace
  | master h m ih => exact ih
  | other h hkeeps ih => exact ih.keeps hkeeps

end DownstreamPort

/-! ## 3. Both ports -/

/-- **THE ORDER OF SERVICE.** For every `UpstreamPort`, in any state, and every `DownstreamPort`, in
    every reachable one, with any channels, priorities, owner and other end: the heads that a tick
    offers to the owner, and those it tries to send, come in the order of the priorities exactly
    when the priorities of the non-empty channels follow their indices; and as a tick hands nothing
    to the link, no head is offered to it before another one, so there the order is kept exactly
    when all non-empty channels have the same priority. -/
theorem served_by_priority_iff (handle : Handler ρ) (u : UpstreamPort) (x : Heap × ρ)
    (peer : Peer ρ) (d : DownstreamPort) (w : Heap × ρ) (hd : d.Reachable w) :
    (ByPriority (fun i => (u.vc i).buffer) (fun i => (u.vc i).priority) u.inputVcs.length Prod.mk
        ((u.offers handle x).map fun o => (o.vc, o.packet)) ↔
      IndexOrdered (fun i => (u.vc i).buffer) (fun i => (u.vc i).priority) u.inputVcs.length) ∧
    (ByPriority (fun i => (d.vc i).buffer) (fun i => (d.vc i).priority) d.outputVcs.length Prod.mk
        (d.attempts peer w) ↔
      IndexOrdered (fun i => (d.vc i).buffer) (fun i => (d.vc i).priority) d.outputVcs.length) ∧
    (ByPriority (fun i => (d.vc i).buffer) (fun i => (d.vc i).priority) d.outputVcs.length
        (fun _ p => p) (d.linkOffers peer w) ↔
      OnePriority (fun i => (d.vc i).buffer) (fun i => (d.vc i).priority) d.outputVcs.length) := by
  have hplace := DownstreamPort.inPlace_of_reachable hd
  refine ⟨?_, ?_, ?_⟩
  · rw [UpstreamPort.offers_heads]
    exact byPriority_headsOf_iff
  · rw [DownstreamPort.attempts_heads hplace]
    exact byPriority_headsOf_iff
  · rw [DownstreamPort.linkOffers_nil hplace]
    exact byPriority_nil_iff _

/-! ## 4. Two channels, the second one more urgent -/

/-- Packets 0 and 1, for channels 0 and 1. -/
def twoPackets : Heap where
  packet p := { vcId := if p = 1 then 1 else 0 }
  nextPacket := 2

/-- Priorities 1 and 0, and a packet in each channel. -/
def urgentSecond : UpstreamPort :=
  ((UpstreamPort.create 0 [1, 1] [1, 0] "").recv 0 0 twoPackets).2.1.recv 0 1 twoPackets |>.2.1

/-- The owner accepts everything. -/
def acceptAll : Handler Unit := fun _ _ _ w => (true, w)

/-- **The urgent head comes second.** -/
theorem urgent_served_last : ¬ ByPriority (fun i => (urgentSecond.vc i).buffer)
    (fun i => (urgentSecond.vc i).priority) urgentSecond.inputVcs.length Prod.mk
    ((urgentSecond.offers acceptAll (twoPackets, ())).map fun o => (o.vc, o.packet)) := by
  intro h
  have hsub := h 1 0 1 0 (by decide) (by decide) (by decide) (by decide) (by decide)
  exact absurd hsub (by decide)

/-- An unbound output port with priorities 0 and 1 and a packet in each channel. -/
def twoQueued : DownstreamPort × (Heap × Unit) :=
  let r := (DownstreamPort.create 0 [1, 1] [0, 1] "").sendReq none 0 (twoPackets, ())
  (r.2.1.sendReq none 1 r.2.2).2

theorem keepsVc_none : Peer.KeepsVc (none : Peer Unit) := by
  intro recv h
  cases h

theorem reachable_twoQueued : twoQueued.1.Reachable twoQueued.2 :=
  .sendReq (.sendReq (.create 0 [1, 1] [0, 1] "" (twoPackets, ())) none keepsVc_none 0 (by decide))
    none keepsVc_none 1 (by decide)

/-- Its tick tries both heads in the order of their priorities. -/
theorem served_by_priority_twoQueued :
    ByPriority (fun i => (twoQueued.1.vc i).buffer) (fun i => (twoQueued.1.vc i).priority)
      twoQueued.1.outputVcs.length Prod.mk (twoQueued.1.attempts none twoQueued.2) := by
  refine (served_by_priority_iff acceptAll urgentSecond (twoPackets, ()) none twoQueued.1
    twoQueued.2 reachable_twoQueued).2.1.mpr fun v w hvw hw _ _ => ?_
  have hlen : twoQueued.1.outputVcs.length = 2 := by decide
  obtain rfl : v = 0 := by omega
  obtain rfl : w = 1 := by omega
  decide

end Gem5Sc
