/-
  File:      Gem5Sc/Port/Offers.lean
  Subject:   THE TICK OF AN INPUT PORT as a sequence of offers to the owner.

  `UpstreamPort.offers` is the log of a `tick`: for each call of `handleUpstreamRequest` the
  channel, its head and the answer. The logging loop `offerVc` runs beside `tickVc` and takes no
  part in it (`offers_tick`). `tick_induction` is the induction rule over its rounds.

  The loop goes through the channels by index and looks at nothing else: the heads it offers are
  those of the non-empty channels at the start, in the order of the indices (`offers_heads`).
-/
import Gem5Sc.Port

namespace Gem5Sc

/-- One call of `handleUpstreamRequest` by a `tick`. -/
structure Offer where
  vc : Nat
  packet : PacketId
  taken : Bool
  deriving DecidableEq, Repr

/-- The packets that the owner took, each with its channel. -/
def takenOf (l : List Offer) : List (Nat × PacketId) :=
  (l.filter (·.taken)).map fun o => (o.vc, o.packet)

theorem takenOf_append (l k : List Offer) : takenOf (l ++ k) = takenOf l ++ takenOf k := by
  unfold takenOf
  rw [List.filter_append, List.map_append]

/-- The heads of the non-empty ones among the first `n` channels, in the order of the indices. -/
def headsOf (buffer : Nat → List PacketId) (n : Nat) : List (Nat × PacketId) :=
  (List.range n).filterMap fun i => (buffer i).head?.map fun p => (i, p)

theorem headsOf_succ (buffer : Nat → List PacketId) (n : Nat) :
    headsOf buffer (n + 1) = headsOf buffer n ++ ((buffer n).head?.map fun p => (n, p)).toList := by
  unfold headsOf
  rw [List.range_succ, List.filterMap_append]
  congr 1

theorem mem_headsOf {buffer : Nat → List PacketId} {n i : Nat} {p : PacketId} :
    (i, p) ∈ headsOf buffer n ↔ i < n ∧ (buffer i).head? = some p := by
  unfold headsOf
  rw [List.mem_filterMap]
  constructor
  · intro h
    obtain ⟨j, hj, he⟩ := h
    obtain ⟨q, hq, heq⟩ := Option.map_eq_some_iff.mp he
    obtain ⟨rfl, rfl⟩ := Prod.mk.inj heq
    exact ⟨List.mem_range.mp hj, hq⟩
  · intro h
    exact ⟨i, List.mem_range.mpr h.1, by rw [h.2]; rfl⟩

/-- The indices go up. -/
theorem headsOf_pairwise (buffer : Nat → List PacketId) (n : Nat) :
    (headsOf buffer n).Pairwise fun x y => x.1 < y.1 := by
  induction n with
  | zero => exact List.Pairwise.nil
  | succ n ih =>
      rw [headsOf_succ]
      refine List.pairwise_append.mpr ⟨ih, ?_, fun x hx y hy => ?_⟩
      · cases (buffer n).head? with
        | none => exact List.Pairwise.nil
        | some p => exact List.pairwise_singleton _ _
      · obtain ⟨q, -, rfl⟩ := Option.map_eq_some_iff.mp (Option.mem_toList.mp hy)
        exact (mem_headsOf.mp hx).1

variable {ρ : Type}

namespace UpstreamPort

/-- One round of the loop of `tick` with its log. -/
def offerVc (handle : Handler ρ) (s : (UpstreamPort × (Heap × ρ)) × List Offer) (i : Nat) :
    (UpstreamPort × (Heap × ρ)) × List Offer :=
  match (s.1.1.vc i).buffer with
  | [] => s
  | p :: _ =>
      (tickVc handle s.1 i,
        s.2 ++ [{ vc := i, packet := p, taken := (handle p s.1.1.id s.1.1.label s.1.2).1 }])

/-- The calls of `handleUpstreamRequest` that `tick` makes. -/
def offers (handle : Handler ρ) (u : UpstreamPort) (w : Heap × ρ) : List Offer :=
  ((List.range u.inputVcs.length).foldl (offerVc handle) ((u, w), [])).2

section Round

variable {handle : Handler ρ} {s : (UpstreamPort × (Heap × ρ)) × List Offer} {i : Nat}

theorem offerVc_nil (hb : (s.1.1.vc i).buffer = []) : offerVc handle s i = s := by
  simp only [offerVc, hb]

theorem offerVc_cons {p : PacketId} {rest : List PacketId}
    (hb : (s.1.1.vc i).buffer = p :: rest) : offerVc handle s i =
      (tickVc handle s.1 i,
        s.2 ++ [{ vc := i, packet := p, taken := (handle p s.1.1.id s.1.1.label s.1.2).1 }]) := by
  simp only [offerVc, hb]

theorem tickVc_nil {x : UpstreamPort × (Heap × ρ)} (hb : (x.1.vc i).buffer = []) :
    tickVc handle x i = x := by
  simp only [tickVc, hb]

/-- A head that is taken leaves its channel, a refused one stays. -/
theorem tickVc_cons {x : UpstreamPort × (Heap × ρ)} {p : PacketId} {rest : List PacketId}
    (hb : (x.1.vc i).buffer = p :: rest) : tickVc handle x i =
      (if (handle p x.1.id x.1.label x.2).1 then x.1.setVc i (x.1.vc i).pop else x.1,
        (handle p x.1.id x.1.label x.2).2) := by
  simp only [tickVc, hb]
  split <;> rfl

theorem offerVc_fst : (offerVc handle s i).1 = tickVc handle s.1 i := by
  cases hb : (s.1.1.vc i).buffer with
  | nil => rw [offerVc_nil hb, tickVc_nil hb]
  | cons p rest => rw [offerVc_cons hb]

theorem tickVc_length (x : UpstreamPort × (Heap × ρ)) :
    (tickVc handle x i).1.inputVcs.length = x.1.inputVcs.length := by
  cases hb : (x.1.vc i).buffer with
  | nil => rw [tickVc_nil hb]
  | cons p rest =>
      rw [tickVc_cons hb]
      split
      · exact setVc_length x.1 i _
      · rfl

/-- A round touches its own channel only. -/
theorem tickVc_vc_ne (x : UpstreamPort × (Heap × ρ)) {j : Nat} (hij : i ≠ j) :
    (tickVc handle x i).1.vc j = x.1.vc j := by
  cases hb : (x.1.vc i).buffer with
  | nil => rw [tickVc_nil hb]
  | cons p rest =>
      rw [tickVc_cons hb]
      split
      · exact setVc_vc_ne x.1 hij _
      · rfl

end Round

/-- The log takes no part in the tick. -/
theorem offers_tick (handle : Handler ρ) (is : List Nat)
    (s : (UpstreamPort × (Heap × ρ)) × List Offer) :
    (is.foldl (offerVc handle) s).1 = is.foldl (tickVc handle) s.1 := by
  induction is generalizing s with
  | nil => rfl
  | cons i is ih =>
      rw [List.foldl_cons, List.foldl_cons, ih, offerVc_fst]

/-- **The induction rule of `tick`**: what holds of the port, its surroundings and an empty log,
    and is kept by the round of each channel, holds at the end. -/
theorem tick_induction (handle : Handler ρ) {u : UpstreamPort} {w : Heap × ρ}
    {P : Nat → (UpstreamPort × (Heap × ρ)) × List Offer → Prop} (h0 : P 0 ((u, w), []))
    (hstep : ∀ i < u.inputVcs.length, ∀ s, P i s → P (i + 1) (offerVc handle s i)) :
    P u.inputVcs.length (u.tick handle w, u.offers handle w) := by
  have hloop : ∀ k ≤ u.inputVcs.length,
      P k ((List.range k).foldl (offerVc handle) ((u, w), [])) := by
    intro k
    induction k with
    | zero => exact fun _ => h0
    | succ k ih =>
        intro hk
        rw [List.range_succ, List.foldl_append]
        exact hstep k hk _ (ih (Nat.le_of_succ_le hk))
  have hend := hloop u.inputVcs.length (Nat.le_refl _)
  have hpair : (List.range u.inputVcs.length).foldl (offerVc handle) ((u, w), []) =
      (u.tick handle w, u.offers handle w) :=
    Prod.ext (offers_tick handle _ _) rfl
  exact hpair ▸ hend

/-- What is known after `k` rounds: the later channels are untouched, and the heads of the earlier
    ones have been offered. -/
structure OfferLoop (u : UpstreamPort) (k : Nat) (s : (UpstreamPort × (Heap × ρ)) × List Offer) :
    Prop where
  later : ∀ j, k ≤ j → s.1.1.vc j = u.vc j
  heads : s.2.map (fun o => (o.vc, o.packet)) = headsOf (fun i => (u.vc i).buffer) k

theorem offerLoop_step (handle : Handler ρ) {u : UpstreamPort} {k : Nat}
    {s : (UpstreamPort × (Heap × ρ)) × List Offer} (h : OfferLoop u k s) :
    OfferLoop u (k + 1) (offerVc handle s k) := by
  have hlater : ∀ j, k + 1 ≤ j → (offerVc handle s k).1.1.vc j = u.vc j := by
    intro j hj
    rw [offerVc_fst, tickVc_vc_ne s.1 (by omega)]
    exact h.later j (by omega)
  refine ⟨hlater, ?_⟩
  rw [headsOf_succ, ← h.heads]
  have hk : s.1.1.vc k = u.vc k := h.later k (Nat.le_refl _)
  cases hb : (u.vc k).buffer with
  | nil =>
      rw [offerVc_nil (by rw [hk, hb])]
      exact (List.append_nil _).symm
  | cons p rest =>
      rw [offerVc_cons (by rw [hk, hb]), List.map_append]
      rfl

/-- **The heads a tick offers**, in the order of the indices of their channels. -/
theorem offers_heads (handle : Handler ρ) (u : UpstreamPort) (w : Heap × ρ) :
    (u.offers handle w).map (fun o => (o.vc, o.packet)) =
      headsOf (fun i => (u.vc i).buffer) u.inputVcs.length :=
  (tick_induction handle (P := fun k s => OfferLoop u k s) ⟨fun _ _ => rfl, rfl⟩
    fun _ _ _ h => offerLoop_step handle h).heads

end UpstreamPort

end Gem5Sc
