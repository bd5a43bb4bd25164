/-
  File:      Gem5Sc/ModuleFactory/PortPairs.lean
  Subject:   WHICH PORT A `send` REACHES, after any sequence of `PortPair` constructions.

  `SimplePort::bind` overwrites `pair` and `my_side` of its port, so a port belongs to the last
  pair it was bound by (`target_wire`). The other port of that pair need not: it may have been
  bound again since, and then the two ports see different pairs.

  * `Settled` -- whenever one port of a construction is bound again later, so is the other;
  * `symmetric_iff_settled` -- the exact condition for symmetric links;
  * `fanIn_not_symmetric` -- `instantiateAll` with two sources for one destination port.
-/
import Gem5Sc.ModuleFactory.Connect

namespace Gem5Sc

universe u

/-- `class PortPair`. -/
structure PortPair (π : Type u) where
  sideA : π
  sideB : π

/-- The `PortPair`s by number, and `pair` and `my_side` of every port. -/
structure Wiring (π : Type u) where
  pairs : List (PortPair π) := []
  bound : π → Option (Nat × Nat) := fun _ => none
  bound_valid : ∀ p k side, bound p = some (k, side) → k < pairs.length := by
    intro p k side h
    cases h

namespace Wiring

variable {π : Type u} [DecidableEq π]

/-- `SimplePort::bind`. -/
def bind (w : Wiring π) (p : π) (pair : Fin w.pairs.length) (side : Nat) : Wiring π where
  pairs := w.pairs
  bound := fun q => if q = p then some (pair, side) else w.bound q
  bound_valid q k s h := by
    split at h
    · cases h
      exact pair.isLt
    · exact w.bound_valid q k s h

/-- `new PortPair(a, b)`. -/
def newPair (w : Wiring π) (a b : π) : Wiring π :=
  let w₁ : Wiring π :=
    { pairs := w.pairs ++ [⟨a, b⟩]
      bound := w.bound
      bound_valid := fun p k side h => by
        rw [List.length_append]
        exact Nat.lt_add_right 1 (w.bound_valid p k side h) }
  have hk : w.pairs.length < w₁.pairs.length := by
    rw [List.length_append]
    exact Nat.lt_succ_self _
  (w₁.bind a ⟨w.pairs.length, hk⟩ 0).bind b ⟨w.pairs.length, hk⟩ 1

/-- The port whose `recv` a `send` on `p` calls. -/
def target (w : Wiring π) (p : π) : Option π :=
  match w.bound p with
  | none => none
  | some (k, side) =>
      (w.pairs[k]?).map fun pair => if side = 0 then pair.sideB else pair.sideA

/-- For all ports: what is reached from `p` reaches `p`. -/
def Symmetric (w : Wiring π) : Prop := ∀ p q, w.target p = some q → w.target q = some p

/-! ## 1. One construction -/

theorem target_newPair_right (w : Wiring π) (a b : π) : (w.newPair a b).target b = some a := by
  have hb : (w.newPair a b).bound b = some (w.pairs.length, 1) := if_pos rfl
  have hp : (w.newPair a b).pairs[w.pairs.length]? = some ⟨a, b⟩ := List.getElem?_concat_length
  simp only [target, hb, hp, Option.map_some]
  rfl

theorem target_newPair_left (w : Wiring π) {a b : π} (h : a ≠ b) :
    (w.newPair a b).target a = some b := by
  have ha : (w.newPair a b).bound a = some (w.pairs.length, 0) := (if_neg h).trans (if_pos rfl)
  have hp : (w.newPair a b).pairs[w.pairs.length]? = some ⟨a, b⟩ := List.getElem?_concat_length
  simp only [target, ha, hp, Option.map_some]
  rfl

/-- Every other port keeps its pair. -/
theorem target_newPair_of_ne (w : Wiring π) {a b p : π} (ha : p ≠ a) (hb : p ≠ b) :
    (w.newPair a b).target p = w.target p := by
  have hp : (w.newPair a b).bound p = w.bound p := (if_neg hb).trans (if_neg ha)
  unfold target
  rw [hp]
  cases hbound : w.bound p with
  | none => rfl
  | some x =>
      have hpairs : (w.newPair a b).pairs[x.1]? = w.pairs[x.1]? :=
        List.getElem?_append_left (w.bound_valid p x.1 x.2 hbound)
      exact congrArg (Option.map _) hpairs

/-- The construction `c` joins `p` and `q`. -/
def Joins (c : π × π) (p q : π) : Prop := (p = c.1 ∧ q = c.2) ∨ (p = c.2 ∧ q = c.1)

omit [DecidableEq π] in
theorem Joins.symm {c : π × π} {p q : π} (h : Joins c p q) : Joins c q p :=
  h.elim (fun h => Or.inr ⟨h.2, h.1⟩) fun h => Or.inl ⟨h.2, h.1⟩

/-- **What one construction does**: its two ports reach each other, all others what they did. -/
theorem target_newPair_iff (w : Wiring π) (c : π × π) (p q : π) :
    (w.newPair c.1 c.2).target p = some q ↔
      Joins c p q ∨ (p ≠ c.1 ∧ p ≠ c.2 ∧ w.target p = some q) := by
  by_cases hb : p = c.2
  · rw [hb, target_newPair_right, Option.some.injEq]
    refine ⟨fun h => Or.inl (Or.inr ⟨rfl, h.symm⟩), fun h => ?_⟩
    rcases h with (⟨h2, hq⟩ | ⟨-, hq⟩) | ⟨-, hne, -⟩
    · exact (h2.symm.trans hq.symm)
    · exact hq.symm
    · exact absurd rfl hne
  · by_cases ha : p = c.1
    · have hne : c.1 ≠ c.2 := fun h => hb (ha.trans h)
      rw [ha, target_newPair_left w hne, Option.some.injEq]
      refine ⟨fun h => Or.inl (Or.inl ⟨rfl, h.symm⟩), fun h => ?_⟩
      rcases h with (⟨-, hq⟩ | ⟨h2, -⟩) | ⟨hne', -, -⟩
      · exact hq.symm
      · exact absurd h2 hne
      · exact absurd rfl hne'
    · rw [target_newPair_of_ne w ha hb]
      refine ⟨fun h => Or.inr ⟨ha, hb, h⟩, fun h => ?_⟩
      rcases h with (⟨h1, -⟩ | ⟨h2, -⟩) | ⟨-, -, h⟩
      · exact absurd h1 ha
      · exact absurd h2 hb
      · exact h

/-! ## 2. Any sequence of constructions -/

/-- The constructions `cs`, in order. -/
def extend (w : Wiring π) (cs : List (π × π)) : Wiring π :=
  cs.foldl (fun w c => w.newPair c.1 c.2) w

/-- The constructions `cs` on ports that have never been bound. -/
def wire (cs : List (π × π)) : Wiring π := extend {} cs

/-- The ports that take part in `cs`. -/
def ports (cs : List (π × π)) : List π := cs.flatMap fun c => [c.1, c.2]

omit [DecidableEq π] in
theorem mem_ports_cons {c : π × π} {cs : List (π × π)} {p : π} :
    p ∈ ports (c :: cs) ↔ p = c.1 ∨ p = c.2 ∨ p ∈ ports cs := by
  simp only [ports, List.flatMap_cons, List.mem_append, List.mem_cons, List.not_mem_nil, or_false,
    or_assoc]

omit [DecidableEq π] in
theorem mem_ports {c : π × π} {cs : List (π × π)} (hc : c ∈ cs) {p q : π} (h : Joins c p q) :
    p ∈ ports cs := by
  refine List.mem_flatMap.mpr ⟨c, hc, ?_⟩
  rcases h with ⟨rfl, -⟩ | ⟨rfl, -⟩
  · exact List.mem_cons_self
  · exact List.mem_cons_of_mem _ List.mem_cons_self

/-- The last construction of `cs` with port `p` joins it to `q`. -/
def LastJoins (cs : List (π × π)) (p q : π) : Prop :=
  ∃ before c after, cs = before ++ c :: after ∧ Joins c p q ∧ p ∉ ports after

theorem target_extend (cs : List (π × π)) (w : Wiring π) (p q : π) :
    (w.extend cs).target p = some q ↔
      LastJoins cs p q ∨ (p ∉ ports cs ∧ w.target p = some q) := by
  induction cs generalizing w with
  | nil =>
      refine ⟨fun h => Or.inr ⟨List.not_mem_nil, h⟩, fun h => h.elim ?_ And.right⟩
      rintro ⟨before, c, after, h, -⟩
      exact absurd h.symm (List.append_ne_nil_of_right_ne_nil before (List.cons_ne_nil c after))
  | cons c cs ih =>
      refine (ih (w.newPair c.1 c.2)).trans ⟨fun h => ?_, fun h => ?_⟩
      · rcases h with ⟨before, c', after, rfl, hj, hp⟩ | ⟨hp, h⟩
        · exact Or.inl ⟨c :: before, c', after, rfl, hj, hp⟩
        · rcases (target_newPair_iff w c p q).mp h with hj | ⟨h1, h2, h⟩
          · exact Or.inl ⟨[], c, cs, rfl, hj, hp⟩
          · exact Or.inr ⟨fun hm => (mem_ports_cons.mp hm).elim h1 (Or.rec h2 hp), h⟩
      · rcases h with ⟨before, c', after, heq, hj, hp⟩ | ⟨hp, h⟩
        · cases before with
          | nil =>
              obtain ⟨rfl, rfl⟩ := List.cons.inj heq
              exact Or.inr ⟨hp, (target_newPair_iff w c p q).mpr (Or.inl hj)⟩
          | cons c₀ before =>
              obtain ⟨rfl, rfl⟩ := List.cons.inj heq
              exact Or.inl ⟨before, c', after, rfl, hj, hp⟩
        · rw [mem_ports_cons, not_or, not_or] at hp
          exact Or.inr ⟨hp.2.2, (target_newPair_iff w c p q).mpr (Or.inr ⟨hp.1, hp.2.1, h⟩)⟩

/-- **A port belongs to the last pair it was bound by.** -/
theorem target_wire (cs : List (π × π)) (p q : π) :
    (wire cs).target p = some q ↔ LastJoins cs p q := by
  refine (target_extend cs {} p q).trans ⟨fun h => h.resolve_right ?_, Or.inl⟩
  rintro ⟨-, h⟩
  cases h

/-- Of no construction is one port bound again later and the other not. -/
def Settled (cs : List (π × π)) : Prop :=
  ∀ before c after, cs = before ++ c :: after → (c.1 ∈ ports after ↔ c.2 ∈ ports after)

omit [DecidableEq π] in
theorem Settled.notMem {cs before after : List (π × π)} {c : π × π} (h : Settled cs)
    (hcs : cs = before ++ c :: after) {p q : π} (hj : Joins c p q) (hp : p ∉ ports after) :
    q ∉ ports after := by
  rcases hj with ⟨rfl, rfl⟩ | ⟨rfl, rfl⟩
  · exact fun hq => hp ((h before c after hcs).mpr hq)
  · exact fun hq => hp ((h before c after hcs).mp hq)

theorem symmetric_of_settled {cs : List (π × π)} (h : Settled cs) : (wire cs).Symmetric := by
  intro p q hpq
  obtain ⟨before, c, after, hcs, hj, hp⟩ := (target_wire cs p q).mp hpq
  exact (target_wire cs q p).mpr ⟨before, c, after, hcs, hj.symm, h.notMem hcs hj hp⟩

omit [DecidableEq π] in
/-- A construction that comes after `c` or is `c` itself. -/
theorem eq_or_mem_of_cons_eq {after mid after' : List (π × π)} {c c' : π × π}
    (h : c :: after = mid ++ c' :: after') : after = after' ∨ c' ∈ after := by
  cases mid with
  | nil => exact Or.inl (List.cons.inj h).2
  | cons c₀ mid =>
      obtain ⟨-, rfl⟩ := List.cons.inj h
      exact Or.inr (List.mem_append_right mid List.mem_cons_self)

/-- If the links are symmetric and `p` is not bound after `c`, then neither is the port `c` joins
    it to: its last pair leads back to `p`, so it is none after `c`, and none before. -/
theorem notMem_of_symmetric {cs before after : List (π × π)} {c : π × π}
    (h : (wire cs).Symmetric) (hcs : cs = before ++ c :: after) {p q : π} (hj : Joins c p q)
    (hp : p ∉ ports after) : q ∉ ports after := by
  have hpq : (wire cs).target p = some q := (target_wire cs p q).mpr ⟨before, c, after, hcs, hj, hp⟩
  obtain ⟨before', c', after', hcs', hj', hq⟩ := (target_wire cs q p).mp (h p q hpq)
  rcases List.append_eq_append_iff.mp (hcs.symm.trans hcs') with ⟨mid, -, hmid⟩ | ⟨mid, -, hmid⟩
  · rcases eq_or_mem_of_cons_eq hmid with rfl | hmem
    · exact hq
    · exact absurd (mem_ports hmem hj'.symm) hp
  · rcases eq_or_mem_of_cons_eq hmid with rfl | hmem
    · exact hq
    · exact absurd (mem_ports hmem hj.symm) hq

/-- **SYMMETRIC LINKS.** For every sequence of `PortPair` constructions over any ports: the links
    are symmetric if and only if no construction has one port that is bound again later and one
    that is not. -/
theorem symmetric_iff_settled (cs : List (π × π)) : (wire cs).Symmetric ↔ Settled cs := by
  refine ⟨fun h before c after hcs => ⟨fun h1 => ?_, fun h2 => ?_⟩, symmetric_of_settled⟩
  · by_contra h2
    exact notMem_of_symmetric h hcs (Or.inr ⟨rfl, rfl⟩) h2 h1
  · by_contra h1
    exact notMem_of_symmetric h hcs (Or.inl ⟨rfl, rfl⟩) h1 h2

end Wiring

/-! ## 3. The pairs of a configuration -/

/-- A port of an object, as a `SimplePort*`. -/
inductive AnyPort where
  | downstream (p : PortRef)
  | upstream (p : PortRef)
  deriving DecidableEq, Repr

/-- The `PortPair` constructions of a world. -/
def World.constructions (w : World) : List (AnyPort × AnyPort) :=
  w.pairs.map fun x => (.downstream x.1, .upstream x.2)

/-- Two sources for one destination port. The first two connections create the ports, the third
    binds them. -/
def fanIn : Json :=
  .obj [("connections", .arr [
          .obj [("dst", .str "l1.in"), ("src", .str "cpu0.out")],
          .obj [("dst", .str "l1.in"), ("src", .str "cpu1.out")],
          .obj [("dst", .str "group:l1"), ("src", .str "group:cpus")]]),
        ("groups", .obj [("cpus", .arr [.str "cpu0.out", .str "cpu1.out"]),
                         ("l1", .arr [.str "l1.in"])]),
        ("modules", .arr [.obj [("name", .str "cpu0"), ("type", .str "Source")],
                          .obj [("name", .str "cpu1"), ("type", .str "Source")],
                          .obj [("name", .str "l1"), ("type", .str "Sink")]])]

/-- `cpu0.out` reaches `l1.in`, and `l1.in` answers `cpu1.out`. -/
theorem fanIn_not_symmetric :
    ∃ w', instantiateAll (Platform.ofFiles [("fan_in.json", fanIn)]) 1 0 (.str "fan_in.json")
        linkWorld = .ok w' ∧
      (Wiring.wire w'.constructions).target (.downstream ⟨0, 0⟩) = some (.upstream ⟨2, 1⟩) ∧
      (Wiring.wire w'.constructions).target (.upstream ⟨2, 1⟩) = some (.downstream ⟨1, 0⟩) ∧
      ¬ (Wiring.wire w'.constructions).Symmetric := by
  have hret : (instantiateAll (Platform.ofFiles [("fan_in.json", fanIn)]) 1 0 (.str "fan_in.json")
      linkWorld).toOption.map World.constructions =
      some [(.downstream ⟨0, 0⟩, .upstream ⟨2, 1⟩), (.downstream ⟨1, 0⟩, .upstream ⟨2, 1⟩)] := by
    decide
  cases hw : instantiateAll (Platform.ofFiles [("fan_in.json", fanIn)]) 1 0 (.str "fan_in.json")
      linkWorld with
  | error e =>
      rw [hw] at hret
      cases hret
  | ok w' =>
      rw [hw] at hret
      have hc : w'.constructions =
          [(.downstream ⟨0, 0⟩, .upstream ⟨2, 1⟩), (.downstream ⟨1, 0⟩, .upstream ⟨2, 1⟩)] :=
        Option.some.inj hret
      refine ⟨w', rfl, ?_⟩
      rw [hc]
      refine ⟨by decide, by decide, fun h => ?_⟩
      exact absurd (h (.downstream ⟨0, 0⟩) (.upstream ⟨2, 1⟩) (by decide)) (by decide)

end Gem5Sc
