/-
  File:      Gem5Sc/Topology/Edges.lean
  Subject:   WHICH EDGES THE DUMP WRITES: one for each key of a linked pair of instances.

  The loop finds a pair of instances for each bound port (`mem_links`), and keeps the first pair of
  each key, the two names with `->` between them. Names may contain `->`, so two pairs can have one
  key, and then the second is left out: each linked pair has its edge exactly when different pairs
  have different keys (`edges_iff_separate`).
-/
import Gem5Sc.Library.FirstOfKey
import Gem5Sc.Topology

namespace Gem5Sc.TopologyDumper

variable {w : World} {wires : Wiring AnyPort} {f : FactoryId}

/-- A downstream port of the instance `e.1` is bound to an upstream port of an instance, and that
    instance has the name `e.2`. -/
def Linked (w : World) (wires : Wiring AnyPort) (f : FactoryId) (e : String × String) : Prop :=
  ∃ a ∈ w.getAllInstances f, ∃ b ∈ w.getAllInstances f, e = (a.1, w.nameOf b.2) ∧
    ∃ p ∈ w.downstreamPortsOf a.2, ∃ q ∈ w.upstreamPortsOf b.2, wires.target p = some q

/-- The key of a pair in `edge_set`. -/
def edgeKey (e : String × String) : String := e.1 ++ "->" ++ e.2

/-- Different linked pairs have different keys. -/
def Separate (w : World) (wires : Wiring AnyPort) (f : FactoryId) : Prop :=
  ∀ e e', Linked w wires f e → Linked w wires f e' → edgeKey e = edgeKey e' → e = e'

/-! ## 1. The pairs the loop comes to -/

/-- What the loop finds for one port. -/
def link (w : World) (wires : Wiring AnyPort) (f : FactoryId) (x : String × AnyPort) :
    Option (String × String) :=
  (wires.target x.2).bind fun peer => (findOwner w f peer.asSlave).map fun dst =>
    (x.1, w.nameOf dst)

theorem allEdges_eq :
    allEdges w wires f = Library.firsts edgeKey ((sources w f).filterMap (link w wires f)) := by
  unfold allEdges Library.firsts
  rw [List.foldl_filterMap]
  congr 2
  funext s x
  unfold collectEdge link
  cases wires.target x.2 with
  | none => rfl
  | some peer =>
      cases hfind : findOwner w f peer.asSlave with
      | none => simp only [Option.bind_some, hfind, Option.map_none]
      | some dst =>
          simp only [Option.bind_some, hfind, Option.map_some]
          rfl

/-- An upstream port has one object. -/
theorem owner_eq_of_mem {o : ObjId} {q : AnyPort} (h : q ∈ w.upstreamPortsOf o) :
    q.owner = o ∧ q.asSlave = some q := by
  obtain ⟨i, -, rfl⟩ := List.mem_map.mp h
  exact ⟨rfl, rfl⟩

/-- `findOwner` for an upstream port of an instance. -/
theorem findOwner_eq {b : String × ObjId} (hb : b ∈ w.getAllInstances f) {q : AnyPort}
    (hq : q ∈ w.upstreamPortsOf b.2) : findOwner w f q.asSlave = some b.2 := by
  obtain ⟨hown, hslave⟩ := owner_eq_of_mem hq
  have hany : ((w.upstreamPortsOf b.2).any fun p => some p = q.asSlave) = true := by
    rw [hslave]
    exact List.any_eq_true.mpr ⟨q, hq, decide_eq_true rfl⟩
  cases hfind : (w.getAllInstances f).find? fun e =>
      (w.upstreamPortsOf e.2).any fun p => some p = q.asSlave with
  | none => exact absurd hany (List.find?_eq_none.mp hfind b hb)
  | some e =>
      have howns := List.find?_some hfind
      rw [List.any_eq_true] at howns
      obtain ⟨p, hp, hpq⟩ := howns
      have hpq' : p = q := Option.some.inj ((of_decide_eq_true hpq : some p = _).trans hslave)
      have he : e.2 = b.2 := by
        rw [← (owner_eq_of_mem hp).1, hpq', hown]
      unfold findOwner
      rw [hfind, Option.map_some, he]

/-- **The loop comes to the linked pairs.** -/
theorem mem_links {e : String × String} :
    e ∈ (sources w f).filterMap (link w wires f) ↔ Linked w wires f e := by
  rw [List.mem_filterMap]
  constructor
  · rintro ⟨x, hx, hlink⟩
    obtain ⟨a, ha, hx⟩ := List.mem_flatMap.mp hx
    obtain ⟨p, hp, rfl⟩ := List.mem_map.mp hx
    obtain ⟨peer, htarget, hlink⟩ := Option.bind_eq_some_iff.mp hlink
    obtain ⟨dst, hfind, rfl⟩ := Option.map_eq_some_iff.mp hlink
    obtain ⟨b, hb, rfl⟩ := Option.map_eq_some_iff.mp hfind
    have howns := List.find?_some hb
    rw [List.any_eq_true] at howns
    obtain ⟨q, hq, hqs⟩ := howns
    have hpeer : peer = q := by
      have hqs' : some q = peer.asSlave := of_decide_eq_true hqs
      cases peer with
      | downstream r => cases hqs'
      | upstream r => exact (Option.some.inj hqs').symm
    exact ⟨a, ha, b, List.mem_of_find?_eq_some hb, rfl, p, hp, q, hq, hpeer ▸ htarget⟩
  · rintro ⟨a, ha, b, hb, rfl, p, hp, q, hq, htarget⟩
    refine ⟨(a.1, p), List.mem_flatMap.mpr ⟨a, ha, List.mem_map_of_mem hp⟩, ?_⟩
    unfold link
    rw [htarget, Option.bind_some, findOwner_eq hb hq, Option.map_some]

/-! ## 2. The edges -/

/-- **Each linked pair has one edge** exactly when the keys tell them apart. -/
theorem edges_iff_separate :
    (∀ e, Linked w wires f e → (allEdges w wires f).count e = 1) ↔ Separate w wires f := by
  have hall := Library.all_kept_iff edgeKey ((sources w f).filterMap (link w wires f))
  rw [← allEdges_eq] at hall
  refine ⟨fun h e e' he he' hkey => ?_, fun h e he => ?_⟩
  · refine hall.mp (fun x hx => ?_) e (mem_links.mpr he) e' (mem_links.mpr he') hkey
    exact List.one_le_count_iff.mp (Nat.le_of_eq (h x (mem_links.mp hx)).symm)
  · have hmem := hall.mpr (fun x hx y hy hkey => h x y (mem_links.mp hx) (mem_links.mp hy) hkey) e
      (mem_links.mpr he)
    rw [allEdges_eq] at hmem ⊢
    exact Library.count_kept hmem

/-- Two pairs of names with one key. -/
example : edgeKey ("a->b", "c") = edgeKey ("a", "b->c") := by decide

/-- The source of an edge is an instance. -/
theorem isSome_of_mem_allEdges {e : String × String} (he : e ∈ allEdges w wires f) :
    e.1 ∈ (w.getAllInstances f).map Prod.fst := by
  rw [allEdges_eq] at he
  obtain ⟨a, ha, -, -, rfl, -⟩ :=
    mem_links.mp ((Library.kept_foldl edgeKey _).sub e he)
  exact List.mem_map_of_mem ha

end Gem5Sc.TopologyDumper
