/-
  File:      Gem5Sc/Library/Woven.lean
  Subject:   Lists with other elements woven in.

  `Woven Q l m` says that `m` is `l` with elements that satisfy `Q` put in anywhere. Putting in one
  more keeps it (`Woven.insert`), and so does a filter. Where the one list is cut at an element, so
  is the other (`Woven.cut`, `Woven.cut_woven`).
-/
import Mathlib.Data.List.Basic

namespace Library

variable {α : Type*} {Q : α → Prop} {l m : List α}

/-- `m` is `l` with elements that satisfy `Q` put in. -/
inductive Woven (Q : α → Prop) : List α → List α → Prop where
  | nil : Woven Q [] []
  | own (x : α) {l m : List α} (h : Woven Q l m) : Woven Q (x :: l) (x :: m)
  | extra {x : α} (hx : Q x) {l m : List α} (h : Woven Q l m) : Woven Q l (x :: m)

namespace Woven

theorem refl (l : List α) : Woven Q l l := by
  induction l with
  | nil => exact .nil
  | cons x l ih => exact .own x ih

theorem insert {x : α} (hx : Q x) {p r : List α} (h : Woven Q l (p ++ r)) :
    Woven Q l (p ++ x :: r) := by
  induction p generalizing l with
  | nil => exact .extra hx h
  | cons y p ih =>
      cases h with
      | own _ h => exact .own y (ih h)
      | extra hy h => exact .extra hy (ih h)

theorem filter (p : α → Bool) (h : Woven Q l m) : Woven Q (l.filter p) (m.filter p) := by
  induction h with
  | nil => exact .nil
  | own x _ ih =>
      rw [List.filter_cons, List.filter_cons]
      split
      · exact .own x ih
      · exact ih
  | extra hx _ ih =>
      rw [List.filter_cons]
      split
      · exact .extra hx ih
      · exact ih

/-- Before an own element there are the own ones before it, and others. -/
theorem cut (h : Woven Q l m) {a b : List α} {x : α} (hl : l = a ++ x :: b) :
    ∃ a' b', m = a' ++ x :: b' ∧ ∀ y ∈ a', y ∈ a ∨ Q y := by
  induction h generalizing a with
  | nil => exact absurd hl.symm (List.append_ne_nil_of_right_ne_nil _ (List.cons_ne_nil x b))
  | @own z l m _ ih =>
      cases a with
      | nil =>
          obtain ⟨rfl, -⟩ := List.cons.inj hl
          exact ⟨[], m, rfl, fun y hy => absurd hy List.not_mem_nil⟩
      | cons w a =>
          obtain ⟨rfl, hrest⟩ := List.cons.inj hl
          obtain ⟨a', b', rfl, ha⟩ := ih hrest
          refine ⟨z :: a', b', rfl, List.forall_mem_cons.mpr ⟨Or.inl List.mem_cons_self, ?_⟩⟩
          exact fun y hy => (ha y hy).imp_left (List.mem_cons_of_mem z)
  | @extra z hz l m _ ih =>
      obtain ⟨a', b', rfl, ha⟩ := ih hl
      exact ⟨z :: a', b', rfl, List.forall_mem_cons.mpr ⟨Or.inr hz, ha⟩⟩

/-- An element is one of the others, or an own one, with its own ones before it. -/
theorem cut_woven (h : Woven Q l m) {a' b' : List α} {x : α} (hm : m = a' ++ x :: b') :
    Q x ∨ ∃ a b, l = a ++ x :: b ∧ ∀ y ∈ a, y ∈ a' := by
  induction h generalizing a' with
  | nil => exact absurd hm.symm (List.append_ne_nil_of_right_ne_nil _ (List.cons_ne_nil x b'))
  | @own z l m _ ih =>
      cases a' with
      | nil =>
          obtain ⟨rfl, -⟩ := List.cons.inj hm
          exact Or.inr ⟨[], l, rfl, fun y hy => absurd hy List.not_mem_nil⟩
      | cons w a' =>
          obtain ⟨rfl, hrest⟩ := List.cons.inj hm
          rcases ih hrest with hx | ⟨a, b, rfl, ha⟩
          · exact Or.inl hx
          · refine Or.inr ⟨z :: a, b, rfl, List.forall_mem_cons.mpr ⟨List.mem_cons_self, ?_⟩⟩
            exact fun y hy => List.mem_cons_of_mem z (ha y hy)
  | @extra z hz l m _ ih =>
      cases a' with
      | nil =>
          obtain ⟨rfl, -⟩ := List.cons.inj hm
          exact Or.inl hz
      | cons w a' =>
          obtain ⟨rfl, hrest⟩ := List.cons.inj hm
          rcases ih hrest with hx | ⟨a, b, rfl, ha⟩
          · exact Or.inl hx
          · exact Or.inr ⟨a, b, rfl, fun y hy => List.mem_cons_of_mem z (ha y hy)⟩

theorem subset (h : Woven Q l m) {x : α} (hx : x ∈ l) : x ∈ m := by
  obtain ⟨a, b, hl⟩ := List.append_of_mem hx
  obtain ⟨a', b', rfl, -⟩ := h.cut hl
  exact List.mem_append_right a' List.mem_cons_self

theorem mem (h : Woven Q l m) {x : α} (hx : x ∈ m) : x ∈ l ∨ Q x := by
  obtain ⟨a', b', hm⟩ := List.append_of_mem hx
  rcases h.cut_woven hm with hx | ⟨a, b, rfl, -⟩
  · exact Or.inr hx
  · exact Or.inl (List.mem_append_right a List.mem_cons_self)

end Woven

end Library
