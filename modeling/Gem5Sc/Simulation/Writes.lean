/-
  File:      Gem5Sc/Simulation/Writes.lean
  Subject:   WRITES TO A SYSTEM: what a write to a module or to a port leaves alone, and which
             writes commute.

  `setMod`, `setUp` and `setDown` change one field of one instance. What is read back afterwards is
  said once for each of them (`mod_setMod`, `up_setUp`, ..), and the write of a module and that of a
  port may change places (`setMod_setUp_comm`, `setMod_setDown_comm`).
-/
import Gem5Sc.Library.Tally
import Gem5Sc.Simulation

namespace Gem5Sc.Fabric

variable (f : Fabric) (a b i j : Nat) (m : Module) (u u' : UpstreamPort) (d d' : DownstreamPort)

/-! ## 1. What is read back -/

theorem inst_setInst (x : Instance) :
    (f.setInst a x).inst b = if b = a ∧ a < f.insts.length then x else f.inst b := by
  simp only [inst, setInst, List.getD_eq_getElem?_getD, List.getElem?_set]
  by_cases hab : a = b
  · subst hab
    by_cases ha : a < f.insts.length
    · simp [ha]
    · simp [ha]
  · simp [hab, Ne.symm hab]

/-- A module outside the list is not there to be written to. -/
theorem inst_of_length_le (ha : f.insts.length ≤ a) : f.inst a = default := by
  simp [inst, ha]

/-- A module with a port is in the list. -/
theorem lt_of_up {u : UpstreamPort} (hu : (f.inst a).up[j]? = some u) : a < f.insts.length := by
  by_contra ha
  rw [inst_of_length_le f a (Nat.le_of_not_lt ha)] at hu
  cases hu

theorem lt_of_down {d : DownstreamPort} (hd : (f.inst a).down[i]? = some d) :
    a < f.insts.length := by
  by_contra ha
  rw [inst_of_length_le f a (Nat.le_of_not_lt ha)] at hd
  cases hd

theorem mod_setMod : ((f.setMod a m).inst b).mod =
    if b = a ∧ a < f.insts.length then m else (f.inst b).mod := by
  rw [setMod, inst_setInst]
  split <;> rfl

@[simp] theorem up_setMod : ((f.setMod a m).inst b).up = (f.inst b).up := by
  rw [setMod, inst_setInst]
  split
  · next h => rw [h.1]
  · rfl

@[simp] theorem down_setMod : ((f.setMod a m).inst b).down = (f.inst b).down := by
  rw [setMod, inst_setInst]
  split
  · next h => rw [h.1]
  · rfl

@[simp] theorem mod_setUp : ((f.setUp a j u).inst b).mod = (f.inst b).mod := by
  rw [setUp, inst_setInst]
  split
  · next h => rw [h.1]
  · rfl

@[simp] theorem down_setUp : ((f.setUp a j u).inst b).down = (f.inst b).down := by
  rw [setUp, inst_setInst]
  split
  · next h => rw [h.1]
  · rfl

theorem up_setUp : ((f.setUp a j u).inst b).up =
    if b = a then (f.inst b).up.set j u else (f.inst b).up := by
  rw [setUp, inst_setInst]
  by_cases hab : b = a
  · subst hab
    by_cases hb : b < f.insts.length
    · simp [hb]
    · rw [if_neg (by omega), inst_of_length_le f b (Nat.le_of_not_lt hb)]
      simp [default]
  · simp [hab]

@[simp] theorem mod_setDown : ((f.setDown a i d).inst b).mod = (f.inst b).mod := by
  rw [setDown, inst_setInst]
  split
  · next h => rw [h.1]
  · rfl

@[simp] theorem up_setDown : ((f.setDown a i d).inst b).up = (f.inst b).up := by
  rw [setDown, inst_setInst]
  split
  · next h => rw [h.1]
  · rfl

theorem down_setDown : ((f.setDown a i d).inst b).down =
    if b = a then (f.inst b).down.set i d else (f.inst b).down := by
  rw [setDown, inst_setInst]
  by_cases hab : b = a
  · subst hab
    by_cases hb : b < f.insts.length
    · simp [hb]
    · rw [if_neg (by omega), inst_of_length_le f b (Nat.le_of_not_lt hb)]
      simp [default]
  · simp [hab]

/-- A port written back is the port read. -/
theorem up_setUp_self {u₀ : UpstreamPort} (hu : (f.inst a).up[j]? = some u₀) :
    ((f.setUp a j u).inst a).up[j]? = some u := by
  rw [up_setUp, if_pos rfl, List.getElem?_set_self (List.getElem?_eq_some_iff.mp hu).1]

theorem down_setDown_self {d₀ : DownstreamPort} (hd : (f.inst a).down[i]? = some d₀) :
    ((f.setDown a i d).inst a).down[i]? = some d := by
  rw [down_setDown, if_pos rfl, List.getElem?_set_self (List.getElem?_eq_some_iff.mp hd).1]

/-! ## 2. Writes as updates of one entry -/

theorem setMod_eq : f.setMod a m =
    { f with insts := f.insts.modify a fun x => { x with mod := m } } := by
  rw [List.modify_eq_set]
  rfl

theorem setUp_eq : f.setUp a j u =
    { f with insts := f.insts.modify a fun x => { x with up := x.up.set j u } } := by
  rw [List.modify_eq_set]
  rfl

theorem setDown_eq : f.setDown a i d =
    { f with insts := f.insts.modify a fun x => { x with down := x.down.set i d } } := by
  rw [List.modify_eq_set]
  rfl

/-- Two updates of entries commute, if they commute on one entry. -/
theorem modify_comm {α : Type} (g k : α → α) (h : ∀ x, g (k x) = k (g x)) (l : List α) :
    (l.modify a g).modify b k = (l.modify b k).modify a g := by
  by_cases hab : a = b
  · subst hab
    rw [List.modify_modify_eq, List.modify_modify_eq]
    exact congrArg (l.modify a) (funext fun x => (h x).symm)
  · exact List.modify_modify_ne g k l hab

theorem setMod_setUp_comm : (f.setUp b j u).setMod a m = (f.setMod a m).setUp b j u := by
  simp only [setMod_eq, setUp_eq]
  exact congrArg (fun l => { f with insts := l })
    (modify_comm b a (fun x => { x with up := x.up.set j u }) (fun x => { x with mod := m })
      (fun _ => rfl) f.insts)

theorem setMod_setDown_comm : (f.setDown b i d).setMod a m = (f.setMod a m).setDown b i d := by
  simp only [setMod_eq, setDown_eq]
  exact congrArg (fun l => { f with insts := l })
    (modify_comm b a (fun x => { x with down := x.down.set i d }) (fun x => { x with mod := m })
      (fun _ => rfl) f.insts)

/-- The later of two writes to one place counts. -/
theorem setUp_setUp : (f.setUp a j u).setUp a j u' = f.setUp a j u' := by
  simp only [setUp_eq, List.modify_modify_eq, Function.comp_def, List.set_set]

theorem setDown_setDown : (f.setDown a i d).setDown a i d' = f.setDown a i d' := by
  simp only [setDown_eq, List.modify_modify_eq, Function.comp_def, List.set_set]

/-- A write that leaves `g` of the instance alone leaves it alone for the whole list. -/
theorem map_setInst {α : Type} (g : Instance → α) {x : Instance} (hx : g x = g (f.inst a)) :
    (f.setInst a x).insts.map g = f.insts.map g := by
  by_cases ha : a < f.insts.length
  · refine Library.map_set_same g ?_ hx
    simp [inst, ha]
  · rw [setInst, List.set_eq_of_length_le (Nat.le_of_not_lt ha)]

theorem setInst_self : f.setInst a (f.inst a) = f := by
  by_cases ha : a < f.insts.length
  · simp [setInst, inst, ha]
  · simp [setInst, List.set_eq_of_length_le (Nat.le_of_not_lt ha)]

/-- A write of the module that is there. -/
theorem setMod_self (hm : (f.inst a).mod = m) : f.setMod a m = f := by
  subst hm
  exact setInst_self f a

theorem setUp_self (hu : (f.inst a).up[j]? = some u) : f.setUp a j u = f := by
  obtain ⟨hj, rfl⟩ := List.getElem?_eq_some_iff.mp hu
  rw [setUp, List.set_getElem_self]
  exact setInst_self f a

theorem setDown_self (hd : (f.inst a).down[i]? = some d) : f.setDown a i d = f := by
  obtain ⟨hi, rfl⟩ := List.getElem?_eq_some_iff.mp hd
  rw [setDown, List.set_getElem_self]
  exact setInst_self f a

end Gem5Sc.Fabric
