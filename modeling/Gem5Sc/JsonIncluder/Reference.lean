/-
  File:      Gem5Sc/JsonIncluder/Reference.lean
  Subject:   WHAT INCLUDES MEAN: the value `R(f)` of a file, and that a set of files without a
             cycle has exactly one.

  `resolve` says what a value written in a file stands for when it is known what the files it
  includes stand for (`R`): an object with an `include` is its other members together with those
  members of the included value whose key it does not itself have. `IsReference` closes the
  circle over all files.

  A `FileSet` has finitely many files, each with any number of names; the directory of an include
  is that of the name the file has been reached by.
-/
import Gem5Sc.JsonIncluder
import Gem5Sc.Library.KeyedList
import Mathlib.Data.Fintype.Card
import Mathlib.Data.String.Basic
import Mathlib.Logic.Relation

namespace Gem5Sc

namespace Json

/-- A value as `nlohmann::json` holds it: an object is a map in the order of its keys. -/
inductive Canonical : Json → Prop where
  | null : Canonical .null
  | bool (b : Bool) : Canonical (.bool b)
  | num (n : Int) : Canonical (.num n)
  | str (s : String) : Canonical (.str s)
  | arr {xs : List Json} (h : ∀ x ∈ xs, Canonical x) : Canonical (.arr xs)
  | obj {kvs : List (String × Json)} (ho : Library.Ascending kvs)
      (h : ∀ e ∈ kvs, Canonical e.2) : Canonical (.obj kvs)

/-- No object of the value, at any depth, has an `include` member. -/
inductive IncludeFree : Json → Prop where
  | null : IncludeFree .null
  | bool (b : Bool) : IncludeFree (.bool b)
  | num (n : Int) : IncludeFree (.num n)
  | str (s : String) : IncludeFree (.str s)
  | arr {xs : List Json} (h : ∀ x ∈ xs, IncludeFree x) : IncludeFree (.arr xs)
  | obj {kvs : List (String × Json)} (hk : ∀ e ∈ kvs, e.1 ≠ "include")
      (h : ∀ e ∈ kvs, IncludeFree e.2) : IncludeFree (.obj kvs)

/-- An object of the value, at any depth, has the member `include` with this file. -/
inductive Includes : Json → String → Prop where
  | here {kvs : List (String × Json)} {file : String}
      (h : kvs.lookup "include" = some (.str file)) : Includes (.obj kvs) file
  | member {kvs : List (String × Json)} {e : String × Json} {file : String} (he : e ∈ kvs)
      (h : Includes e.2 file) : Includes (.obj kvs) file
  | element {xs : List Json} {x : Json} {file : String} (hx : x ∈ xs)
      (h : Includes x file) : Includes (.arr xs) file

theorem IncludeFree.lookup_include {kvs : List (String × Json)} (h : (Json.obj kvs).IncludeFree) :
    kvs.lookup "include" = none := by
  cases h with
  | obj hk _ =>
      exact Option.isNone_iff_eq_none.mp (Library.lookup_isNone_iff.mpr hk)

theorem IncludeFree.not_includes {v : Json} (h : v.IncludeFree) (file : String) :
    ¬ v.Includes file := by
  induction h with
  | arr _ ih =>
      rintro ⟨⟩
      rename_i x hx h
      exact ih x hx h
  | obj hk h ih =>
      intro hi
      cases hi with
      | here hl =>
          rw [(IncludeFree.obj hk h).lookup_include] at hl
          cases hl
      | member he h => exact ih _ he h
  | _ => rintro ⟨⟩

end Json

namespace JsonIncluder

/-- What the reference gives each file name. -/
abbrev Meaning := String → Except ConfigError Json

/-- The members of `included` whose key an object with the members `kvs` does not itself have. -/
def missing (kvs : List (String × Json)) (included : Json) : List (String × Json) :=
  included.items.filter fun e => (kvs.lookup e.1).isNone

mutual

/-- A value written in the file `base`, with `R` for the files it includes. -/
def resolve (R : Meaning) (base : String) : Json → Except ConfigError Json
  | .obj kvs =>
      match kvs.lookup "include" with
      | none => do
          let own ← resolveOwn R base kvs
          return .obj own
      | some file => do
          let file ← file.asString
          let included ← R (dirOf base ++ file)
          let own ← resolveOwn R base kvs
          return .obj (Library.sortByKey (own ++ missing kvs included))
  | .arr xs => do
      let xs ← resolveAll R base xs
      return .arr xs
  | v => .ok v

/-- The members of an object other than `include`. -/
def resolveOwn (R : Meaning) (base : String) :
    List (String × Json) → Except ConfigError (List (String × Json))
  | [] => .ok []
  | (k, v) :: kvs =>
      if k = "include" then resolveOwn R base kvs
      else do
        let v ← resolve R base v
        let kvs ← resolveOwn R base kvs
        return (k, v) :: kvs

/-- The elements of an array. -/
def resolveAll (R : Meaning) (base : String) : List Json → Except ConfigError (List Json)
  | [] => .ok []
  | x :: xs => do
      let x ← resolve R base x
      let xs ← resolveAll R base xs
      return x :: xs

end

/-- What the file `name` stands for, with `R` for the files it includes. -/
def meaningOf (files : Files) (R : Meaning) (name : String) : Except ConfigError Json :=
  match files name with
  | none => .error .cannotOpen
  | some none => .error .parseError
  | some (some root) => resolve R name root

/-- `R` is the reference meaning of the files. -/
def IsReference (files : Files) (R : Meaning) : Prop := ∀ name, R name = meaningOf files R name

/-! ## 1. The reference, object by object -/

section Resolve

variable {R R' : Meaning} {base : String} {kvs : List (String × Json)}

/-- The members without `include`. -/
def others (kvs : List (String × Json)) : List (String × Json) :=
  kvs.filter fun e => e.1 ≠ "include"

theorem mem_others {e : String × Json} : e ∈ others kvs ↔ e ∈ kvs ∧ e.1 ≠ "include" := by
  simp [others]

theorem others_of_lookup_none (hi : kvs.lookup "include" = none) : others kvs = kvs :=
  List.filter_eq_self.mpr fun e he =>
    decide_eq_true (Library.lookup_isNone_iff.mp (Option.isNone_iff_eq_none.mpr hi) e he)

theorem resolveOwn_eq (kvs : List (String × Json)) :
    resolveOwn R base kvs = Library.mapValuesM (resolve R base) (others kvs) := by
  induction kvs with
  | nil => rfl
  | cons e kvs ih =>
      obtain ⟨k, v⟩ := e
      unfold resolveOwn
      by_cases hk : k = "include"
      · rw [if_pos hk, ih]
        unfold others
        rw [List.filter_cons_of_neg (by simpa using hk)]
      · have hcons : others ((k, v) :: kvs) = (k, v) :: others kvs :=
          List.filter_cons_of_pos (by simpa using hk)
        rw [if_neg hk, ih, hcons, Library.mapValuesM_cons]
        rfl

theorem resolveAll_eq (xs : List Json) : resolveAll R base xs = xs.mapM (resolve R base) := by
  induction xs with
  | nil => rfl
  | cons x xs ih =>
      unfold resolveAll
      rw [List.mapM_cons, ih]

theorem resolve_obj_none (h : kvs.lookup "include" = none) :
    resolve R base (.obj kvs) =
      Library.mapValuesM (resolve R base) (others kvs) >>= fun own => .ok (.obj own) := by
  rw [resolve, h, ← resolveOwn_eq]
  rfl

theorem resolve_obj_some {file : Json} (h : kvs.lookup "include" = some file) :
    resolve R base (.obj kvs) =
      file.asString >>= fun file => R (dirOf base ++ file) >>= fun included =>
        Library.mapValuesM (resolve R base) (others kvs) >>= fun own =>
          .ok (.obj (Library.sortByKey (own ++ missing kvs included))) := by
  rw [resolve, h, ← resolveOwn_eq]
  rfl

theorem resolve_arr (xs : List Json) :
    resolve R base (.arr xs) = xs.mapM (resolve R base) >>= fun xs => .ok (.arr xs) := by
  rw [resolve, resolveAll_eq]
  rfl

/-- Only the files a value includes matter to it. -/
theorem resolve_congr {v : Json} (hv : v.Canonical)
    (h : ∀ file, v.Includes file → R (dirOf base ++ file) = R' (dirOf base ++ file)) :
    resolve R base v = resolve R' base v := by
  induction hv with
  | null => rfl
  | bool b => rfl
  | num n => rfl
  | str s => rfl
  | arr _ ih =>
      rename_i xs
      rw [resolve_arr, resolve_arr, Library.mapM_congr fun x hx =>
        ih x hx fun file hf => h file (.element hx hf)]
  | obj _ _ ih =>
      rename_i kvs _ _
      have hown : Library.mapValuesM (resolve R base) (others kvs) =
          Library.mapValuesM (resolve R' base) (others kvs) :=
        Library.mapValuesM_congr fun e he => ih e (mem_others.mp he).1
          fun file hf => h file (.member (mem_others.mp he).1 hf)
      cases hi : kvs.lookup "include" with
      | none => rw [resolve_obj_none hi, resolve_obj_none hi, hown]
      | some file =>
          rw [resolve_obj_some hi, resolve_obj_some hi, hown]
          cases file with
          | str s =>
              show (R (dirOf base ++ s) >>= _) = (R' (dirOf base ++ s) >>= _)
              rw [h s (.here hi)]
          | _ => rfl

/-- What an object stands for is an object. -/
theorem resolve_obj_isObj {r : Json} (h : resolve R base (.obj kvs) = .ok r) :
    ∃ members, r = .obj members := by
  cases hi : kvs.lookup "include" with
  | none =>
      rw [resolve_obj_none hi] at h
      obtain ⟨own, -, h⟩ := Library.bind_eq_ok.mp h
      cases h
      exact ⟨_, rfl⟩
  | some file =>
      rw [resolve_obj_some hi] at h
      obtain ⟨_, -, h⟩ := Library.bind_eq_ok.mp h
      obtain ⟨_, -, h⟩ := Library.bind_eq_ok.mp h
      obtain ⟨_, -, h⟩ := Library.bind_eq_ok.mp h
      cases h
      exact ⟨_, rfl⟩

/-- **Own members win**: a member of an object stands for what it stands for by itself, whatever
    is included. -/
theorem own_member_wins (hkvs : Library.Ascending kvs) {members : List (String × Json)}
    (h : resolve R base (.obj kvs) = .ok (.obj members)) {k : String} {v : Json}
    (hk : k ≠ "include") (hv : kvs.lookup k = some v) :
    ∃ r, resolve R base v = .ok r ∧ members.lookup k = some r := by
  have hmem : (k, v) ∈ others kvs := mem_others.mpr ⟨Library.mem_of_lookup hv, hk⟩
  -- the own members, and a member of them with the key `k`
  have hown : ∀ {own}, Library.mapValuesM (resolve R base) (others kvs) = .ok own →
      ∃ r, resolve R base v = .ok r ∧ (k, r) ∈ own ∧ ∀ x ∈ own, x.1 = k → x.2 = r := by
    intro own hm
    obtain ⟨hkeys, -, hval⟩ := Library.mapValuesM_ok hm
    have hasc : Library.Ascending own := Library.Ascending.of_keys (hkvs.filter _) hkeys
    obtain ⟨x, hx, hxk, hr⟩ := hval (k, v) hmem
    obtain rfl : x.1 = k := hxk
    exact ⟨x.2, hr, hx, fun y hy hyk => by rw [hasc.eq_of_key hy hx hyk]⟩
  cases hi : kvs.lookup "include" with
  | none =>
      rw [resolve_obj_none hi] at h
      obtain ⟨own, hm, h⟩ := Library.bind_eq_ok.mp h
      cases h
      obtain ⟨r, hr, hrmem, honly⟩ := hown hm
      exact ⟨r, hr, Library.lookup_of_unique hrmem honly⟩
  | some file =>
      rw [resolve_obj_some hi] at h
      obtain ⟨s, -, h⟩ := Library.bind_eq_ok.mp h
      obtain ⟨included, -, h⟩ := Library.bind_eq_ok.mp h
      obtain ⟨own, hm, h⟩ := Library.bind_eq_ok.mp h
      cases h
      obtain ⟨r, hr, hrmem, honly⟩ := hown hm
      have hperm := Library.sortByKey_perm (own ++ missing kvs included)
      refine ⟨r, hr, Library.lookup_of_unique
        (hperm.symm.subset (List.mem_append_left _ hrmem)) fun x hx hxk => ?_⟩
      rcases List.mem_append.mp (hperm.subset hx) with hx | hx
      · exact honly x hx hxk
      · have hnone := Option.isNone_iff_eq_none.mp (List.mem_filter.mp hx).2
        rw [hxk, hv] at hnone
        cases hnone

end Resolve

/-! ## 2. Sets of files -/

/-- A set of files: what a name leads to, and what each file holds (`none` is no JSON). -/
structure FileSet (ι : Type) where
  find : String → Option ι
  content : ι → Option Json

namespace FileSet

variable {ι : Type} (S : FileSet ι)

def files : Files := fun name => (S.find name).map S.content

/-- File `i`, under one of its names, includes file `j`. -/
def Includes (i j : ι) : Prop :=
  ∃ name root file, S.find name = some i ∧ S.content i = some root ∧ root.Includes file ∧
    S.find (dirOf name ++ file) = some j

/-- The files hold values as the parser makes them, the include graph has no cycle, and what is
    included is an object. -/
structure WellFormed : Prop where
  canonical : ∀ i root, S.content i = some root → root.Canonical
  acyclic : ∀ i, ¬ Relation.TransGen S.Includes i i
  objects : ∀ i j root, S.Includes i j → S.content j = some root → ∃ kvs, root = .obj kvs

variable {S}

/-- Includes without a cycle end, since there are finitely many files. -/
theorem wellFounded_of_acyclic [Finite ι] (h : ∀ i, ¬ Relation.TransGen S.Includes i i) :
    WellFounded fun j i => S.Includes i j := by
  let above : ι → ι → Prop := fun j i => Relation.TransGen S.Includes i j
  have : IsTrans ι above := ⟨fun _ _ _ hab hbc => hbc.trans hab⟩
  have : Std.Irrefl above := ⟨h⟩
  exact Subrelation.wf (fun hij => .single hij) (Finite.wellFounded_of_trans_of_irrefl above)

theorem WellFormed.wellFounded [Finite ι] (h : S.WellFormed) :
    WellFounded fun j i => S.Includes i j := wellFounded_of_acyclic h.acyclic

theorem files_none {name : String} (h : S.find name = none) : S.files name = none := by
  rw [files, h]
  rfl

theorem files_some {name : String} {i : ι} (h : S.find name = some i) :
    S.files name = some (S.content i) := by
  rw [files, h]
  rfl

variable {R R' : Meaning}

theorem meaningOf_none {name : String} (h : S.find name = none) :
    meaningOf S.files R name = .error .cannotOpen := by
  rw [meaningOf, files_none h]

/-- Only the files a file includes matter to it. -/
theorem meaningOf_congr (hS : S.WellFormed) {name : String} {i : ι} (hi : S.find name = some i)
    (h : ∀ j, S.Includes i j → ∀ g, S.find g = some j → R g = R' g)
    (hnone : ∀ g, S.find g = none → R g = R' g) :
    meaningOf S.files R name = meaningOf S.files R' name := by
  rw [meaningOf, meaningOf, files_some hi]
  cases hc : S.content i with
  | none => rfl
  | some root =>
      refine resolve_congr (hS.canonical i root hc) fun file hf => ?_
      cases hg : S.find (dirOf name ++ file) with
      | none => exact hnone _ hg
      | some j => exact h j ⟨name, root, file, hi, hc, hf, hg⟩ _ hg

/-- There is one reference meaning at most. -/
theorem reference_unique [Finite ι] (hS : S.WellFormed) (hR : IsReference S.files R)
    (hR' : IsReference S.files R') : R = R' := by
  have hnone : ∀ g, S.find g = none → R g = R' g := by
    intro g hg
    rw [hR g, hR' g, meaningOf_none hg, meaningOf_none hg]
  have hsome : ∀ i name, S.find name = some i → R name = R' name := by
    intro i
    induction i using hS.wellFounded.induction with
    | _ i ih =>
        intro name hi
        rw [hR name, hR' name]
        exact meaningOf_congr hS hi (fun j hj g hg => ih j hj g hg) hnone
  funext name
  cases hf : S.find name with
  | none => exact hnone name hf
  | some i => exact hsome i name hf

/-- **There is a reference meaning**, file after file in the order of the includes. -/
theorem exists_reference [Finite ι] (hS : S.WellFormed) : ∃ R, IsReference S.files R := by
  classical
  -- the meaning of file `i` under each name, from that of the files it includes
  let lower (i : ι) (rec : ∀ j, S.Includes i j → Meaning) : Meaning := fun g =>
    match S.find g with
    | none => .error .cannotOpen
    | some j => if h : S.Includes i j then rec j h g else .error .cannotOpen
  let meaning : ι → Meaning :=
    hS.wellFounded.fix fun i rec name => meaningOf S.files (lower i rec) name
  have hfix : ∀ i, meaning i = fun name => meaningOf S.files (lower i fun j _ => meaning j) name :=
    fun i => hS.wellFounded.fix_eq _ i
  let R : Meaning := fun name =>
    match S.find name with
    | none => .error .cannotOpen
    | some i => meaning i name
  have hRsome : ∀ {name i}, S.find name = some i → R name = meaning i name := by
    intro name i hi
    show (match S.find name with | none => _ | some i => meaning i name) = _
    rw [hi]
  have hRnone : ∀ {name}, S.find name = none → R name = .error .cannotOpen := by
    intro name hn
    show (match S.find name with | none => _ | some i => meaning i name) = _
    rw [hn]
  refine ⟨R, fun name => ?_⟩
  cases hf : S.find name with
  | none => rw [hRnone hf, meaningOf_none hf]
  | some i =>
      rw [hRsome hf, hfix i]
      refine meaningOf_congr hS hf (fun j hj g hg => ?_) (fun g hg => ?_)
      · have hlower : lower i (fun j _ => meaning j) g = meaning j g := by
          simp only [lower, hg, dif_pos hj]
        rw [hlower, hRsome hg]
      · have hlower : lower i (fun j _ => meaning j) g = .error .cannotOpen := by
          simp only [lower, hg]
        rw [hlower, hRnone hg]

end FileSet

end JsonIncluder

end Gem5Sc
