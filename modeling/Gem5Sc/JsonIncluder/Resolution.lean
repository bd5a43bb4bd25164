/-
  File:      Gem5Sc/JsonIncluder/Resolution.lean
  Subject:   `loadAndInclude` COMPUTES THE REFERENCE MEANING.

  The program merges the members of an included file into the node and then processes all
  members once more, own and merged ones, with the path of the including file. That is right
  for three reasons:

  * `merge_spec` -- merging is own members without `include`, and the missing ones, in key order;
  * `processIncludes_includeFree` -- the second pass over a value without includes changes
    nothing, whatever the path;
  * `resolve_good` -- what an included file stands for is such a value.

  `processIncludes_eq_resolve` goes over the value written in one file, `loads` over the files in
  the order of their includes. Both say that enough fuel gives the result.
-/
import Gem5Sc.JsonIncluder.Reference
import Gem5Sc.Library.Fuel

namespace Gem5Sc

namespace JsonIncluder

open Filter
open Library (eventually_succ eventually_list)

/-! ## 1. Merging -/

theorem insertMember_eq (kvs : List (String × Json)) (k : String) (v : Json) :
    insertMember kvs k v = Library.insertKey kvs k v := rfl

/-- One included member: inserted, unless its key is there. -/
def mergeMember (kvs : List (String × Json)) (e : String × Json) : List (String × Json) :=
  if (kvs.lookup e.1).isSome then kvs else insertMember kvs e.1 e.2

theorem foldl_mergeMember {inc : List (String × Json)} (hinc : Library.Ascending inc)
    {kvs : List (String × Json)} (hkvs : Library.Ascending kvs) :
    Library.Ascending (inc.foldl mergeMember kvs) ∧
      (inc.foldl mergeMember kvs).Perm
        (kvs ++ inc.filter fun e => (kvs.lookup e.1).isNone) := by
  induction inc generalizing kvs with
  | nil => exact ⟨hkvs, by rw [List.filter_nil, List.append_nil]; exact List.Perm.refl _⟩
  | cons x inc ih =>
      obtain ⟨hx, hinc⟩ := List.pairwise_cons.mp hinc
      rw [List.foldl_cons]
      cases hl : kvs.lookup x.1 with
      | some v =>
          have hstay : mergeMember kvs x = kvs := by rw [mergeMember, hl]; rfl
          rw [hstay, List.filter_cons_of_neg (by simp [hl])]
          exact ih hinc hkvs
      | none =>
          have hnew : mergeMember kvs x = Library.insertKey kvs x.1 x.2 := by
            rw [mergeMember, hl]
            exact insertMember_eq kvs x.1 x.2
          have hkeys : ∀ e ∈ kvs, e.1 ≠ x.1 :=
            Library.lookup_isNone_iff.mp (Option.isNone_iff_eq_none.mpr hl)
          have hp := Library.insertKey_perm kvs x.1 x.2
          -- the other included members are missing as before
          have hfilter : (inc.filter fun e =>
              ((Library.insertKey kvs x.1 x.2).lookup e.1).isNone) =
              inc.filter fun e => (kvs.lookup e.1).isNone := by
            refine List.filter_congr fun e he => Bool.eq_iff_iff.mpr ?_
            rw [Library.lookup_isNone_iff, Library.lookup_isNone_iff]
            refine ⟨fun h y hy => h y (hp.symm.subset (List.mem_cons_of_mem _ hy)), ?_⟩
            intro h y hy
            rcases List.mem_cons.mp (hp.subset hy) with rfl | hy
            · exact ne_of_lt (hx e he)
            · exact h y hy
          obtain ⟨h1, h2⟩ := ih hinc (Library.ascending_insertKey hkvs hkeys x.2)
          rw [hnew, List.filter_cons_of_pos (by simp [hl])]
          refine ⟨h1, h2.trans ?_⟩
          rw [hfilter]
          exact (hp.append_right _).trans List.perm_middle.symm

/-- **Merging is the union in which own members win.** -/
theorem merge_spec {kvs inc : List (String × Json)} (hkvs : Library.Ascending kvs)
    (hinc : Library.Ascending inc) (hfree : ∀ e ∈ inc, e.1 ≠ "include") :
    Library.Ascending (merge kvs (.obj inc)) ∧
      (merge kvs (.obj inc)).Perm (others kvs ++ missing kvs (.obj inc)) := by
  obtain ⟨h1, h2⟩ := foldl_mergeMember hinc hkvs
  refine ⟨h1.filter _, (h2.filter _).trans (.of_eq ?_)⟩
  have hmissing : (inc.filter fun e => (kvs.lookup e.1).isNone).filter
      (fun e => e.1 ≠ "include") = inc.filter fun e => (kvs.lookup e.1).isNone :=
    List.filter_eq_self.mpr fun e he =>
      decide_eq_true (hfree e (List.mem_of_mem_filter he))
  rw [List.filter_append, hmissing]
  rfl

/-! ## 2. Values without includes -/

section Process

variable {files : Files} {base : String} {kvs : List (String × Json)}

theorem processIncludes_obj_none (n : Nat) (h : kvs.lookup "include" = none) :
    processIncludes files (n + 1) (.obj kvs) base =
      Library.mapValuesM (processIncludes files n · base) kvs >>= fun kvs => .ok (.obj kvs) := by
  rw [processIncludes, h]
  rfl

theorem processIncludes_obj_some (n : Nat) {file : Json} (h : kvs.lookup "include" = some file) :
    processIncludes files (n + 1) (.obj kvs) base =
      file.asString >>= fun file => loadAndInclude files n (dirOf base ++ file) >>=
        fun included => Library.mapValuesM (processIncludes files n · base) (merge kvs included) >>=
          fun kvs => .ok (.obj kvs) := by
  rw [processIncludes, h]
  cases file with
  | _ => rfl

theorem processIncludes_arr (n : Nat) (xs : List Json) :
    processIncludes files (n + 1) (.arr xs) base =
      xs.mapM (processIncludes files n · base) >>= fun xs => .ok (.arr xs) := by
  rw [processIncludes]
  rfl

/-- **The second pass changes nothing.** -/
theorem processIncludes_includeFree (files : Files) {v : Json} (hv : v.IncludeFree)
    (base : String) :
    ∀ᶠ n in atTop, processIncludes files n v base = .ok v := by
  induction hv with
  | null => exact eventually_succ (Eventually.of_forall fun _ => rfl)
  | bool b => exact eventually_succ (Eventually.of_forall fun _ => rfl)
  | num n => exact eventually_succ (Eventually.of_forall fun _ => rfl)
  | str s => exact eventually_succ (Eventually.of_forall fun _ => rfl)
  | arr _ ih =>
      refine eventually_succ ((eventually_list ih).mono fun n hn => ?_)
      rw [processIncludes_arr, Library.mapM_id hn]
      rfl
  | obj hk h ih =>
      refine eventually_succ ((eventually_list ih).mono fun n hn => ?_)
      rw [processIncludes_obj_none n (Json.IncludeFree.obj hk h).lookup_include,
        Library.mapValuesM_id hn]
      rfl

/-- **One pass over the merged members** is the own members, resolved, and the missing ones. -/
theorem mapValuesM_merge {f g : Json → Except ConfigError Json} {kvs inc : List (String × Json)}
    (hkvs : Library.Ascending kvs) (hinc : Library.Ascending inc)
    (hfree : ∀ e ∈ inc, e.1 ≠ "include") (hown : ∀ e ∈ others kvs, f e.2 = g e.2)
    (hid : ∀ e ∈ inc, f e.2 = .ok e.2) :
    Library.mapValuesM f (merge kvs (.obj inc)) =
      Library.mapValuesM g (others kvs) >>= fun own =>
        .ok (Library.sortByKey (own ++ missing kvs (.obj inc))) := by
  obtain ⟨hasc, hperm⟩ := merge_spec hkvs hinc hfree
  let p : String × Json → Bool := fun e => (kvs.lookup e.1).isSome
  have hpown : ∀ e ∈ others kvs, p e = true := by
    intro e he
    show (kvs.lookup e.1).isSome = true
    rw [hkvs.lookup_eq (mem_others.mp he).1]
    rfl
  have hpmissing : ∀ e ∈ missing kvs (.obj inc), p e = false := by
    intro e he
    have h := (List.mem_filter.mp he).2
    show (kvs.lookup e.1).isSome = false
    rw [Option.isNone_iff_eq_none.mp h]
    rfl
  -- the own members among the merged ones, and the others
  have hfilter : (merge kvs (.obj inc)).filter p = others kvs := by
    refine (hasc.filter p).eq_of_perm (hkvs.filter _) ((hperm.filter p).trans (.of_eq ?_))
    rw [List.filter_append, List.filter_eq_self.mpr hpown,
      List.filter_eq_nil_iff.mpr fun e he => by simp [hpmissing e he], List.append_nil]
  have hrest : ((merge kvs (.obj inc)).filter fun e => !p e).Perm (missing kvs (.obj inc)) := by
    refine (hperm.filter _).trans (.of_eq ?_)
    rw [List.filter_append, List.filter_eq_nil_iff.mpr fun e he => by simp [hpown e he],
      List.filter_eq_self.mpr fun e he => by simp [hpmissing e he], List.nil_append]
  have hstay : ∀ e ∈ merge kvs (.obj inc), p e = false → f e.2 = .ok e.2 := by
    intro e he hp
    rcases List.mem_append.mp (hperm.subset he) with h | h
    · rw [hpown e h] at hp
      cases hp
    · exact hid e (List.mem_of_mem_filter h)
  rw [← Library.mapValuesM_congr hown, ← hfilter]
  cases hr : Library.mapValuesM f ((merge kvs (.obj inc)).filter p) with
  | error x => exact Library.mapValuesM_filter_error hstay hr
  | ok own =>
      obtain ⟨l', hl', hp'⟩ := Library.mapValuesM_filter_ok hstay hr
      have hasc' : Library.Ascending l' := hasc.of_keys (Library.mapValuesM_ok hl').1
      rw [hl', hasc'.eq_sortByKey (hp'.trans (hrest.append_left own))]
      rfl

/-! ## 3. What included files stand for -/

/-- A value as the parser makes it, without includes. -/
structure Good (r : Json) : Prop where
  canonical : r.Canonical
  includeFree : r.IncludeFree

theorem Good.obj {kvs : List (String × Json)} (ho : Library.Ascending kvs)
    (h : ∀ e ∈ kvs, e.1 ≠ "include" ∧ Good e.2) : Good (.obj kvs) :=
  ⟨.obj ho fun e he => (h e he).2.canonical,
    .obj (fun e he => (h e he).1) fun e he => (h e he).2.includeFree⟩

theorem Good.members {kvs : List (String × Json)} (h : Good (.obj kvs)) :
    Library.Ascending kvs ∧ ∀ e ∈ kvs, e.1 ≠ "include" ∧ Good e.2 := by
  obtain ⟨hc, hf⟩ := h
  cases hc with
  | obj ho hc =>
      cases hf with
      | obj hk hf => exact ⟨ho, fun e he => ⟨hk e he, hc e he, hf e he⟩⟩

variable {R : Meaning}

/-- The members an object has itself: as they stand for values without includes, so do they. -/
theorem own_good {own : List (String × Json)} (ho : Library.Ascending kvs)
    (hm : Library.mapValuesM (resolve R base) (others kvs) = .ok own)
    (h : ∀ e ∈ kvs, ∀ r, resolve R base e.2 = .ok r → Good r) :
    Library.Ascending own ∧
      ∀ x ∈ own, (x.1 ≠ "include" ∧ Good x.2) ∧ (kvs.lookup x.1).isSome = true := by
  obtain ⟨hkeys, hval, -⟩ := Library.mapValuesM_ok hm
  refine ⟨Library.Ascending.of_keys (ho.filter _) hkeys, fun x hx => ?_⟩
  obtain ⟨e, he, hex, hr⟩ := hval x hx
  obtain ⟨hmem, hne⟩ := mem_others.mp he
  refine ⟨⟨hex ▸ hne, h e hmem x.2 hr⟩, ?_⟩
  rw [← hex, ho.lookup_eq hmem]
  rfl

/-- Own and missing members have different keys, so together they make an object. -/
theorem Good.union {own inc : List (String × Json)} (hasc : Library.Ascending own)
    (hown : ∀ x ∈ own, (x.1 ≠ "include" ∧ Good x.2) ∧ (kvs.lookup x.1).isSome = true)
    (h : Good (.obj inc)) : Good (.obj (Library.sortByKey (own ++ missing kvs (.obj inc)))) := by
  obtain ⟨hascInc, hinc⟩ := h.members
  have hmissing : ∀ x ∈ missing kvs (.obj inc),
      (x.1 ≠ "include" ∧ Good x.2) ∧ kvs.lookup x.1 = none := fun x hx =>
    ⟨hinc x (List.mem_of_mem_filter hx),
      Option.isNone_iff_eq_none.mp (List.mem_filter.mp hx).2⟩
  refine Good.obj (Library.ascending_sortByKey ?_) fun x hx => ?_
  · refine List.pairwise_append.mpr ⟨hasc.imp fun hab => ne_of_lt hab,
      (hascInc.filter _).imp fun hab => ne_of_lt hab, fun a ha b hb hab => ?_⟩
    have h1 := (hown a ha).2
    rw [hab, (hmissing b hb).2] at h1
    cases h1
  · rcases List.mem_append.mp ((Library.sortByKey_perm _).subset hx) with hx | hx
    · exact (hown x hx).1
    · exact (hmissing x hx).1

/-- **What `R` gives is as the parser makes it, and without includes.** -/
theorem resolve_good {v : Json} (hv : v.Canonical)
    (hR : ∀ file, v.Includes file → ∀ r, R (dirOf base ++ file) = .ok r →
      Good r ∧ ∃ inc, r = .obj inc) {r : Json} (h : resolve R base v = .ok r) : Good r := by
  induction hv generalizing r with
  | null =>
      cases h
      exact ⟨.null, .null⟩
  | bool b =>
      cases h
      exact ⟨.bool b, .bool b⟩
  | num n =>
      cases h
      exact ⟨.num n, .num n⟩
  | str s =>
      cases h
      exact ⟨.str s, .str s⟩
  | arr hc ih =>
      rw [resolve_arr] at h
      obtain ⟨ys, hys, h⟩ := Library.bind_eq_ok.mp h
      cases h
      have hgood : ∀ y ∈ ys, Good y := by
        intro y hy
        obtain ⟨x, hx, hxy⟩ := Library.mem_of_mapM_ok hys hy
        exact ih x hx (fun file hf => hR file (.element hx hf)) hxy
      exact ⟨.arr fun y hy => (hgood y hy).canonical, .arr fun y hy => (hgood y hy).includeFree⟩
  | obj ho hc ih =>
      rename_i kvs
      have hvalues : ∀ e ∈ kvs, ∀ r, resolve R base e.2 = .ok r → Good r := fun e he _ hr =>
        ih e he (fun file hf => hR file (.member he hf)) hr
      cases hi : kvs.lookup "include" with
      | none =>
          rw [resolve_obj_none hi] at h
          obtain ⟨own, hm, h⟩ := Library.bind_eq_ok.mp h
          cases h
          obtain ⟨hasc, hown⟩ := own_good ho hm hvalues
          exact Good.obj hasc fun x hx => (hown x hx).1
      | some file =>
          rw [resolve_obj_some hi] at h
          obtain ⟨s, hs, h⟩ := Library.bind_eq_ok.mp h
          obtain ⟨included, hr, h⟩ := Library.bind_eq_ok.mp h
          obtain ⟨own, hm, h⟩ := Library.bind_eq_ok.mp h
          cases h
          have hfile : file = .str s := by
            cases file <;> cases hs
            rfl
          subst hfile
          obtain ⟨hgood, inc, rfl⟩ := hR s (.here hi) included hr
          obtain ⟨hasc, hown⟩ := own_good ho hm hvalues
          exact Good.union hasc hown hgood

/-! ## 4. One file, and all files -/

/-- What is known of an included file: `loadAndInclude` gives what `R` says, and this is an object
    without includes. -/
structure Loads (files : Files) (R : Meaning) (name : String) : Prop where
  loads : ∀ᶠ n in atTop, loadAndInclude files n name = R name
  good : ∀ r, R name = .ok r → Good r

/-- An object with an `include`, once the file and the other members are resolved. -/
theorem processIncludes_include {file : String} (ho : Library.Ascending kvs)
    (hi : kvs.lookup "include" = some (.str file)) (hload : Loads files R (dirOf base ++ file))
    (hobj : ∀ r, R (dirOf base ++ file) = .ok r → ∃ inc, r = .obj inc)
    (hall : ∀ᶠ n in atTop, ∀ e ∈ kvs, processIncludes files n e.2 base = resolve R base e.2) :
    ∀ᶠ n in atTop, processIncludes files (n + 1) (.obj kvs) base = resolve R base (.obj kvs) := by
  cases hr : R (dirOf base ++ file) with
  | error x =>
      refine hload.loads.mono fun n hn => ?_
      rw [processIncludes_obj_some n hi, resolve_obj_some hi]
      show (loadAndInclude files n (dirOf base ++ file) >>= _) = (R (dirOf base ++ file) >>= _)
      rw [hn, hr]
      rfl
  | ok r =>
      obtain ⟨inc, rfl⟩ := hobj r hr
      obtain ⟨hasc, hinc⟩ := (hload.good _ hr).members
      have hpass := eventually_list fun e he =>
        processIncludes_includeFree files (hinc e he).2.includeFree base
      refine (hload.loads.and (hall.and hpass)).mono ?_
      intro n ⟨hn, hn1, hn2⟩
      rw [processIncludes_obj_some n hi, resolve_obj_some hi]
      show (loadAndInclude files n (dirOf base ++ file) >>= _) = (R (dirOf base ++ file) >>= _)
      rw [hn, hr]
      show (Library.mapValuesM _ (merge kvs (.obj inc)) >>= _) =
        (Library.mapValuesM _ (others kvs) >>= _)
      rw [mapValuesM_merge ho hasc (fun e he => (hinc e he).1)
        (fun e he => hn1 e (mem_others.mp he).1) hn2, bind_assoc]
      rfl

/-- **The value written in a file**: when the files it includes are loaded as `R` says, it becomes
    what `resolve` says. -/
theorem processIncludes_eq_resolve {v : Json} (hv : v.Canonical)
    (hR : ∀ file, v.Includes file → Loads files R (dirOf base ++ file) ∧
      ∀ r, R (dirOf base ++ file) = .ok r → ∃ inc, r = .obj inc) :
    ∀ᶠ n in atTop, processIncludes files n v base = resolve R base v := by
  induction hv with
  | null => exact eventually_succ (Eventually.of_forall fun _ => rfl)
  | bool b => exact eventually_succ (Eventually.of_forall fun _ => rfl)
  | num n => exact eventually_succ (Eventually.of_forall fun _ => rfl)
  | str s => exact eventually_succ (Eventually.of_forall fun _ => rfl)
  | arr hc ih =>
      have hall := eventually_list fun x hx => ih x hx fun file hf => hR file (.element hx hf)
      refine eventually_succ (hall.mono fun n hn => ?_)
      rw [processIncludes_arr, resolve_arr, Library.mapM_congr hn]
  | obj ho hc ih =>
      rename_i kvs
      have hall := eventually_list fun e he => ih e he fun file hf => hR file (.member he hf)
      cases hi : kvs.lookup "include" with
      | none =>
          refine eventually_succ (hall.mono fun n hn => ?_)
          rw [processIncludes_obj_none n hi, resolve_obj_none hi, others_of_lookup_none hi,
            Library.mapValuesM_congr hn]
      | some file =>
          cases file with
          | str s =>
              obtain ⟨hload, hobj⟩ := hR s (.here hi)
              exact eventually_succ (processIncludes_include ho hi hload hobj hall)
          | _ =>
              refine eventually_succ (Eventually.of_forall fun n => ?_)
              rw [processIncludes_obj_some n hi, resolve_obj_some hi]
              rfl

end Process

namespace FileSet

section OneFile

variable {ι : Type} {S : FileSet ι} {R : Meaning}

/-- What a file includes stands for an object. -/
theorem included_isObj (hS : S.WellFormed) (hR : IsReference S.files R) {name file : String} {i : ι}
    {root : Json} (hi : S.find name = some i) (hc : S.content i = some root)
    (hf : root.Includes file) {r : Json} (hr : R (dirOf name ++ file) = .ok r) :
    ∃ inc, r = .obj inc := by
  cases hj : S.find (dirOf name ++ file) with
  | none =>
      rw [hR, meaningOf_none hj] at hr
      cases hr
  | some j =>
      rw [hR, meaningOf, files_some hj] at hr
      cases hcj : S.content j with
      | none =>
          rw [hcj] at hr
          cases hr
      | some rootj =>
          rw [hcj] at hr
          obtain ⟨kvs, rfl⟩ := hS.objects i j rootj ⟨name, root, file, hi, hc, hf, hj⟩ hcj
          exact resolve_obj_isObj hr

theorem loads_none (hR : IsReference S.files R) {name : String} (hn : S.find name = none) :
    Loads S.files R name := by
  have e : R name = .error .cannotOpen := (hR name).trans (meaningOf_none hn)
  refine ⟨eventually_succ (Eventually.of_forall fun n => ?_), fun r hr => ?_⟩
  · rw [loadAndInclude, files_none hn, e]
  · rw [e] at hr
    cases hr

/-- One file, once the files it includes are loaded. -/
theorem loads_some (hS : S.WellFormed) (hR : IsReference S.files R) {name : String} {i : ι}
    (hi : S.find name = some i)
    (h : ∀ j, S.Includes i j → ∀ g, S.find g = some j → Loads S.files R g) :
    Loads S.files R name := by
  have e : R name = meaningOf S.files R name := hR name
  rw [meaningOf, files_some hi] at e
  cases hc : S.content i with
  | none =>
      rw [hc] at e
      refine ⟨eventually_succ (Eventually.of_forall fun n => ?_), fun r hr => ?_⟩
      · rw [loadAndInclude, files_some hi, hc, e]
      · rw [e] at hr
        cases hr
  | some root =>
      rw [hc] at e
      have hcanon := hS.canonical i root hc
      have hloads : ∀ file, root.Includes file → Loads S.files R (dirOf name ++ file) := by
        intro file hf
        cases hj : S.find (dirOf name ++ file) with
        | none => exact loads_none hR hj
        | some j => exact h j ⟨name, root, file, hi, hc, hf, hj⟩ _ hj
      refine ⟨eventually_succ ?_, fun r hr => ?_⟩
      · refine (processIncludes_eq_resolve hcanon fun file hf =>
          ⟨hloads file hf, fun r => included_isObj hS hR hi hc hf⟩).mono fun n hn => ?_
        rw [loadAndInclude, files_some hi, hc, e]
        exact hn
      · rw [e] at hr
        exact resolve_good hcanon (fun file hf r hr =>
          ⟨(hloads file hf).good r hr, included_isObj hS hR hi hc hf hr⟩) hr

end OneFile

variable {ι : Type} [Finite ι] {S : FileSet ι} {R : Meaning}

/-- **All files**, in the order of their includes. -/
theorem loads (hS : S.WellFormed) (hR : IsReference S.files R) (name : String) :
    Loads S.files R name := by
  have hsome : ∀ i g, S.find g = some i → Loads S.files R g := by
    intro i
    induction i using hS.wellFounded.induction with
    | _ i ih => exact fun g hg => loads_some hS hR hg ih
  cases hf : S.find name with
  | none => exact loads_none hR hf
  | some i => exact hsome i name hf

/-- **INCLUDE RESOLUTION IS ITS REFERENCE MEANING.** For every finite set of files whose include
    graph has no cycle and whose included roots are objects there is one reference meaning `R`,
    and `loadAndInclude` of every name is `R` of it, errors included. What it returns has no
    `include` at any depth and a further pass changes nothing in it; and in every object, own
    members win. -/
theorem loadAndInclude_reference (hS : S.WellFormed) :
    (∃! R, IsReference S.files R) ∧
    ∀ R, IsReference S.files R →
      (∀ name, (∃ n, ∀ m, n ≤ m → loadAndInclude S.files m name = R name) ∧
        ∀ v, R name = .ok v → v.IncludeFree ∧
          ∀ base, ∃ n, ∀ m, n ≤ m → processIncludes S.files m v base = .ok v) ∧
      ∀ base kvs members, Library.Ascending kvs →
        resolve R base (.obj kvs) = .ok (.obj members) → ∀ k v, k ≠ "include" →
          kvs.lookup k = some v → ∃ r, resolve R base v = .ok r ∧ members.lookup k = some r := by
  obtain ⟨R₀, hR₀⟩ := exists_reference hS
  refine ⟨⟨R₀, hR₀, fun R hR => reference_unique hS hR hR₀⟩, fun R hR => ⟨fun name => ?_, ?_⟩⟩
  · have h := loads hS hR name
    refine ⟨eventually_atTop.mp h.loads, fun v hv => ?_⟩
    have hfree := (h.good v hv).includeFree
    exact ⟨hfree, fun base => eventually_atTop.mp (processIncludes_includeFree S.files hfree base)⟩
  · intro base kvs members hkvs h k v hk hv
    exact own_member_wins hkvs h hk hv

/-! ## 5. Two files -/

/-- A file and the file it includes, in one directory. -/
def baseAndCommon : FileSet Bool where
  find name :=
    if name = "tmp/configs/base.json" then some false
    else if name = "tmp/configs/common.json" then some true else none
  content
    | false => some (.obj [("extra", .str "value"), ("include", .str "common.json")])
    | true => some (.obj [("extra", .null), ("modules", .arr [])])

example : loadAndInclude baseAndCommon.files 8 "tmp/configs/base.json" =
    .ok (.obj [("extra", .str "value"), ("modules", .arr [])]) := by
  rfl

theorem baseAndCommon_common {root : Json} (h : baseAndCommon.content true = some root) :
    root.Canonical ∧ root.IncludeFree := by
  cases h
  constructor
  · refine .obj (by unfold Library.Ascending; decide) fun e he => ?_
    rcases List.mem_cons.mp he with rfl | he
    · exact .null
    · rw [List.mem_singleton.mp he]
      exact .arr fun _ h => absurd h List.not_mem_nil
  · refine .obj (by decide) fun e he => ?_
    rcases List.mem_cons.mp he with rfl | he
    · exact .null
    · rw [List.mem_singleton.mp he]
      exact .arr fun _ h => absurd h List.not_mem_nil

/-- The one include there is. -/
theorem baseAndCommon_includes {i j : Bool} (h : baseAndCommon.Includes i j) :
    i = false ∧ j = true := by
  obtain ⟨name, root, file, hi, hc, hf, hj⟩ := h
  cases i with
  | true => exact absurd hf ((baseAndCommon_common hc).2.not_includes file)
  | false =>
      have hname : name = "tmp/configs/base.json" := by
        by_contra hne
        simp [baseAndCommon, hne] at hi
      subst hname
      cases hc
      have hfile : file = "common.json" := by
        cases hf with
        | here h =>
            cases h
            rfl
        | member he h =>
            -- the members are strings
            rcases List.mem_cons.mp he with rfl | he
            · cases h
            · rw [List.mem_singleton.mp he] at h
              cases h
      subst hfile
      have hdir : baseAndCommon.find (dirOf "tmp/configs/base.json" ++ "common.json") = some true :=
        rfl
      rw [hdir] at hj
      cases hj
      exact ⟨rfl, rfl⟩

theorem baseAndCommon_wellFormed : baseAndCommon.WellFormed where
  canonical i root h := by
    cases i with
    | true => exact (baseAndCommon_common h).1
    | false =>
        cases h
        refine .obj (by unfold Library.Ascending; decide) fun e he => ?_
        rcases List.mem_cons.mp he with rfl | he
        · exact .str _
        · rw [List.mem_singleton.mp he]
          exact .str _
  acyclic i h := by
    obtain ⟨j, hij, -⟩ := Relation.TransGen.head'_iff.mp h
    obtain ⟨k, -, hki⟩ := Relation.TransGen.tail'_iff.mp h
    have h1 := (baseAndCommon_includes hij).1
    rw [(baseAndCommon_includes hki).2] at h1
    cases h1
  objects i j root hij h := by
    rw [(baseAndCommon_includes hij).2] at h
    cases h
    exact ⟨_, rfl⟩

theorem loadAndInclude_reference_baseAndCommon :
    (∃! R, IsReference baseAndCommon.files R) ∧
    ∀ R, IsReference baseAndCommon.files R →
      (∀ name, (∃ n, ∀ m, n ≤ m → loadAndInclude baseAndCommon.files m name = R name) ∧
        ∀ v, R name = .ok v → v.IncludeFree ∧
          ∀ base, ∃ n, ∀ m, n ≤ m → processIncludes baseAndCommon.files m v base = .ok v) ∧
      ∀ base kvs members, Library.Ascending kvs →
        resolve R base (.obj kvs) = .ok (.obj members) → ∀ k v, k ≠ "include" →
          kvs.lookup k = some v → ∃ r, resolve R base v = .ok r ∧ members.lookup k = some r :=
  loadAndInclude_reference baseAndCommon_wellFormed

end FileSet

end JsonIncluder

end Gem5Sc
