/-
  File:      Gem5Sc/JsonIncluder/Endless.lean
  Subject:   WHEN INCLUDE LOADING ENDS, for any files and any include graph.

  Nothing remembers which files are being loaded, so a file that includes itself is loaded again
  and again. Whether an include is reached at all depends on the ones before it: an exception of
  an earlier include ends the loading.

  `Comes files v base name` says that the processing of `v` comes to load `name`: all that stands
  before it gives a value (`Sound`). The loading ends exactly when there is no infinite chain of
  files each of which comes to load the next (`ends_iff`). A file on such a chain runs out of every
  fuel (`load_of_chain`); without one, the loading is a recursion along `Comes` (`ends_of_acc`).
  In a finite set of files a chain means a cycle (`FileSet.ends_of_acyclic`).
-/
import Gem5Sc.JsonIncluder.Resolution
import Gem5Sc.Library.Woven
import Mathlib.Order.WellFounded

namespace Gem5Sc

/-- Induction over the elements and the members. -/
theorem Json.induct {P : Json → Prop} (null : P .null) (bool : ∀ b, P (.bool b))
    (num : ∀ n, P (.num n)) (str : ∀ s, P (.str s)) (arr : ∀ xs, (∀ x ∈ xs, P x) → P (.arr xs))
    (obj : ∀ kvs, (∀ e ∈ kvs, P e.2) → P (.obj kvs)) (v : Json) : P v :=
  @Json.rec P (fun xs => ∀ x ∈ xs, P x) (fun kvs => ∀ e ∈ kvs, P e.2) (fun e => P e.2)
    null bool num str arr obj (fun _ h => absurd h List.not_mem_nil)
    (fun _ _ hx hxs => List.forall_mem_cons.mpr ⟨hx, hxs⟩) (fun _ h => absurd h List.not_mem_nil)
    (fun _ _ he hkvs => List.forall_mem_cons.mpr ⟨he, hkvs⟩) (fun _ _ hv => hv) v

namespace JsonIncluder

/-! ## 1. What comes to be loaded -/

/-- The value can be processed: every include names a file that can be. -/
inductive Sound (files : Files) : Json → String → Prop where
  | null (base) : Sound files .null base
  | bool (b base) : Sound files (.bool b) base
  | num (n base) : Sound files (.num n) base
  | str (s base) : Sound files (.str s) base
  | arr {xs base} (h : ∀ x ∈ xs, Sound files x base) : Sound files (.arr xs) base
  | plain {kvs base} (hi : kvs.lookup "include" = none) (h : ∀ e ∈ kvs, Sound files e.2 base) :
      Sound files (.obj kvs) base
  | incl {kvs base file root} (hi : kvs.lookup "include" = some (.str file))
      (hf : files (dirOf base ++ file) = some (some root))
      (hr : Sound files root (dirOf base ++ file)) (h : ∀ e ∈ others kvs, Sound files e.2 base) :
      Sound files (.obj kvs) base

/-- The file can be loaded. -/
def Loadable (files : Files) (name : String) : Prop :=
  ∃ root, files name = some (some root) ∧ Sound files root name

/-- The processing of a value in the file `base` comes to load the file `name`. -/
inductive Comes (files : Files) (base name : String) : Json → Prop where
  | here {kvs file} (hi : kvs.lookup "include" = some (.str file))
      (hn : dirOf base ++ file = name) : Comes files base name (.obj kvs)
  | element {l x r} (hl : ∀ y ∈ l, Sound files y base) (hx : Comes files base name x) :
      Comes files base name (.arr (l ++ x :: r))
  | member {kvs l e r}
      (hi : ∀ v, kvs.lookup "include" = some v →
        ∃ file, v = .str file ∧ Loadable files (dirOf base ++ file))
      (hs : others kvs = l ++ e :: r) (hl : ∀ y ∈ l, Sound files y.2 base)
      (he : Comes files base name e.2) : Comes files base name (.obj kvs)

/-- The loading of one file comes to load the other. -/
def Next (files : Files) (name name' : String) : Prop :=
  ∃ root, files name = some (some root) ∧ Comes files name name' root

/-- Infinitely many files, each of which comes to load the next. -/
def Chain (files : Files) (start : String) : Prop :=
  ∃ chain : Nat → String, chain 0 = start ∧ ∀ k, Next files (chain k) (chain (k + 1))

variable {files : Files} {base name : String} {kvs : List (String × Json)} {v r : Json} {n : Nat}

/-! ## 2. What is merged into an object -/

theorem woven_insertMember {Q : String × Json → Prop} {l : List (String × Json)} {k : String}
    (hq : Q (k, v)) (h : Library.Woven Q l kvs) : Library.Woven Q l (insertMember kvs k v) := by
  have hcut : kvs = kvs.takeWhile (fun e => e.1 < k) ++ kvs.dropWhile (fun e => e.1 < k) :=
    List.takeWhile_append_dropWhile.symm
  rw [hcut] at h
  exact h.insert hq

/-- **Merging weaves included members into the own ones.** -/
theorem woven_merge (kvs : List (String × Json)) (included : Json) :
    Library.Woven (· ∈ included.items) (others kvs) (merge kvs included) := by
  have hfold : ∀ items : List (String × Json), (∀ e ∈ items, e ∈ included.items) → ∀ m,
      Library.Woven (· ∈ included.items) kvs m →
      Library.Woven (· ∈ included.items) kvs (items.foldl mergeMember m) := by
    intro items
    induction items with
    | nil => exact fun _ m hm => hm
    | cons e items ih =>
        intro he m hm
        obtain ⟨he, hitems⟩ := List.forall_mem_cons.mp he
        refine ih hitems _ ?_
        unfold mergeMember
        split
        · exact hm
        · exact woven_insertMember he hm
  exact (hfold included.items (fun _ he => he) kvs (.refl kvs)).filter _

theorem includeFree_items {included : Json} (h : included.IncludeFree) :
    ∀ e ∈ included.items, e.2.IncludeFree := by
  cases h with
  | null => exact fun e he => absurd he List.not_mem_nil
  | bool b =>
      intro e he
      rw [List.mem_singleton.mp he]
      exact .bool b
  | num n =>
      intro e he
      rw [List.mem_singleton.mp he]
      exact .num n
  | str s =>
      intro e he
      rw [List.mem_singleton.mp he]
      exact .str s
  | arr h =>
      intro e he
      obtain ⟨i, hi, rfl⟩ := List.mem_mapIdx.mp he
      exact h _ (List.getElem_mem hi)
  | obj _ h => exact h

/-- What is processed has no `include` left. -/
theorem includeFree_of_ok (h : processIncludes files n v base = .ok r) : r.IncludeFree := by
  induction n generalizing v r with
  | zero =>
      rw [processIncludes] at h
      cases h
  | succ n ih =>
      have hmembers : ∀ {kvs own}, (∀ e ∈ kvs, e.1 ≠ "include") →
          Library.mapValuesM (processIncludes files n · base) kvs = .ok own →
          (Json.obj own).IncludeFree := by
        intro kvs own hk hm
        obtain ⟨-, hval, -⟩ := Library.mapValuesM_ok hm
        refine .obj (fun x hx => ?_) fun x hx => ?_
        · obtain ⟨e, he, hex, -⟩ := hval x hx
          exact hex ▸ hk e he
        · obtain ⟨e, -, -, hr⟩ := hval x hx
          exact ih hr
      cases v with
      | obj kvs =>
          cases hi : kvs.lookup "include" with
          | none =>
              rw [processIncludes_obj_none n hi] at h
              obtain ⟨own, hm, h⟩ := Library.bind_eq_ok.mp h
              cases h
              exact hmembers (Library.lookup_isNone_iff.mp (Option.isNone_iff_eq_none.mpr hi)) hm
          | some file =>
              rw [processIncludes_obj_some n hi] at h
              obtain ⟨_, -, h⟩ := Library.bind_eq_ok.mp h
              obtain ⟨_, -, h⟩ := Library.bind_eq_ok.mp h
              obtain ⟨own, hm, h⟩ := Library.bind_eq_ok.mp h
              cases h
              exact hmembers (fun e he => by simpa using (List.mem_filter.mp he).2) hm
      | arr xs =>
          rw [processIncludes_arr] at h
          obtain ⟨ys, hys, h⟩ := Library.bind_eq_ok.mp h
          cases h
          refine .arr fun y hy => ?_
          obtain ⟨x, -, hxy⟩ := Library.mem_of_mapM_ok hys hy
          exact ih hxy
      | null =>
          cases h
          exact .null
      | bool b =>
          cases h
          exact .bool b
      | num m =>
          cases h
          exact .num m
      | str s =>
          cases h
          exact .str s

theorem loadAndInclude_succ {root : Json} (hf : files name = some (some root)) (n : Nat) :
    loadAndInclude files (n + 1) name = processIncludes files n root name := by
  rw [loadAndInclude, hf]

/-- What has been loaded, and from what. -/
theorem exists_of_loaded (h : loadAndInclude files n name = .ok r) :
    ∃ m root, n = m + 1 ∧ files name = some (some root) ∧
      processIncludes files m root name = .ok r := by
  cases n with
  | zero =>
      rw [loadAndInclude] at h
      cases h
  | succ m =>
      rw [loadAndInclude] at h
      cases hf : files name with
      | none =>
          rw [hf] at h
          cases h
      | some o =>
          rw [hf] at h
          cases o with
          | none => cases h
          | some root => exact ⟨m, root, rfl, rfl, h⟩

/-! ## 3. Sound values -/

theorem throws_mapValuesM {p : ConfigError → Prop} {f : Json → Except ConfigError Json}
    (h : ∀ e ∈ kvs, Library.Throws p (f e.2)) : Library.Throws p (Library.mapValuesM f kvs) :=
  Library.Throws.mapM fun e he => (h e he).bind fun _ => .ok _

/-- A value without includes is processed, or the fuel runs out. -/
theorem throws_includeFree (hv : v.IncludeFree) (n : Nat) (base : String) :
    Library.Throws (· = .outOfFuel) (processIncludes files n v base) := by
  induction n generalizing v with
  | zero =>
      rw [processIncludes]
      exact .error rfl
  | succ n ih =>
      cases hv with
      | arr h =>
          rw [processIncludes_arr]
          exact (Library.Throws.mapM fun x hx => ih (h x hx)).bind fun _ => .ok _
      | obj hk h =>
          rw [processIncludes_obj_none n (Json.IncludeFree.obj hk h).lookup_include]
          exact (throws_mapValuesM fun e he => ih (h e he)).bind fun _ => .ok _
      | null | bool b | num m | str s => exact .ok _

theorem processIncludes_obj_str (n : Nat) {file : String}
    (h : kvs.lookup "include" = some (.str file)) :
    processIncludes files (n + 1) (.obj kvs) base =
      loadAndInclude files n (dirOf base ++ file) >>= fun included =>
        Library.mapValuesM (processIncludes files n · base) (merge kvs included) >>= fun kvs =>
          .ok (.obj kvs) :=
  processIncludes_obj_some n h

/-- The members merged into an object, once the own ones are known. -/
theorem throws_merge {included : Json} (hload : loadAndInclude files n name = .ok included)
    (hown : ∀ e ∈ others kvs, Library.Throws (· = .outOfFuel) (processIncludes files n e.2 base)) :
    Library.Throws (· = .outOfFuel)
      (Library.mapValuesM (processIncludes files n · base) (merge kvs included)) := by
  obtain ⟨m, root, -, -, hr⟩ := exists_of_loaded hload
  refine throws_mapValuesM fun e he => ?_
  rcases (woven_merge kvs included).mem he with he | he
  · exact hown e he
  · exact throws_includeFree (includeFree_items (includeFree_of_ok hr) e he) n base

/-- **A sound value is processed, or the fuel runs out.** -/
theorem Sound.throws (hv : Sound files v base) (n : Nat) :
    Library.Throws (· = .outOfFuel) (processIncludes files n v base) := by
  induction n using Nat.strong_induction_on generalizing v base with
  | _ n ih =>
      cases n with
      | zero =>
          rw [processIncludes]
          exact .error rfl
      | succ n =>
          have hn := Nat.lt_succ_self n
          cases hv with
          | arr h =>
              rw [processIncludes_arr]
              exact (Library.Throws.mapM fun x hx => ih n hn (h x hx)).bind fun _ => .ok _
          | plain hi h =>
              rw [processIncludes_obj_none n hi]
              exact (throws_mapValuesM fun e he => ih n hn (h e he)).bind fun _ => .ok _
          | @incl kvs _ file root hi hf hr h =>
              rw [processIncludes_obj_str n hi]
              intro e he
              rcases Library.bind_eq_error.mp he with he | ⟨included, hload, he⟩
              · cases n with
                | zero =>
                    rw [loadAndInclude] at he
                    cases he
                    rfl
                | succ m =>
                    rw [loadAndInclude_succ hf] at he
                    exact ih m (Nat.lt_succ_of_lt (Nat.lt_succ_self m)) hr e he
              · exact ((throws_merge hload fun e he => ih n hn (h e he)).bind fun _ => .ok _) e he
          | null | bool b | num m | str s => exact .ok _

theorem Loadable.throws (hl : Loadable files name) (n : Nat) :
    Library.Throws (· = .outOfFuel) (loadAndInclude files n name) := by
  obtain ⟨root, hf, hr⟩ := hl
  cases n with
  | zero =>
      rw [loadAndInclude]
      exact .error rfl
  | succ n =>
      rw [loadAndInclude_succ hf]
      exact hr.throws n

/-! ## 4. A chain has no end -/

theorem mapValuesM_append_cons_error {f : Json → Except ConfigError Json}
    {l b : List (String × Json)} {e : String × Json}
    (hl : ∀ y ∈ l, Library.Throws (· = .outOfFuel) (f y.2)) (he : f e.2 = .error .outOfFuel) :
    Library.mapValuesM f (l ++ e :: b) = .error .outOfFuel := by
  refine Library.mapM_append_cons_error (fun y hy => (hl y hy).bind fun _ => .ok _) ?_
  rw [he]
  rfl

/-- **A value runs out of fuel** when a file that it comes to load does. -/
theorem Comes.outOfFuel (h : Comes files base name v)
    (hload : ∀ m < n, loadAndInclude files m name = .error .outOfFuel) :
    processIncludes files n v base = .error .outOfFuel := by
  induction h generalizing n with
  | @here kvs file hi hn =>
      cases n with
      | zero => rw [processIncludes]
      | succ n =>
          rw [processIncludes_obj_str n hi, hn, hload n (Nat.lt_succ_self n)]
          rfl
  | @element l x r hl _ ih =>
      cases n with
      | zero => rw [processIncludes]
      | succ n =>
          rw [processIncludes_arr, Library.mapM_append_cons_error (fun y hy => (hl y hy).throws n)
            (ih fun m hm => hload m (Nat.lt_succ_of_lt hm))]
          rfl
  | @member kvs l e r hi hs hl _ ih =>
      cases n with
      | zero => rw [processIncludes]
      | succ n =>
          have he := ih fun m hm => hload m (Nat.lt_succ_of_lt hm)
          cases hlookup : kvs.lookup "include" with
          | none =>
              rw [processIncludes_obj_none n hlookup, ← others_of_lookup_none hlookup, hs,
                mapValuesM_append_cons_error (fun y hy => (hl y hy).throws n) he]
              rfl
          | some v =>
              obtain ⟨file, rfl, hloadable⟩ := hi v hlookup
              rw [processIncludes_obj_str n hlookup]
              cases hr : loadAndInclude files n (dirOf base ++ file) with
              | error x => exact congrArg _ (hloadable.throws n x hr)
              | ok included =>
                  obtain ⟨m, root, -, -, hr⟩ := exists_of_loaded hr
                  have hfree := includeFree_items (includeFree_of_ok hr)
                  obtain ⟨a, b, hm, ha⟩ := (woven_merge kvs included).cut hs
                  show (Library.mapValuesM _ (merge kvs included) >>= _) = _
                  rw [hm, mapValuesM_append_cons_error (fun y hy => ?_) he]
                  · rfl
                  · rcases ha y hy with hy | hy
                    · exact (hl y hy).throws n
                    · exact throws_includeFree (hfree y hy) n base

/-- **A file on a chain runs out of every fuel.** -/
theorem load_of_chain (h : Chain files name) (n : Nat) :
    loadAndInclude files n name = .error .outOfFuel := by
  induction n using Nat.strong_induction_on generalizing name with
  | _ n ih =>
      obtain ⟨chain, rfl, hnext⟩ := h
      cases n with
      | zero => rw [loadAndInclude]
      | succ n =>
          obtain ⟨root, hf, hcomes⟩ := hnext 0
          rw [loadAndInclude_succ hf]
          refine hcomes.outOfFuel fun m hm => ih m (Nat.lt_succ_of_lt hm) ?_
          exact ⟨fun k => chain (k + 1), rfl, fun k => hnext (k + 1)⟩

/-! ## 5. Without a chain -/

/-- What has been processed is sound. -/
theorem sound_of_ok (h : processIncludes files n v base = .ok r) : Sound files v base := by
  induction n using Nat.strong_induction_on generalizing v base r with
  | _ n ih =>
      cases n with
      | zero =>
          rw [processIncludes] at h
          cases h
      | succ n =>
          have hn := Nat.lt_succ_self n
          cases v with
          | obj kvs =>
              cases hi : kvs.lookup "include" with
              | none =>
                  rw [processIncludes_obj_none n hi] at h
                  obtain ⟨own, hm, -⟩ := Library.bind_eq_ok.mp h
                  refine .plain hi fun e he => ?_
                  obtain ⟨x, -, -, hx⟩ := (Library.mapValuesM_ok hm).2.2 e he
                  exact ih n hn hx
              | some file =>
                  rw [processIncludes_obj_some n hi] at h
                  obtain ⟨s, hs, h⟩ := Library.bind_eq_ok.mp h
                  obtain ⟨included, hload, h⟩ := Library.bind_eq_ok.mp h
                  obtain ⟨own, hm, -⟩ := Library.bind_eq_ok.mp h
                  obtain ⟨m, root, rfl, hf, hr⟩ := exists_of_loaded hload
                  obtain rfl : file = .str s := by
                    cases file <;> cases hs
                    rfl
                  refine .incl hi hf (ih m (Nat.lt_succ_of_lt (Nat.lt_succ_self m)) hr)
                    fun e he => ?_
                  obtain ⟨x, -, -, hx⟩ :=
                    (Library.mapValuesM_ok hm).2.2 e ((woven_merge kvs included).subset he)
                  exact ih (m + 1) hn hx
          | arr xs =>
              rw [processIncludes_arr] at h
              obtain ⟨ys, hys, -⟩ := Library.bind_eq_ok.mp h
              refine .arr fun x hx => ?_
              obtain ⟨y, hy⟩ := Library.exists_of_mapM_ok hys x hx
              exact ih n hn hy
          | null => exact .null base
          | bool b => exact .bool b base
          | num m => exact .num m base
          | str s => exact .str s base

theorem loadable_of_ok (h : loadAndInclude files n name = .ok r) : Loadable files name := by
  obtain ⟨m, root, -, hf, hr⟩ := exists_of_loaded h
  exact ⟨root, hf, sound_of_ok hr⟩

/-- The loading of the file ends. -/
abbrev LoadEnds (files : Files) (name : String) : Prop :=
  Library.Ends .outOfFuel fun n => loadAndInclude files n name

theorem ends_mapValuesM {f : Nat → Json → Except ConfigError Json}
    (h : ∀ a e b, kvs = a ++ e :: b → (∀ y ∈ a, ∃ n z, f n y.2 = .ok z) →
      Library.Ends .outOfFuel fun n => f n e.2) :
    Library.Ends .outOfFuel fun n => Library.mapValuesM (f n) kvs := by
  refine Library.Ends.mapM fun a e b hl ha => (h a e b hl fun y hy => ?_).map (Prod.mk e.1)
  obtain ⟨n, z, hz⟩ := ha y hy
  obtain ⟨x, hx, -⟩ := Library.bind_eq_ok.mp hz
  exact ⟨n, x, hx⟩

/-- **The processing of a value ends** when the loading of every file that it comes to does. -/
theorem ends_process (h : ∀ name, Comes files base name v → LoadEnds files name) :
    Library.Ends .outOfFuel fun n => processIncludes files n v base := by
  induction v using Json.induct with
  | arr xs ih =>
      refine Library.Ends.succ ?_
      simp only [processIncludes_arr]
      refine (Library.Ends.mapM fun a x b hl ha => ?_).map Json.arr
      subst hl
      refine ih x (List.mem_append_right a List.mem_cons_self) fun name hc =>
        h name (.element ?_ hc)
      intro y hy
      obtain ⟨n, z, hz⟩ := ha y hy
      exact sound_of_ok hz
  | obj kvs ih =>
      refine Library.Ends.succ ?_
      cases hi : kvs.lookup "include" with
      | none =>
          simp only [processIncludes_obj_none _ hi]
          refine (ends_mapValuesM fun a e b hl ha => ?_).map Json.obj
          refine ih e (hl ▸ List.mem_append_right a List.mem_cons_self) fun name hc =>
            h name (.member (fun v hv => nomatch hi.symm.trans hv)
              ((others_of_lookup_none hi).trans hl) (fun y hy => ?_) hc)
          obtain ⟨n, z, hz⟩ := ha y hy
          exact sound_of_ok hz
      | some file =>
          cases file with
          | str s =>
              simp only [processIncludes_obj_str _ hi]
              refine (h _ (.here hi rfl)).bind fun included hload => ?_
              obtain ⟨n, hload⟩ := hload
              obtain ⟨m, root, -, -, hr⟩ := exists_of_loaded hload
              have hfree := includeFree_items (includeFree_of_ok hr)
              refine (ends_mapValuesM fun a e b hm ha => ?_).map Json.obj
              rcases (woven_merge kvs included).cut_woven hm with he | ⟨l, c, hs, hl⟩
              · exact .of_eventually (processIncludes_includeFree files (hfree e he) base)
              · have he : e ∈ others kvs := hs ▸ List.mem_append_right l List.mem_cons_self
                refine ih e (mem_others.mp he).1 fun name hc =>
                  h name (.member (fun v hv => ?_) hs (fun y hy => ?_) hc)
                · rw [hi] at hv
                  cases hv
                  exact ⟨s, rfl, loadable_of_ok hload⟩
                · obtain ⟨n, z, hz⟩ := ha y (hl y hy)
                  exact sound_of_ok hz
          | _ =>
              simp only [processIncludes_obj_some _ hi]
              exact .error (e := .typeError) (by decide) fun _ => rfl
  | null | bool b | num m | str s => exact .succ (.ok fun _ => rfl)

/-- The loading is a recursion along the files it comes to load. -/
theorem ends_of_acc (h : Acc (fun name' name => Next files name name') name) :
    LoadEnds files name := by
  induction h with
  | intro name _ ih =>
      refine Library.Ends.succ ?_
      cases hf : files name with
      | none =>
          refine .error (e := .cannotOpen) (by decide) fun n => ?_
          rw [loadAndInclude, hf]
      | some o =>
          cases o with
          | none =>
              refine .error (e := .parseError) (by decide) fun n => ?_
              rw [loadAndInclude, hf]
          | some root =>
              simp only [loadAndInclude_succ hf]
              exact ends_process fun name' hc => ih name' ⟨root, hf, hc⟩

/-- A file that comes to be loaded is included somewhere in the value. -/
theorem Comes.includes (h : Comes files base name v) :
    ∃ file, v.Includes file ∧ dirOf base ++ file = name := by
  induction h with
  | @here kvs file hi hn => exact ⟨file, .here hi, hn⟩
  | @element l x r _ _ ih =>
      obtain ⟨file, hf, hn⟩ := ih
      exact ⟨file, .element (List.mem_append_right l List.mem_cons_self) hf, hn⟩
  | @member kvs l e r _ hs _ _ ih =>
      obtain ⟨file, hf, hn⟩ := ih
      have he : e ∈ others kvs := hs ▸ List.mem_append_right l List.mem_cons_self
      exact ⟨file, .member (mem_others.mp he).1 hf, hn⟩

/-- **A finite set of files without a cycle**: the loading of every file ends. -/
theorem FileSet.ends_of_acyclic {ι : Type} [Finite ι] {S : FileSet ι}
    (h : ∀ i, ¬ Relation.TransGen S.Includes i i) (name : String) : LoadEnds S.files name := by
  refine ends_of_acc ?_
  have hsome : ∀ i name, S.find name = some i → Acc (fun b a => Next S.files a b) name := by
    intro i
    induction i using (FileSet.wellFounded_of_acyclic h).induction with
    | _ i ih =>
        refine fun name hi => .intro name fun name' hnext => ?_
        obtain ⟨root, hf, hcomes⟩ := hnext
        cases hj : S.find name' with
        | none =>
            refine .intro name' fun _ ⟨root', hf', _⟩ => ?_
            rw [FileSet.files_none hj] at hf'
            cases hf'
        | some j =>
            obtain ⟨file, hinc, rfl⟩ := hcomes.includes
            rw [FileSet.files_some hi] at hf
            exact ih j ⟨name, root, file, hi, Option.some.inj hf, hinc, hj⟩ _ hj
  cases hf : S.find name with
  | none =>
      refine .intro name fun _ ⟨root', hf', _⟩ => ?_
      rw [FileSet.files_none hf] at hf'
      cases hf'
  | some i => exact hsome i name hf

/-- **WHEN INCLUDE LOADING ENDS.** For any files, whatever their include graph, and every starting
    file: `loadAndInclude` returns a value or throws after finitely many calls if and only if there
    is no infinite chain of files from the starting file on, each of which comes to load the
    next. -/
theorem ends_iff (files : Files) (start : String) :
    (∃ n, loadAndInclude files n start ≠ .error .outOfFuel) ↔ ¬ Chain files start := by
  refine ⟨fun ⟨n, hn⟩ hchain => hn (load_of_chain hchain n), fun h => ?_⟩
  refine (ends_of_acc ?_).exists_ne
  by_contra hacc
  exact h (not_acc_iff_exists_descending_chain.mp hacc)

/-- One file, which includes itself. -/
def selfInclude : FileSet Unit where
  find name := if name = "loop.json" then some () else none
  content _ := some (.obj [("include", .str "loop.json")])

/-- It is loaded again and again. -/
theorem selfInclude_endless :
    ¬ ∃ n, loadAndInclude selfInclude.files n "loop.json" ≠ .error .outOfFuel := by
  have hdir : dirOf "loop.json" ++ "loop.json" = "loop.json" := by decide
  intro ⟨n, hn⟩
  refine hn (load_of_chain ⟨fun _ => "loop.json", rfl, fun _ => ?_⟩ n)
  exact ⟨.obj [("include", .str "loop.json")], rfl, .here rfl hdir⟩

end JsonIncluder

end Gem5Sc
