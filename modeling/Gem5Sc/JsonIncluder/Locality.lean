/-
  File:      Gem5Sc/JsonIncluder/Locality.lean
  Subject:   WHAT THE LOADING OF A FILE DEPENDS ON, and what it does not.

  * `loadAndInclude_local` -- files that no chain of includes leads to do not matter, neither to the
    result nor to an exception.
  * `loadAndInclude_resolved` -- any of the files may be replaced by what they resolve to.

  The members of an included value are processed once more in the including file, and this second
  pass loads nothing, since they have no `include` left. So the files that a value names are all
  that its processing can load (`processIncludes_local`, `processIncludes_transfer`).
-/
import Gem5Sc.JsonIncluder.Endless

namespace Gem5Sc

namespace JsonIncluder

open Filter
open Library (eventually_succ eventually_list)

variable {files files' : Files} {base name : String} {v r : Json} {n : Nat}

/-! ## 1. Other files do not matter -/

/-- The value in the one file names the other file in an `include`, at any depth. -/
def Names (files : Files) (name name' : String) : Prop :=
  ∃ root file, files name = some (some root) ∧ root.Includes file ∧ dirOf name ++ file = name'

/-- The same files, as far as includes lead. -/
def AgreeFrom (files files' : Files) (name : String) : Prop :=
  ∀ name', Relation.ReflTransGen (Names files) name name' → files' name' = files name'

theorem AgreeFrom.step {name' : String} (h : AgreeFrom files files' name)
    (hn : Names files name name') : AgreeFrom files files' name' :=
  fun _ hreach => h _ (.head hn hreach)

/-- **A value loads the files it names**, and no others. -/
theorem processIncludes_local
    (hload : ∀ file, v.Includes file → ∀ m < n,
      loadAndInclude files' m (dirOf base ++ file) = loadAndInclude files m (dirOf base ++ file)) :
    processIncludes files' n v base = processIncludes files n v base := by
  induction n generalizing v with
  | zero => rw [processIncludes, processIncludes]
  | succ n ih =>
      have hrest : ∀ x : Json, (∀ file, x.Includes file → v.Includes file) →
          processIncludes files' n x base = processIncludes files n x base := fun x hx =>
        ih fun file hf m hm => hload file (hx file hf) m (Nat.lt_succ_of_lt hm)
      have hmembers : ∀ kvs : List (String × Json),
          (∀ e ∈ kvs, ∀ file, e.2.Includes file → v.Includes file) →
          Library.mapValuesM (processIncludes files' n · base) kvs =
            Library.mapValuesM (processIncludes files n · base) kvs := fun kvs hkvs =>
        Library.mapValuesM_congr fun e he => hrest e.2 (hkvs e he)
      cases v with
      | arr xs =>
          rw [processIncludes_arr, processIncludes_arr, Library.mapM_congr fun x hx =>
            hrest x fun _ hf => .element hx hf]
      | obj kvs =>
          cases hi : kvs.lookup "include" with
          | none =>
              rw [processIncludes_obj_none n hi, processIncludes_obj_none n hi,
                hmembers kvs fun e he _ hf => .member he hf]
          | some file =>
              cases file with
              | str s =>
                  rw [processIncludes_obj_str n hi, processIncludes_obj_str n hi,
                    hload s (.here hi) n (Nat.lt_succ_self n)]
                  cases hl : loadAndInclude files n (dirOf base ++ s) with
                  | error x => rfl
                  | ok included =>
                      -- what is merged in has no include left
                      obtain ⟨m, root, -, -, hr⟩ := exists_of_loaded hl
                      have hfree := includeFree_items (includeFree_of_ok hr)
                      show (Library.mapValuesM _ (merge kvs included) >>= _) =
                        (Library.mapValuesM _ (merge kvs included) >>= _)
                      rw [hmembers _ fun e he file hf => ?_]
                      rcases (woven_merge kvs included).mem he with he | he
                      · exact .member (mem_others.mp he).1 hf
                      · exact absurd hf ((hfree e he).not_includes file)
              | _ => rw [processIncludes_obj_some n hi, processIncludes_obj_some n hi]; rfl
      | _ => rfl

/-- **OTHER FILES DO NOT MATTER.** If two sets of files have the same files wherever a chain of
    includes leads from `name`, then loading `name` comes to the same in both: the same value, the
    same exception, or the same running out of fuel. -/
theorem loadAndInclude_local (h : AgreeFrom files files' name) (n : Nat) :
    loadAndInclude files' n name = loadAndInclude files n name := by
  induction n using Nat.strong_induction_on generalizing name with
  | _ n ih =>
      cases n with
      | zero => rw [loadAndInclude, loadAndInclude]
      | succ n =>
          rw [loadAndInclude, loadAndInclude, h name .refl]
          cases hf : files name with
          | none => rfl
          | some o =>
              cases o with
              | none => rfl
              | some root =>
                  exact processIncludes_local fun file hfile m hm =>
                    ih m (Nat.lt_succ_of_lt hm) (h.step ⟨root, file, hf, hfile, rfl⟩)

/-- One file that includes another, and what it comes to. -/
def oneInclude : Files := fun name =>
  ([("a.json", .obj [("include", .str "b.json"), ("x", .num 1)]),
    ("b.json", .obj [("y", .num 2)])].lookup name).map some

/-- The same, with a file that is no JSON beside them. -/
def withOther : Files := fun name => if name = "c.json" then some none else oneInclude name

theorem loadAndInclude_local_withOther :
    loadAndInclude withOther 8 "a.json" = loadAndInclude oneInclude 8 "a.json" := by
  refine loadAndInclude_local (fun name' hreach => ?_) 8
  -- the include leads to `b.json`, and no further
  have hnames : name' = "a.json" ∨ name' = "b.json" := by
    induction hreach with
    | refl => exact Or.inl rfl
    | tail _ hn ih =>
        obtain ⟨root, file, hroot, hfile, rfl⟩ := hn
        rcases ih with rfl | rfl
        · cases hroot
          cases hfile with
          | here h =>
              cases h
              exact Or.inr (by decide)
          | member he h =>
              rcases List.mem_cons.mp he with rfl | he
              · cases h
              · obtain rfl := List.mem_singleton.mp he
                cases h
        · cases hroot
          cases hfile with
          | here h => cases h
          | member he h =>
              obtain rfl := List.mem_singleton.mp he
              cases h
  rcases hnames with rfl | rfl <;> rfl

/-! ## 2. Files may be resolved beforehand -/

/-- What `files` gives, `files'` gives. -/
theorem processIncludes_transfer
    (hload : ∀ m < n, ∀ name r, loadAndInclude files m name = .ok r →
      ∀ᶠ k in atTop, loadAndInclude files' k name = .ok r)
    (h : processIncludes files n v base = .ok r) :
    ∀ᶠ k in atTop, processIncludes files' k v base = .ok r := by
  induction n generalizing v r with
  | zero =>
      rw [processIncludes] at h
      cases h
  | succ n ih =>
      have hrest : ∀ x : Json, (∃ y, processIncludes files n x base = .ok y) →
          ∀ᶠ k in atTop, processIncludes files' k x base = processIncludes files n x base := by
        rintro x ⟨y, hy⟩
        rw [hy]
        exact ih (fun m hm => hload m (Nat.lt_succ_of_lt hm)) hy
      have hmembers : ∀ {kvs own : List (String × Json)},
          Library.mapValuesM (processIncludes files n · base) kvs = .ok own →
          ∀ᶠ k in atTop, Library.mapValuesM (processIncludes files' k · base) kvs = .ok own := by
        intro kvs own hm
        have hall : ∀ᶠ k in atTop, ∀ e ∈ kvs, processIncludes files' k e.2 base =
            processIncludes files n e.2 base := eventually_list fun e he => by
          obtain ⟨x, -, -, hx⟩ := (Library.mapValuesM_ok hm).2.2 e he
          exact hrest e.2 ⟨_, hx⟩
        exact hall.mono fun k hk => (Library.mapValuesM_congr hk).trans hm
      cases v with
      | arr xs =>
          rw [processIncludes_arr] at h
          obtain ⟨ys, hys, h⟩ := Library.bind_eq_ok.mp h
          cases h
          have hall : ∀ᶠ k in atTop, ∀ x ∈ xs, processIncludes files' k x base =
              processIncludes files n x base :=
            eventually_list fun x hx => hrest x (Library.exists_of_mapM_ok hys x hx)
          refine eventually_succ (hall.mono fun k hk => ?_)
          rw [processIncludes_arr, Library.mapM_congr hk, hys]
          rfl
      | obj kvs =>
          cases hi : kvs.lookup "include" with
          | none =>
              rw [processIncludes_obj_none n hi] at h
              obtain ⟨own, hm, h⟩ := Library.bind_eq_ok.mp h
              cases h
              refine eventually_succ ((hmembers hm).mono fun k hk => ?_)
              rw [processIncludes_obj_none k hi, hk]
              rfl
          | some file =>
              rw [processIncludes_obj_some n hi] at h
              obtain ⟨s, hs, h⟩ := Library.bind_eq_ok.mp h
              obtain ⟨included, hl, h⟩ := Library.bind_eq_ok.mp h
              obtain ⟨own, hm, h⟩ := Library.bind_eq_ok.mp h
              cases h
              have hl' := hload n (Nat.lt_succ_self n) _ _ hl
              refine eventually_succ ((hl'.and (hmembers hm)).mono fun k hk => ?_)
              rw [processIncludes_obj_some k hi, hs]
              show (loadAndInclude files' k (dirOf base ++ s) >>= _) = _
              rw [hk.1]
              show (Library.mapValuesM _ (merge kvs included) >>= _) = _
              rw [hk.2]
              rfl
      | _ =>
          cases h
          exact eventually_succ (Eventually.of_forall fun _ => rfl)

/-- File by file: it holds the same in both sets, or comes to the same. -/
theorem loadAndInclude_transfer
    (h : ∀ name m r, loadAndInclude files m name = .ok r →
      files' name = files name ∨ ∀ᶠ k in atTop, loadAndInclude files' k name = .ok r)
    (hr : loadAndInclude files n name = .ok r) :
    ∀ᶠ k in atTop, loadAndInclude files' k name = .ok r := by
  induction n using Nat.strong_induction_on generalizing name r with
  | _ n ih =>
      rcases h name n r hr with hsame | hall
      · obtain ⟨m, root, rfl, hf, hp⟩ := exists_of_loaded hr
        have hall : ∀ᶠ k in atTop, processIncludes files' k root name = .ok r :=
          processIncludes_transfer (fun k hk _ _ hl => ih k (Nat.lt_succ_of_lt hk) hl) hp
        refine eventually_succ (hall.mono fun k hk => ?_)
        rw [loadAndInclude_succ (hsame.trans hf), hk]
      · exact hall

/-- More fuel does not change a value. -/
theorem eventually_loaded (hr : loadAndInclude files n name = .ok r) :
    ∀ᶠ k in atTop, loadAndInclude files k name = .ok r :=
  loadAndInclude_transfer (fun _ _ _ _ => Or.inl rfl) hr

theorem loaded_unique {m : Nat} {r' : Json} (hr : loadAndInclude files n name = .ok r)
    (hr' : loadAndInclude files m name = .ok r') : r = r' := by
  obtain ⟨k, hk, hk'⟩ := ((eventually_loaded hr).and (eventually_loaded hr')).exists
  exact Except.ok.inj (hk.symm.trans hk')

/-- Any of the files hold what they resolve to instead. -/
def Resolved (files files' : Files) : Prop :=
  ∀ name, files' name = files name ∨
    ∃ n r, loadAndInclude files n name = .ok r ∧ files' name = some (some r)

/-- A file that holds what another one resolves to, comes to that. -/
theorem eventually_loaded_resolved (hr : loadAndInclude files n name = .ok r) {name' : String}
    (hf : files' name' = some (some r)) : ∀ᶠ k in atTop, loadAndInclude files' k name' = .ok r := by
  obtain ⟨m, root, -, -, hp⟩ := exists_of_loaded hr
  refine eventually_succ ((processIncludes_includeFree files' (includeFree_of_ok hp) name').mono
    fun k hk => ?_)
  rw [loadAndInclude_succ hf, hk]

/-- **FILES MAY BE RESOLVED BEFOREHAND.** If any of the files are replaced by what `loadAndInclude`
    gives for them, every file comes to the same value as before, and to none if it came to none. -/
theorem loadAndInclude_resolved (h : Resolved files files') (name : String) (r : Json) :
    (∃ n, loadAndInclude files' n name = .ok r) ↔ ∃ n, loadAndInclude files n name = .ok r := by
  refine ⟨fun ⟨n, hr⟩ => ?_, fun ⟨n, hr⟩ => ?_⟩
  · refine (loadAndInclude_transfer (fun name m r hr => ?_) hr).exists
    rcases h name with hsame | ⟨k, r', hr', hf⟩
    · exact Or.inl hsame.symm
    · obtain ⟨l, hl, hl'⟩ := ((eventually_loaded hr).and (eventually_loaded_resolved hr' hf)).exists
      obtain rfl : r = r' := Except.ok.inj (hl.symm.trans hl')
      exact Or.inr (eventually_loaded hr')
  · refine (loadAndInclude_transfer (fun name m r hr => ?_) hr).exists
    rcases h name with hsame | ⟨k, r', hr', hf⟩
    · exact Or.inl hsame
    · obtain rfl := loaded_unique hr hr'
      exact Or.inr (eventually_loaded_resolved hr' hf)

/-- The file that includes the other one, resolved. -/
def resolvedBefore : Files := fun name =>
  if name = "a.json" then some (some (.obj [("x", .num 1), ("y", .num 2)])) else oneInclude name

theorem loadAndInclude_resolved_oneInclude :
    (∃ n, loadAndInclude resolvedBefore n "a.json" = .ok (.obj [("x", .num 1), ("y", .num 2)])) ↔
      ∃ n, loadAndInclude oneInclude n "a.json" = .ok (.obj [("x", .num 1), ("y", .num 2)]) := by
  refine loadAndInclude_resolved (fun name => ?_) "a.json" _
  by_cases hname : name = "a.json"
  · subst hname
    exact Or.inr ⟨8, _, by rfl, rfl⟩
  · exact Or.inl (if_neg hname)

end JsonIncluder

end Gem5Sc
