/-
  File:      Gem5Sc/ModuleFactory/Pointers.lean
  Subject:   What the two maps of an `instantiateAll` hold: `object_instances` after step 2, and
             `module_instances` after step 4.

  Step 2 enters what it creates, so a name has a pointer when some entry of that name has a known
  type (`Pointers`). Step 4 reads `module_instances[name]` for every entry with a `config`, which
  puts a null pointer beside a name without a SimModule (`Touched`). Every other pointer of that
  map is one to a SimModule, whatever the nested calls do.
-/
import Gem5Sc.ModuleFactory.Instances
import Gem5Sc.ModuleFactory.Stable

namespace Gem5Sc

/-! ## 1. What the configuration says about a name -/

/-- The type name is that of a SimModule. -/
def Registries.isModule (r : Registries) (type : String) : Bool := (r.modules.lookup type).isSome

/-- An entry of that name has a type that is known. -/
def Declared (known : String → Bool) (entries : List Json) (name : String) : Prop :=
  ∃ entry ∈ entries, ∃ type, moduleEntry entry = some (name, type) ∧ known type = true

/-- An entry of that name has a `config`. -/
def Configured (entries : List Json) (name : String) : Prop :=
  ∃ entry ∈ entries, entry.contains "config" = true ∧ entry.stringAt "name" = .ok name

theorem declared_concat {known : String → Bool} {entries : List Json} {entry : Json}
    {name : String} :
    Declared known (entries ++ [entry]) name ↔
      Declared known entries name ∨
        ∃ type, moduleEntry entry = some (name, type) ∧ known type = true := by
  unfold Declared
  simp only [List.mem_append, List.mem_singleton, or_and_right, exists_or, exists_eq_left]

/-- An entry with a name and a type declares this name, if the type is known. -/
theorem declared_concat_some {known : String → Bool} {entries : List Json} {entry : Json}
    {name type : String} (he : moduleEntry entry = some (name, type)) (other : String) :
    Declared known (entries ++ [entry]) other ↔
      Declared known entries other ∨ other = name ∧ known type = true := by
  rw [declared_concat, he]
  refine or_congr_right ⟨?_, ?_⟩
  · intro ⟨t, ht, hk⟩
    cases ht
    exact ⟨rfl, hk⟩
  · rintro ⟨rfl, hk⟩
    exact ⟨type, rfl, hk⟩

/-- Any other entry declares none. -/
theorem declared_concat_none {known : String → Bool} {entries : List Json} {entry : Json}
    (he : moduleEntry entry = none) (other : String) :
    Declared known (entries ++ [entry]) other ↔ Declared known entries other := by
  rw [declared_concat, he]
  exact or_iff_left fun ⟨_, ht, _⟩ => nomatch ht

theorem configured_concat {entries : List Json} {entry : Json} {name : String} :
    Configured (entries ++ [entry]) name ↔
      Configured entries name ∨
        entry.contains "config" = true ∧ entry.stringAt "name" = .ok name := by
  unfold Configured
  simp only [List.mem_append, List.mem_singleton, or_and_right, exists_or, exists_eq_left]

/-! ## 2. The pointers after steps 2 and 4 -/

theorem simModuleOf_append {w w' : World} {s : SimObject} (hw : w'.objects = w.objects ++ [s])
    {o : ObjId} (h : (w.simModuleOf o).isSome = true) : (w'.simModuleOf o).isSome = true := by
  unfold World.simModuleOf at *
  cases ho : w.objects[o]? with
  | none =>
      rw [ho] at h
      cases h
  | some t =>
      rw [hw, List.getElem?_append_left (List.getElem?_eq_some_iff.mp ho).1]
      exact h

/-- A SimModule stays one. -/
theorem stepKept_isSimModule (o : ObjId) : StepKept fun w => (w.simModuleOf o).isSome = true where
  newObject _ _ _ _ h := simModuleOf_append rfl h
  newModule _ _ _ _ h := simModuleOf_append rfl h
  modifyObject w p g hg h := by
    obtain ⟨m, hm⟩ := Option.isSome_iff_exists.mp h
    obtain ⟨s, hs, hsm⟩ := Option.bind_eq_some_iff.mp hm
    show (((w.objects.modify p g)[o]?).bind SimObject.simModule).isSome = true
    rw [List.getElem?_modify, hs]
    split
    · exact hg s (Option.isSome_iff_exists.mpr ⟨m, hsm⟩)
    · exact Option.isSome_iff_exists.mpr ⟨m, hsm⟩
  registries _ _ h := h
  groups _ _ h := h
  pairs _ _ h := h

/-- The two maps after step 2 for some entries. -/
structure Pointers (r : Registries) (entries : List Json) (b : Build) : Prop where
  registries : b.world.registries = r
  objects : ∀ name, b.objectInstances.lookup name = none ↔ ¬ Declared r.has entries name
  modules : ∀ name, b.moduleInstances.lookup name = none ↔ ¬ Declared r.isModule entries name
  real : ∀ name ptr, b.moduleInstances.lookup name = some ptr →
    ∃ o, ptr = some o ∧ (b.world.simModuleOf o).isSome = true

/-- The map of SimModules after step 4 for the entries in `touched`. -/
structure Touched (r : Registries) (entries touched : List Json) (b : Build) : Prop where
  absent : ∀ name, b.moduleInstances.lookup name = none ↔
    ¬ Declared r.isModule entries name ∧ ¬ Configured touched name
  null : ∀ name, b.moduleInstances.lookup name = some none ↔
    ¬ Declared r.isModule entries name ∧ Configured touched name
  real : ∀ name o, b.moduleInstances.lookup name = some (some o) →
    (b.world.simModuleOf o).isSome = true

/-- A new key of a map is there, the others are as before. -/
theorem lookup_setKey_eq_none {α : Type} {l : List (String × α)} {k k' : String} {x : α} :
    (setKey l k x).lookup k' = none ↔ k' ≠ k ∧ l.lookup k' = none := by
  by_cases h : k' = k
  · subst h
    simp [lookup_setKey_self]
  · simp [lookup_setKey_of_ne l x h, h]

theorem newInstance_pointers {r : Registries} {entries : List Json} {b : Build} {entry : Json}
    {name type : String} (h : Pointers r entries b) (he : moduleEntry entry = some (name, type)) :
    Pointers r (entries ++ [entry]) (newInstance b name type) := by
  have hreg := h.registries
  unfold newInstance
  rw [hreg]
  cases hm : r.modules.lookup type with
  | some c =>
      have hmod : r.isModule type = true := by
        rw [Registries.isModule, hm]
        rfl
      have hhas : r.has type = true := by
        rw [Registries.has, hm]
        rfl
      refine ⟨hreg, fun other => ?_, fun other => ?_, fun other ptr hptr => ?_⟩
      · rw [declared_concat_some he, lookup_setKey_eq_none, h.objects, hhas]
        tauto
      · rw [declared_concat_some he, lookup_setKey_eq_none, h.modules, hmod]
        tauto
      · by_cases hk : other = name
        · subst hk
          rw [lookup_setKey_self] at hptr
          cases hptr
          refine ⟨_, rfl, ?_⟩
          show (((b.world.objects ++ [_])[b.world.objects.length]?).bind
            SimObject.simModule).isSome = true
          rw [List.getElem?_concat_length]
          rfl
        · rw [lookup_setKey_of_ne _ _ hk] at hptr
          obtain ⟨o, rfl, ho⟩ := h.real other ptr hptr
          exact ⟨o, rfl, simModuleOf_append rfl ho⟩
  | none =>
      have hmod : r.isModule type = false := by
        rw [Registries.isModule, hm]
        rfl
      cases ho : r.objects.lookup type with
      | some c =>
          have hhas : r.has type = true := by
            rw [Registries.has, hm, ho]
            rfl
          refine ⟨hreg, fun other => ?_, fun other => ?_, fun other ptr hptr => ?_⟩
          · rw [declared_concat_some he, lookup_setKey_eq_none, h.objects, hhas]
            tauto
          · rw [declared_concat_some he, h.modules, hmod]
            simp
          · obtain ⟨o, rfl, ho⟩ := h.real other ptr hptr
            exact ⟨o, rfl, simModuleOf_append rfl ho⟩
      | none =>
          have hhas : r.has type = false := by
            rw [Registries.has, hm, ho]
            rfl
          refine ⟨hreg, fun other => ?_, fun other => ?_, h.real⟩
          · rw [declared_concat_some he, h.objects, hhas]
            simp
          · rw [declared_concat_some he, h.modules, hmod]
            simp

/-- **Step 2 for one entry.** -/
theorem createInstance_pointers {r : Registries} {entries : List Json} {b b' : Build}
    {entry : Json} (hb : Pointers r entries b) (h : createInstance b entry = .ok b') :
    Pointers r (entries ++ [entry]) b' := by
  rcases createInstance_cases h with ⟨hnot, rfl⟩ | ⟨name, type, hname, htype, hb'⟩
  · have hnone := moduleEntry_eq_none hnot
    refine ⟨hb.registries, fun other => ?_, fun other => ?_, hb.real⟩
    · rw [declared_concat_none hnone, hb.objects]
    · rw [declared_concat_none hnone, hb.modules]
  · have hnew := newInstance_pointers hb (moduleEntry_eq_some hname htype)
    rcases hb' with rfl | ⟨o, l, rfl⟩
    · exact hnew
    · refine ⟨hnew.registries, hnew.objects, hnew.modules, fun other ptr hptr => ?_⟩
      obtain ⟨o', rfl, ho⟩ := hnew.real other ptr hptr
      exact ⟨o', rfl, (stepKept_isSimModule o').modifyObject _ _ _ (fun _ hs => hs) ho⟩

theorem foldlM_createInstance_pointers {r : Registries} {done entries : List Json} {b b' : Build}
    (hb : Pointers r done b) (h : entries.foldlM createInstance b = .ok b') :
    Pointers r (done ++ entries) b' :=
  Library.foldlM_seen (fun _ _ _ _ hb h => createInstance_pointers hb h) hb h

/-- Before step 2. -/
theorem pointers_start (w : World) : Pointers w.registries [] { world := w } := by
  have hnone : ∀ known name, ¬ Declared known [] name := by
    rintro known name ⟨entry, hentry, -⟩
    exact List.not_mem_nil hentry
  exact ⟨rfl, fun name => iff_of_true rfl (hnone _ name),
    fun name => iff_of_true rfl (hnone _ name),
    fun name ptr h => nomatch h⟩

/-- Between steps 2 and 4. -/
theorem Pointers.touched {r : Registries} {entries : List Json} {b : Build}
    (h : Pointers r entries b) {w : World}
    (hw : ∀ o, (b.world.simModuleOf o).isSome = true → (w.simModuleOf o).isSome = true) :
    Touched r entries [] { b with world := w } := by
  have hnone : ∀ name, ¬ Configured [] name := by
    rintro name ⟨entry, hentry, -⟩
    exact List.not_mem_nil hentry
  refine ⟨fun name => ?_, fun name => ?_, fun name o ho => ?_⟩
  · rw [h.modules]
    exact (and_iff_left (hnone name)).symm
  · refine iff_of_false (fun hl => ?_) fun hc => hnone name hc.2
    obtain ⟨o, ho, -⟩ := h.real name none hl
    cases ho
  · obtain ⟨p, hp, hs⟩ := h.real name (some o) ho
    cases hp
    exact hw o hs

/-- `module_instances[name]` keeps what is there, and makes a null pointer where nothing is. -/
theorem lookup_touchModule (b : Build) (name other : String) :
    (touchModule b name).moduleInstances.lookup other =
      if other = name then some (b.moduleInstances.lookup name).join
      else b.moduleInstances.lookup other := by
  unfold touchModule
  cases hl : b.moduleInstances.lookup name with
  | some ptr =>
      dsimp only
      split
      · next h => rw [h, hl, Option.join_some]
      · rfl
  | none =>
      dsimp only
      split
      · next h => rw [h, lookup_setKey_self, Option.join_none]
      · next h => rw [lookup_setKey_of_ne _ _ h]

theorem world_touchModule (b : Build) (name : String) : (touchModule b name).world = b.world := by
  unfold touchModule
  split <;> rfl

/-- No pointer is found for a name without a SimModule, touched or not. -/
theorem Touched.join_eq_none_iff {r : Registries} {entries touched : List Json} {b : Build}
    (h : Touched r entries touched b) (name : String) :
    (b.moduleInstances.lookup name).join = none ↔ ¬ Declared r.isModule entries name := by
  rw [Option.join_eq_none_iff, h.absent, h.null]
  tauto

theorem touchModule_touched {r : Registries} {entries touched : List Json} {b : Build}
    {entry : Json} {name : String} (h : Touched r entries touched b)
    (hc : entry.contains "config" = true) (hn : entry.stringAt "name" = .ok name) :
    Touched r entries (touched ++ [entry]) (touchModule b name) := by
  have hconf : ∀ other, Configured (touched ++ [entry]) other ↔
      Configured touched other ∨ other = name := by
    intro other
    rw [configured_concat, hn, Except.ok.injEq, and_iff_right hc]
    exact or_congr_right eq_comm
  refine ⟨fun other => ?_, fun other => ?_, fun other o ho => ?_⟩
  · rw [lookup_touchModule, hconf]
    split
    · next hk => simp [hk]
    · next hk => rw [h.absent, or_iff_left hk]
  · rw [lookup_touchModule, hconf]
    split
    · next hk =>
        rw [hk, Option.some.injEq, h.join_eq_none_iff]
        exact (and_iff_left (Or.inr rfl)).symm
    · next hk => rw [h.null, or_iff_left hk]
  · rw [lookup_touchModule] at ho
    rw [world_touchModule]
    split at ho
    · exact h.real name o (Option.join_eq_some_iff.mp (Option.some.inj ho))
    · exact h.real other o ho

/-- Step 4 touches the name of every entry with a `config`, and no other. -/
theorem instantiateEntry_touches {P : Platform}
    {nested : FactoryId → Json → World → Except ConfigError World} {b b' : Build} {entry : Json}
    (h : instantiateEntry P nested b entry = .ok b') :
    entry.contains "config" = false ∧ b' = b ∨
      ∃ name, entry.contains "config" = true ∧ entry.stringAt "name" = .ok name ∧
        b'.moduleInstances = (touchModule b name).moduleInstances := by
  unfold instantiateEntry at h
  unfold Json.contains
  split at h
  · next hc =>
      cases h
      rw [hc]
      exact Or.inl ⟨rfl, rfl⟩
  · next file hc =>
      rw [hc]
      obtain ⟨name, hname, h⟩ := Library.bind_eq_ok.mp h
      refine Or.inr ⟨name, rfl, hname, ?_⟩
      dsimp only at h
      split at h
      · cases h
        rfl
      · obtain ⟨s, _, h⟩ := Library.bind_eq_ok.mp h
        split at h
        · cases h
          rfl
        · cases h
        · cases h
          rfl
        · obtain ⟨w, _, h⟩ := Library.bind_eq_ok.mp h
          cases h
          rfl

/-- **Step 4 for one entry.** -/
theorem instantiateEntry_touched {P : Platform} {fuel : Nat} {r : Registries}
    {entries touched : List Json} {b b' : Build} {entry : Json} (hb : Touched r entries touched b)
    (h : instantiateEntry P (instantiateAll P fuel) b entry = .ok b') :
    Touched r entries (touched ++ [entry]) b' := by
  have hkeep : ∀ o, (b.world.simModuleOf o).isSome = true →
      (b'.world.simModuleOf o).isSome = true := fun o ho =>
    (stepKept_isSimModule o).instantiateEntry (fun _ _ _ _ hw hn =>
      (stepKept_isSimModule o).instantiateAll (fun _ _ h => h) hw hn) ho h
  rcases instantiateEntry_touches h with ⟨hc, rfl⟩ | ⟨name, hc, hname, hmod⟩
  · have hnone : ∀ other,
        ¬ (entry.contains "config" = true ∧ entry.stringAt "name" = .ok other) := by
      rintro other ⟨hc', -⟩
      rw [hc] at hc'
      cases hc'
    refine ⟨fun other => ?_, fun other => ?_, hb.real⟩
    · rw [hb.absent, configured_concat, or_iff_left (hnone other)]
    · rw [hb.null, configured_concat, or_iff_left (hnone other)]
  · have ht := touchModule_touched hb hc hname
    refine ⟨fun other => ?_, fun other => ?_, fun other o ho => ?_⟩
    · rw [hmod]
      exact ht.absent other
    · rw [hmod]
      exact ht.null other
    · rw [hmod] at ho
      have hreal := ht.real other o ho
      rw [world_touchModule] at hreal
      exact hkeep o hreal

theorem foldlM_instantiateEntry_touched {P : Platform} {fuel : Nat} {r : Registries}
    {entries touched rest : List Json} {b b' : Build} (hb : Touched r entries touched b)
    (h : rest.foldlM (instantiateEntry P (instantiateAll P fuel)) b = .ok b') :
    Touched r entries (touched ++ rest) b' :=
  Library.foldlM_seen (fun _ _ _ _ hb h => instantiateEntry_touched hb h) hb h

end Gem5Sc
