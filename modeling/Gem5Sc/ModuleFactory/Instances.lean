/-
  File:      Gem5Sc/ModuleFactory/Instances.lean
  Subject:   Which objects a configuration creates, and which a factory knows of.

  `instantiateAll` keeps its objects in a local map: after step 2 it has one for every entry of a
  registered type (`createInstances_found`). `getInstance`, `getAllInstances` and `startAllTicks`
  read the member `instances` of the factory. No code writes it, so it is empty in every reachable
  world (`noInstances`).
-/
import Gem5Sc.ModuleFactory.Stable
import Mathlib.Data.List.Nodup

namespace Gem5Sc

/-! ## 1. Entries of a configuration -/

/-- Name and type of an entry of `modules` that has both. -/
def moduleEntry (entry : Json) : Option (String × String) := do
  let name ← (entry.stringAt "name").toOption
  let type ← (entry.stringAt "type").toOption
  return (name, type)

/-- The module entries of a resolved configuration. -/
def moduleEntries (final : Json) : List (String × String) :=
  (final.elemsIf "modules").filterMap moduleEntry

/-- A class is registered under the type name. -/
def Registries.has (r : Registries) (type : String) : Bool :=
  (r.modules.lookup type).isSome || (r.objects.lookup type).isSome

theorem moduleEntry_eq_some {entry : Json} {name type : String}
    (hname : entry.stringAt "name" = .ok name) (htype : entry.stringAt "type" = .ok type) :
    moduleEntry entry = some (name, type) := by
  rw [moduleEntry, hname, htype]
  rfl

theorem stringAt_of_moduleEntry {entry : Json} {e : String × String}
    (h : moduleEntry entry = some e) :
    entry.stringAt "name" = .ok e.1 ∧ entry.stringAt "type" = .ok e.2 := by
  unfold moduleEntry at h
  cases hn : entry.stringAt "name" with
  | error _ => rw [hn] at h; cases h
  | ok name =>
      cases ht : entry.stringAt "type" with
      | error _ => rw [hn, ht] at h; cases h
      | ok type =>
          rw [hn, ht] at h
          cases h
          exact ⟨rfl, rfl⟩

/-- An entry without name and type creates nothing. -/
theorem moduleEntry_eq_none {entry : Json}
    (h : ¬ (entry.contains "name" = true ∧ entry.contains "type" = true)) :
    moduleEntry entry = none := by
  cases he : moduleEntry entry with
  | none => rfl
  | some e =>
      obtain ⟨hn, ht⟩ := stringAt_of_moduleEntry he
      exact absurd ⟨Json.contains_of_stringAt hn, Json.contains_of_stringAt ht⟩ h

/-! ## 2. The objects are created -/

/-- An object of that name is in `object_instances`. -/
def Build.Found (b : Build) (name : String) : Prop :=
  ∃ o s, b.objectInstances.lookup name = some o ∧ b.world.objects[o]? = some s ∧ s.name = name

/-- A new object behind the others. -/
theorem found_append {b : Build} {w : World} {m : List (String × Option ObjId)} {s : SimObject}
    (hw : w.objects = b.world.objects ++ [s]) (name : String)
    (h : name = s.name ∨ b.Found name) :
    Build.Found { world := w, moduleInstances := m,
                  objectInstances := setKey b.objectInstances s.name b.world.objects.length }
      name := by
  by_cases hk : name = s.name
  · subst hk
    refine ⟨b.world.objects.length, s, lookup_setKey_self _ _ _, ?_, rfl⟩
    rw [hw, List.getElem?_concat_length]
  · obtain ⟨o, t, ho, ht, hn⟩ := h.resolve_left hk
    refine ⟨o, t, ?_, ?_, hn⟩
    · rw [← ho]
      exact lookup_setKey_of_ne _ _ hk
    · rw [hw, List.getElem?_append_left (List.getElem?_eq_some_iff.mp ht).1, ht]

theorem newInstance_found {b : Build} {name type other : String}
    (h : other = name ∧ b.world.registries.has type = true ∨ b.Found other) :
    (newInstance b name type).Found other := by
  unfold newInstance
  split
  · exact found_append (s := { name := name, type := type, ports := _, simModule := _ }) rfl other
      (h.imp_left And.left)
  · next hm =>
      split
      · exact found_append (s := { name := name, type := type, ports := _ }) rfl other
          (h.imp_left And.left)
      · next ho =>
          refine h.resolve_left fun hr => ?_
          have hr := hr.2
          rw [Registries.has, hm, ho] at hr
          cases hr

theorem newInstance_registries (b : Build) (name type : String) :
    (newInstance b name type).world.registries = b.world.registries := by
  unfold newInstance
  split
  · rfl
  · split <;> rfl

/-- `setLayout` names nobody anew. -/
theorem found_modifyObject {b : Build} (o : ObjId) {g : SimObject → SimObject}
    (hg : ∀ s, (g s).name = s.name) {name : String} (h : b.Found name) :
    Build.Found { b with world := b.world.modifyObject o g } name := by
  obtain ⟨p, s, hp, hs, hn⟩ := h
  by_cases hop : o = p
  · subst hop
    refine ⟨o, g s, hp, ?_, (hg s).trans hn⟩
    show (b.world.objects.modify o g)[o]? = _
    rw [List.getElem?_modify_eq, hs]
    rfl
  · refine ⟨p, s, hp, ?_, hn⟩
    show (b.world.objects.modify o g)[p]? = _
    rw [List.getElem?_modify_ne _ _ hop, hs]

/-- One entry: its own object is there afterwards, and so is every earlier one. -/
theorem createInstance_found {b b' : Build} {entry : Json} (other : String)
    (h : createInstance b entry = .ok b') :
    b'.world.registries = b.world.registries ∧
    ((∃ e, moduleEntry entry = some e ∧ e.1 = other ∧ b.world.registries.has e.2 = true) ∨
      b.Found other → b'.Found other) := by
  rcases createInstance_cases h with ⟨hnot, rfl⟩ | ⟨name, type, hname, htype, hb'⟩
  · refine ⟨rfl, fun hf => hf.resolve_left fun ⟨e, he, _⟩ => ?_⟩
    rw [moduleEntry_eq_none hnot] at he
    cases he
  · have hreg := newInstance_registries b name type
    have hnew : (∃ e, moduleEntry entry = some e ∧ e.1 = other ∧
        b.world.registries.has e.2 = true) ∨ b.Found other →
        (newInstance b name type).Found other := by
      intro hf
      refine newInstance_found (hf.imp_left fun ⟨e, he, hn, hr⟩ => ?_)
      rw [moduleEntry_eq_some hname htype, Option.some.injEq] at he
      subst he
      exact ⟨hn.symm, hr⟩
    rcases hb' with rfl | ⟨o, l, rfl⟩
    · exact ⟨hreg, hnew⟩
    · exact ⟨hreg, fun hf => found_modifyObject o (g := fun s => { s with layout := l })
        (fun _ => rfl) (hnew hf)⟩

theorem foldlM_createInstance_found {entries : List Json} {b b' : Build} {name : String}
    (h : entries.foldlM createInstance b = .ok b')
    (hf : (∃ e ∈ entries.filterMap moduleEntry, e.1 = name ∧
      b.world.registries.has e.2 = true) ∨ b.Found name) : b'.Found name := by
  induction entries generalizing b with
  | nil =>
      cases h
      exact hf.resolve_left fun ⟨e, he, _⟩ => List.not_mem_nil he
  | cons entry entries ih =>
      rw [List.foldlM_cons] at h
      obtain ⟨b1, h1, h2⟩ := Library.bind_eq_ok.mp h
      obtain ⟨hreg, hstep⟩ := createInstance_found name h1
      refine ih h2 ?_
      rw [hreg]
      rcases hf with ⟨e, he, hn, hr⟩ | hf
      · rw [List.mem_filterMap] at he
        obtain ⟨x, hx, hxe⟩ := he
        rcases List.mem_cons.mp hx with rfl | hx
        · exact Or.inr (hstep (Or.inl ⟨e, hxe, hn, hr⟩))
        · exact Or.inl ⟨e, List.mem_filterMap.mpr ⟨x, hx, hxe⟩, hn, hr⟩
      · exact Or.inr (hstep (Or.inr hf))

/-- **Step 2 creates an object for every entry with a registered type.** -/
theorem createInstances_found {final : Json} {b b' : Build} (h : createInstances final b = .ok b')
    {e : String × String} (he : e ∈ moduleEntries final)
    (hr : b.world.registries.has e.2 = true) : b'.Found e.1 := by
  obtain ⟨entries, hm, h⟩ := Library.bind_eq_ok.mp h
  rw [moduleEntries, Json.elemsIf_of_elemsAt hm] at he
  exact foldlM_createInstance_found h (Or.inl ⟨e, he, rfl, hr⟩)

/-! ## 3. The member `instances` -/

namespace World

/-- The member `instances` of every factory is empty. -/
def NoInstances (w : World) : Prop := ∀ l ∈ w.factories, l = []

theorem noInstances_newFactory {w : World} (h : w.NoInstances) : w.newFactory.2.NoInstances := by
  intro l hl
  rcases List.mem_append.mp hl with hl | hl
  · exact h l hl
  · exact List.mem_singleton.mp hl

theorem stable_noInstances : Stable NoInstances where
  newObject _ _ _ _ h := h
  newModule _ _ _ _ h := noInstances_newFactory h
  modifyObject _ _ _ h := h
  registries _ _ h := h
  groups _ _ h := h
  pairs _ _ h := h
  built _ _ h := h

theorem instances_eq_nil {w : World} (h : w.NoInstances) (f : FactoryId) : w.instances f = [] := by
  rw [instances, List.getD_eq_getElem?_getD]
  cases hf : w.factories[f]? with
  | none => rfl
  | some l => exact h l (List.mem_of_getElem? hf)

/-- The worlds a program gets to: it creates factories, registers and unregisters classes and
    instantiates configurations. -/
inductive Reachable (P : Platform) : World → Prop
  | start : Reachable P {}
  | newFactory {w : World} : Reachable P w → Reachable P w.newFactory.2
  | register {w : World} (r : Registries) : Reachable P w → Reachable P { w with registries := r }
  | instantiateAll {w w' : World} {fuel : Nat} {f : FactoryId} {config : Json} :
      Reachable P w → instantiateAll P fuel f config w = .ok w' → Reachable P w'

/-- No code writes the member. -/
theorem Reachable.noInstances {P : Platform} {w : World} (h : w.Reachable P) : w.NoInstances := by
  induction h with
  | start => exact fun l hl => absurd hl List.not_mem_nil
  | newFactory _ ih => exact noInstances_newFactory ih
  | register r _ ih => exact ih
  | instantiateAll _ h ih => exact stable_noInstances.instantiateAll ih h

end World

/-! ## 4. A configuration with one module -/

/-- One module of a plain class. -/
def oneModule : Json :=
  .obj [("connections", .arr []),
        ("modules", .arr [.obj [("name", .str "inst0"), ("type", .str "TestModuleA")]])]

/-- A factory, with `TestModuleA` registered. -/
def testWorld : World := { factories := [[]], registries := { objects := [("TestModuleA", {})] } }

theorem testWorld_reachable (P : Platform) : testWorld.Reachable P :=
  (World.Reachable.start.newFactory).register { objects := [("TestModuleA", {})] }

/-- The world after `oneModule`. -/
def testWorldBuilt : World :=
  { testWorld with
    objects := [{ name := "inst0", type := "TestModuleA" }]
    built := [{ factory := 0, config := oneModule, objects := [("inst0", 0)] }] }

theorem instantiateAll_oneModule :
    instantiateAll (Platform.ofFiles [("one.json", oneModule)]) 8 0 (.str "one.json") testWorld =
      .ok testWorldBuilt := by
  rfl

end Gem5Sc
