/-
  File:      Gem5Sc/ModuleFactory/Resolved.lean
  Subject:   WHAT `instantiateAll` TAKES: a configuration, or the name of its file.

  `main` resolves the includes of a configuration and hands the object to `instantiateAll`, and
  `SimModule::instantiate` hands over a parsed internal configuration. The first line of
  `instantiateAll` gives what it is handed to `loadAndInclude`, whose parameter is a string: an
  object is converted, and the conversion throws. Only the name of a file gets past that line,
  at every nesting level (`instantiateAll_file`).
-/
import Gem5Sc.ModuleFactory.Instances

namespace Gem5Sc

/-- The platform with the program's own include step. -/
def Platform.own (P : Platform) (fuel : Nat) : Platform :=
  { P with includeStep := JsonIncluder.includeStep P.files fuel }

/-- `instantiateAll` ends with `r`, once the fuel is enough for the includes and the nesting. -/
def EndsWith (P : Platform) (f : FactoryId) (config : Json) (w : World)
    (r : Except ConfigError World) : Prop :=
  ∃ fuel, ∀ m, fuel ≤ m → instantiateAll (P.own m) m f config w = r

theorem EndsWith.unique {P : Platform} {f : FactoryId} {config : Json} {w : World}
    {r r' : Except ConfigError World} (h : EndsWith P f config w r)
    (h' : EndsWith P f config w r') : r = r' := by
  obtain ⟨m, hm⟩ := h
  obtain ⟨n, hn⟩ := h'
  rw [← hm (max m n) (Nat.le_max_left m n), hn (max m n) (Nat.le_max_right m n)]

/-- **The configuration is converted to the name of a file**, and no object has such a
    conversion. -/
theorem instantiateAll_object (P : Platform) (k fuel : Nat) (f : FactoryId)
    (kvs : List (String × Json)) (w : World) :
    instantiateAll (P.own k) (fuel + 1) f (.obj kvs) w = .error .typeError := rfl

theorem endsWith_object (P : Platform) (f : FactoryId) (kvs : List (String × Json)) (w : World) :
    EndsWith P f (.obj kvs) w (.error .typeError) := by
  refine ⟨1, fun m hm => ?_⟩
  obtain ⟨n, rfl⟩ : ∃ n, m = n + 1 := ⟨m - 1, by omega⟩
  exact instantiateAll_object P (n + 1) n f kvs w

/-- What is built, is built from the name of a file. -/
theorem instantiateAll_file {P : Platform} {k fuel : Nat} {f : FactoryId} {config : Json}
    {w w' : World} (h : instantiateAll (P.own k) fuel f config w = .ok w') :
    ∃ filename, config = .str filename := by
  cases fuel with
  | zero => cases h
  | succ fuel =>
      obtain ⟨final, hf, -⟩ := Library.bind_eq_ok.mp h
      obtain ⟨filename, hs, -⟩ := Library.bind_eq_ok.mp hf
      cases config with
      | str s => exact ⟨s, rfl⟩
      | _ => cases hs

/-- The same at every nesting level: an entry whose internal configuration file holds an object
    ends the construction. -/
theorem instantiateEntry_object {P : Platform} {k fuel : Nat} {b : Build} {entry : Json}
    {name file : String} {o : ObjId} {s : SimModule} {kvs : List (String × Json)}
    (hname : entry.stringAt "name" = .ok name) (hfile : entry.field? "config" = some (.str file))
    (ho : b.moduleInstances.lookup name = some (some o)) (hs : b.world.simModuleOf o = some s)
    (hcfg : P.files file = some (some (.obj kvs))) :
    instantiateEntry (P.own k) (instantiateAll (P.own k) (fuel + 1)) b entry =
      .error .typeError := by
  have ht : touchModule b name = b := by simp [touchModule, ho]
  have hfiles : (P.own k).files file = some (some (.obj kvs)) := hcfg
  simp only [instantiateEntry, hfile, hname, bind, Except.bind, ht, ho, Option.join_some,
    Json.asString, hfiles, hs]
  rfl

/-- `instantiateAll` takes `config` as it takes the name of the file that resolves to it. -/
structure TakenAsResolved (P : Platform) (f : FactoryId) (w : World) (filename : String)
    (config : Json) : Prop where
  noConversionError : ¬ EndsWith P f config w (.error .typeError)
  sameSystem : ∀ r, EndsWith P f config w r ↔ EndsWith P f (.str filename) w r

/-- **NO RESOLVED CONFIGURATION IS TAKEN.** Whatever the files, the platform, the factory and the
    world: for every file that resolves to an object, `instantiateAll` of this object throws the
    `type_error` of the conversion. -/
theorem resolved_not_taken (P : Platform) (f : FactoryId) (w : World) (filename : String)
    (kvs : List (String × Json))
    (_h : ∃ fuel, JsonIncluder.loadAndInclude P.files fuel filename = .ok (.obj kvs)) :
    (∀ r, EndsWith P f (.obj kvs) w r ↔ r = .error .typeError) ∧
      ¬ TakenAsResolved P f w filename (.obj kvs) := by
  have ht := endsWith_object P f kvs w
  refine ⟨fun r => ⟨fun h => h.unique ht, ?_⟩, fun h => h.noConversionError ht⟩
  rintro rfl
  exact ht

/-- A file with one module, `main`'s way and by its name. -/
theorem resolved_not_taken_oneModule :
    (∀ r, EndsWith (Platform.ofFiles [("one.json", oneModule)]) 0 oneModule testWorld r ↔
        r = .error .typeError) ∧
      ¬ TakenAsResolved (Platform.ofFiles [("one.json", oneModule)]) 0 testWorld "one.json"
        oneModule :=
  resolved_not_taken _ 0 testWorld "one.json" _ ⟨16, rfl⟩

/-- By its name the system is built. -/
theorem oneModule_not_taken :
    instantiateAll (Platform.ofFiles [("one.json", oneModule)]) 8 0 (.str "one.json") testWorld =
        .ok testWorldBuilt ∧
      instantiateAll (Platform.ofFiles [("one.json", oneModule)]) 8 0 oneModule testWorld =
        .error .typeError ∧
      ¬ TakenAsResolved (Platform.ofFiles [("one.json", oneModule)]) 0 testWorld "one.json"
        oneModule :=
  ⟨instantiateAll_oneModule, rfl, fun h => h.noConversionError (endsWith_object _ _ _ _)⟩

end Gem5Sc
