/-
  File:      Gem5Sc/ModuleFactory/Registered.lean
  Subject:   Whether a configured module can be found and is ticked: `getInstance`,
             `getAllInstances` and `startAllTicks` after `instantiateAll`.

  The object of a configured module is created in step 2, and the later steps and later calls only
  add to the world (`created_instantiateAll`). But all three functions read the member `instances`,
  which stays empty.

  `registered_iff`: an object for every entry of a registered type, and none that is found or
  ticked, unless the configuration has no module.
-/
import Gem5Sc.ModuleFactory.Changes

namespace Gem5Sc

/-! ## 1. The object of an entry -/

/-- The call of record `r` has an object of that name in its map, and it is there. -/
def Built.Created (r : Built) (w : World) (name : String) : Prop :=
  ∃ o s, r.objects.lookup name = some o ∧ w.objects[o]? = some s ∧ s.name = name

/-- What steps 3 to 6 do to the map and the world: the map stays, and the world grows. -/
theorem grows_afterObjects {P : Platform} {fuel : Nat} {final : Json} {b₂ b₄ b b' : Build}
    {w₃ : World} (h₃ : defineGroups final b₂.world = .ok w₃)
    (h₄ : instantiateModules P (instantiateAll P fuel) final { b₂ with world := w₃ } = .ok b₄)
    (hp : createPorts final b₄ = .ok b) (hc : connectAll P final b = .ok b') :
    b'.objectInstances = b₂.objectInstances ∧ b₂.world.Grows b'.world := by
  have hnested : ∀ f cfg w w', instantiateAll P fuel f cfg w = .ok w' → World.Changes P w w' :=
    fun _ _ _ _ h => instantiateAll_changes h
  have hchanges : World.Changes P b₂.world b'.world :=
    calc World.Changes P b₂.world w₃ := defineGroups_changes h₃
      World.Changes P _ b₄.world :=
        instantiateModules_changes hnested (b := { b₂ with world := w₃ }) h₄
      World.Changes P _ b.world := createPorts_changes hp
      World.Changes P _ b'.world := connectAll_changes hc
  refine ⟨?_, hchanges.grows⟩
  rw [connectAll_objectInstances hc, (createPorts_keeps hp).1,
    instantiateModules_objectInstances h₄]

/-- **A completed call leaves its record**, with an object for every entry of a type that is
    registered when the plugins are loaded. -/
theorem created_instantiateAll {P : Platform} {fuel : Nat} {f : FactoryId} {config : Json}
    {w w' : World} (h : instantiateAll P fuel f config w = .ok w') :
    ∃ r ∈ w'.built, r.factory = f ∧ P.includeStep config = .ok r.config ∧
      ∃ w₁, loadPlugins P r.config w = .ok w₁ ∧
        ∀ e ∈ moduleEntries r.config, w₁.registries.has e.2 = true → r.Created w' e.1 := by
  cases fuel with
  | zero => cases h
  | succ fuel =>
      obtain ⟨final, hf, h⟩ := Library.bind_eq_ok.mp h
      obtain ⟨b, hb, h⟩ := Library.bind_eq_ok.mp h
      obtain ⟨b', hc, h⟩ := Library.bind_eq_ok.mp h
      cases h
      obtain ⟨w₁, h₁, hb⟩ := Library.bind_eq_ok.mp hb
      obtain ⟨b₂, h₂, hb⟩ := Library.bind_eq_ok.mp hb
      obtain ⟨w₃, h₃, hb⟩ := Library.bind_eq_ok.mp hb
      obtain ⟨b₄, h₄, hp⟩ := Library.bind_eq_ok.mp hb
      obtain ⟨hmap, hgrows⟩ := grows_afterObjects h₃ h₄ hp hc
      refine ⟨_, List.mem_append_right _ List.mem_cons_self, rfl, hf, w₁, h₁, fun e he hr => ?_⟩
      obtain ⟨o, s, ho, hs, hname⟩ := createInstances_found h₂ he hr
      obtain ⟨s', hs', hsame⟩ := hgrows.object o s hs
      exact ⟨o, s', hmap ▸ ho, hs', hsame.name.trans hname⟩

/-! ## 2. Finding and ticking what was configured -/

/-- What the factory owes a completed `instantiateAll`. -/
structure Registered (w : World) (r : Built) : Prop where
  /-- `getInstance` returns the object created for the name. -/
  getInstance : ∀ e ∈ moduleEntries r.config,
    ∃ o, r.objects.lookup e.1 = some o ∧ w.getInstance r.factory e.1 = some o
  /-- `getAllInstances` has the names of the configuration. -/
  getAllInstances :
    ((w.getAllInstances r.factory).map Prod.fst).Perm ((moduleEntries r.config).map Prod.fst)
  /-- `startAllTicks` schedules one event for each of the objects, in the next cycle. -/
  startAllTicks : ∀ (Q : Library.PriorityQueue (Pending ObjId) Pending.key) (q : EventQueue Q),
    (w.startAllTicks r.factory q).pending = q.pending +
      (((moduleEntries r.config).filterMap fun e => r.objects.lookup e.1).map
        fun o => ⟨q.curCycle + 1, o⟩ : List (Pending ObjId))

theorem startAllTicks_pending {Q : Library.PriorityQueue (Pending ObjId) Pending.key} (w : World)
    (f : FactoryId) (q : EventQueue Q) :
    (w.startAllTicks f q).pending = q.pending +
      ((w.instances f).map fun e => ⟨q.curCycle + 1, e.2⟩ : List (Pending ObjId)) := by
  rw [World.startAllTicks, EventQueue.pending_scheduleAll, List.map_map]
  rfl

theorem registered_iff_noEntries {w : World} (h : w.NoInstances) (r : Built) :
    Registered w r ↔ moduleEntries r.config = [] := by
  have hi := World.instances_eq_nil h r.factory
  refine ⟨fun hr => ?_, fun he => ⟨?_, ?_, ?_⟩⟩
  · -- `getInstance` answers null for every entry
    refine List.eq_nil_iff_forall_not_mem.mpr fun e he => ?_
    obtain ⟨o, _, ho⟩ := hr.getInstance e he
    rw [World.getInstance, hi] at ho
    cases ho
  · intro e hmem
    rw [he] at hmem
    cases hmem
  · rw [World.getAllInstances, hi, he]
    exact List.Perm.refl []
  · intro Q q
    rw [startAllTicks_pending, hi, he]
    rfl

/-- **A configuration is found and ticked only when it has no module**, though its objects are
    created. This is so for every completed `instantiateAll` of a reachable world, nested or not. -/
theorem registered_iff {P : Platform} {fuel : Nat} {f : FactoryId} {config : Json} {w w' : World}
    (hw : w.Reachable P) (h : instantiateAll P fuel f config w = .ok w') :
    (∃ r ∈ w'.built, r.factory = f ∧ P.includeStep config = .ok r.config ∧
      ∃ w₁, loadPlugins P r.config w = .ok w₁ ∧
        ∀ e ∈ moduleEntries r.config, w₁.registries.has e.2 = true → r.Created w' e.1) ∧
    ∀ r ∈ w'.built, Registered w' r ↔ moduleEntries r.config = [] :=
  ⟨created_instantiateAll h, fun r _ =>
    registered_iff_noEntries (hw.instantiateAll h).noInstances r⟩

theorem registered_iff_oneModule :
    (∃ r ∈ testWorldBuilt.built, r.factory = 0 ∧
      (Platform.ofFiles [("one.json", oneModule)]).includeStep (.str "one.json") = .ok r.config ∧
      ∃ w₁, loadPlugins (Platform.ofFiles [("one.json", oneModule)]) r.config testWorld = .ok w₁ ∧
        ∀ e ∈ moduleEntries r.config, w₁.registries.has e.2 = true →
          r.Created testWorldBuilt e.1) ∧
    ∀ r ∈ testWorldBuilt.built, Registered testWorldBuilt r ↔ moduleEntries r.config = [] :=
  registered_iff (testWorld_reachable _) instantiateAll_oneModule

/-- `inst0` exists, and `getInstance("inst0")` is null. -/
theorem oneModule_not_registered :
    ∃ w' r, instantiateAll (Platform.ofFiles [("one.json", oneModule)]) 8 0 (.str "one.json")
        testWorld = .ok w' ∧ r ∈ w'.built ∧
      (moduleEntries r.config).map Prod.fst = ["inst0"] ∧ r.objects.lookup "inst0" = some 0 ∧
      w'.getInstance r.factory "inst0" = none ∧ ¬ Registered w' r := by
  refine ⟨testWorldBuilt, _, instantiateAll_oneModule, List.mem_singleton_self _, by decide,
    by decide, by decide, fun h => ?_⟩
  obtain ⟨o, _, ho⟩ := h.getInstance ("inst0", "TestModuleA") (by decide)
  cases ho

end Gem5Sc
