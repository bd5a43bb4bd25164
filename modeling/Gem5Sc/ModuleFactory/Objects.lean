/-
  File:      Gem5Sc/ModuleFactory/Objects.lean
  Subject:   Which objects an `instantiateAll` has in its map, and which ones the calls nested in
             it have.

  Objects are numbered in the order of their `new`. A call creates all objects of its own map in
  step 2 and enters step 4 only then, so the objects of every nested call have higher numbers
  (`prepareModules_numbers`). No object is in both maps, whatever names the configurations use.
-/
import Gem5Sc.ModuleFactory.Stable

namespace Gem5Sc

/-! ## 1. The state before the ports -/

/-- Steps 1 to 4. -/
def prepareModules (P : Platform) (nested : FactoryId → Json → World → Except ConfigError World)
    (final : Json) (w : World) : Except ConfigError Build := do
  let w ← loadPlugins P final w
  let b ← createInstances final { world := w }
  let w ← defineGroups final b.world
  instantiateModules P nested final { b with world := w }

theorem prepare_eq (P : Platform) (nested : FactoryId → Json → World → Except ConfigError World)
    (final : Json) (w : World) :
    prepare P nested final w = prepareModules P nested final w >>= createPorts final := by
  unfold prepare prepareModules
  simp only [bind_assoc]

/-! ## 2. The map of one call -/

/-- The objects of a map have numbers from `n` on and below `m`, and each has one name. -/
structure Numbered (objs : List (String × ObjId)) (n m : Nat) : Prop where
  between : ∀ name o, objs.lookup name = some o → n ≤ o ∧ o < m
  injective : ∀ name name' o, objs.lookup name = some o → objs.lookup name' = some o → name = name'

theorem Numbered.nil (n : Nat) : Numbered [] n n := by
  refine ⟨fun name o h => ?_, fun name name' o h => ?_⟩
  · cases h
  · cases h

theorem Numbered.mono {objs : List (String × ObjId)} {n m m' : Nat} (h : Numbered objs n m)
    (hm : m ≤ m') : Numbered objs n m' :=
  ⟨fun name o ho => ⟨(h.between name o ho).1, (h.between name o ho).2.trans_le hm⟩, h.injective⟩

/-- The next object under some name. -/
theorem Numbered.setKey {objs : List (String × ObjId)} {n m : Nat} (h : Numbered objs n m)
    (hnm : n ≤ m) (name : String) : Numbered (setKey objs name m) n (m + 1) := by
  have hcase : ∀ other o, (Gem5Sc.setKey objs name m).lookup other = some o →
      other = name ∧ o = m ∨ objs.lookup other = some o := by
    intro other o ho
    by_cases hk : other = name
    · subst hk
      rw [lookup_setKey_self, Option.some.injEq] at ho
      exact Or.inl ⟨rfl, ho.symm⟩
    · rw [lookup_setKey_of_ne _ _ hk] at ho
      exact Or.inr ho
  refine ⟨fun other o ho => ?_, fun other other' o ho ho' => ?_⟩
  · rcases hcase other o ho with ⟨-, rfl⟩ | ho
    · exact ⟨hnm, Nat.lt_succ_self o⟩
    · exact ⟨(h.between other o ho).1, Nat.lt_succ_of_lt (h.between other o ho).2⟩
  · rcases hcase other o ho with ⟨hn, hm⟩ | h1 <;> rcases hcase other' o ho' with ⟨hn', hm'⟩ | h2
    · exact hn.trans hn'.symm
    · exact absurd (h.between other' o h2).2 (hm ▸ Nat.lt_irrefl o)
    · exact absurd (h.between other o h1).2 (hm' ▸ Nat.lt_irrefl o)
    · exact h.injective other other' o h1 h2

/-- The invariant of step 2. -/
def Build.Fresh (n : Nat) (b : Build) : Prop :=
  n ≤ b.world.objects.length ∧ Numbered b.objectInstances n b.world.objects.length

theorem newInstance_fresh {n : Nat} {b : Build} (name type : String) (h : b.Fresh n) :
    (newInstance b name type).Fresh n := by
  have hgrow : ∀ (w : World) (s : SimObject) (m : List (String × Option ObjId)),
      w.objects = b.world.objects ++ [s] →
      Build.Fresh n { world := w, moduleInstances := m,
                      objectInstances := setKey b.objectInstances name b.world.objects.length } := by
    intro w s m hw
    have hlen : w.objects.length = b.world.objects.length + 1 := by
      rw [hw, List.length_append, List.length_singleton]
    refine ⟨?_, ?_⟩
    · show n ≤ w.objects.length
      rw [hlen]
      exact Nat.le_succ_of_le h.1
    · show Numbered (setKey b.objectInstances name b.world.objects.length) n w.objects.length
      rw [hlen]
      exact h.2.setKey h.1 name
  unfold newInstance
  split
  · exact hgrow _ _ _ rfl
  · split
    · exact hgrow _ _ _ rfl
    · exact h

theorem createInstance_fresh {n : Nat} {b b' : Build} {entry : Json} (hb : b.Fresh n)
    (h : createInstance b entry = .ok b') : b'.Fresh n := by
  rcases createInstance_cases h with ⟨-, rfl⟩ | ⟨name, type, -, -, rfl | ⟨o, l, rfl⟩⟩
  · exact hb
  · exact newInstance_fresh name type hb
  · have hnew := newInstance_fresh name type hb
    unfold Build.Fresh World.modifyObject at *
    rw [List.length_modify]
    exact hnew

theorem createInstances_fresh {n : Nat} {final : Json} {b b' : Build} (hb : b.Fresh n)
    (h : createInstances final b = .ok b') : b'.Fresh n := by
  obtain ⟨entries, _, h⟩ := Library.bind_eq_ok.mp h
  exact Library.foldlM_invariant (I := Build.Fresh n)
    (fun b entry _ b' hb h => createInstance_fresh hb h) hb h

/-! ## 3. What the creation of a port changes -/

/-- The port one `PortCreationInfo` adds. -/
def PortManager.addPort (info : PortCreationInfo) (pm : PortManager) : PortManager :=
  if info.isUpstream then pm.addUpstreamPort info.bufferSizes info.priorities info.portName
  else pm.addDownstreamPort info.bufferSizes info.priorities info.portName

/-- Only the owner changes, and of it only the ports. -/
theorem objects_createPort (objs : List (String × ObjId)) (w : World) (info : PortCreationInfo)
    (o : ObjId) : (createPort objs w info).objects[o]? = (w.objects[o]?).map fun s =>
      if objs.lookup info.ownerName = some o then
        { s with ports := s.ports.map (PortManager.addPort info) }
      else s := by
  unfold createPort
  cases hl : objs.lookup info.ownerName with
  | none =>
      simp only [reduceCtorEq, if_false]
      exact Option.map_id'.symm
  | some p =>
      show (w.objects.modify p _)[o]? = _
      rw [List.getElem?_modify]
      by_cases h : p = o
      · simp only [h, if_true]
        rfl
      · simp only [h, Option.some.injEq, if_false]
        rfl

/-- `hasPortManager` of an object. -/
def World.hasPortManager (w : World) (o : ObjId) : Bool :=
  ((w.objects[o]?).bind SimObject.ports).isSome

theorem hasPortManager_createPort (objs : List (String × ObjId)) (w : World)
    (info : PortCreationInfo) (o : ObjId) :
    (createPort objs w info).hasPortManager o = w.hasPortManager o := by
  unfold World.hasPortManager
  rw [objects_createPort]
  cases w.objects[o]? with
  | none => rfl
  | some s =>
      simp only [Option.map_some, Option.bind_some]
      split
      · exact Option.isSome_map
      · rfl

theorem simModuleOf_createPort (objs : List (String × ObjId)) (w : World)
    (info : PortCreationInfo) (o : ObjId) :
    (createPort objs w info).simModuleOf o = w.simModuleOf o := by
  unfold World.simModuleOf
  rw [objects_createPort]
  cases w.objects[o]? with
  | none => rfl
  | some s =>
      simp only [Option.map_some, Option.bind_some]
      split <;> rfl

/-- Step 5 leaves everything but the ports alone. -/
theorem createPorts_keeps {final : Json} {b b' : Build} (h : createPorts final b = .ok b') :
    b'.objectInstances = b.objectInstances ∧ b'.moduleInstances = b.moduleInstances ∧
      (∀ o, b'.world.hasPortManager o = b.world.hasPortManager o) ∧
      ∀ o, b'.world.simModuleOf o = b.world.simModuleOf o := by
  obtain ⟨conns, _, h⟩ := Library.bind_eq_ok.mp h
  obtain ⟨infos, _, h⟩ := Library.bind_eq_ok.mp h
  cases h
  refine ⟨rfl, rfl, fun o => ?_, fun o => ?_⟩
  · refine List.foldlRecOn
      (motive := fun w : World => w.hasPortManager o = b.world.hasPortManager o)
      infos.flatten _ rfl fun w hw info _ => ?_
    exact (hasPortManager_createPort _ w info o).trans hw
  · refine List.foldlRecOn (motive := fun w : World => w.simModuleOf o = b.world.simModuleOf o)
      infos.flatten _ rfl fun w hw info _ => ?_
    exact (simModuleOf_createPort _ w info o).trans hw

/-- An object without a port manager has no port to find. -/
theorem portOf_eq_none {w : World} {objs : List (String × ObjId)}
    {find : PortManager → String → Option Nat} {name : String} (label : String)
    (h : ∀ o, objs.lookup name = some o → w.hasPortManager o = false) :
    w.portOf objs find name label = none := by
  unfold World.portOf
  cases hl : objs.lookup name with
  | none => rfl
  | some o =>
      have ho := h o hl
      unfold World.hasPortManager at ho
      show ((w.objects[o]?).bind fun s => s.ports.bind _) = none
      rw [← Option.bind_assoc, Option.not_isSome_iff_eq_none.mp (Bool.eq_false_iff.mp ho)]
      rfl

/-! ## 4. Steps that leave the map alone -/

theorem instantiateEntry_objectInstances {P : Platform}
    {nested : FactoryId → Json → World → Except ConfigError World} {b b' : Build} {entry : Json}
    (h : instantiateEntry P nested b entry = .ok b') : b'.objectInstances = b.objectInstances := by
  have ht : ∀ name, (touchModule b name).objectInstances = b.objectInstances := by
    intro name
    unfold touchModule
    split <;> rfl
  unfold instantiateEntry at h
  split at h
  · cases h
    rfl
  · obtain ⟨name, _, h⟩ := Library.bind_eq_ok.mp h
    dsimp only at h
    split at h
    · cases h
      exact ht name
    · obtain ⟨file, _, h⟩ := Library.bind_eq_ok.mp h
      split at h
      · cases h
        exact ht name
      · cases h
      · cases h
        exact ht name
      · obtain ⟨w, _, h⟩ := Library.bind_eq_ok.mp h
        cases h
        exact ht name

theorem instantiateModules_objectInstances {P : Platform}
    {nested : FactoryId → Json → World → Except ConfigError World} {final : Json} {b b' : Build}
    (h : instantiateModules P nested final b = .ok b') :
    b'.objectInstances = b.objectInstances := by
  obtain ⟨entries, _, h⟩ := Library.bind_eq_ok.mp h
  exact Library.foldlM_invariant (I := fun c => c.objectInstances = b.objectInstances)
    (fun _ _ _ _ hc h => (instantiateEntry_objectInstances h).trans hc) rfl h

theorem connectAll_objectInstances {P : Platform} {final : Json} {b b' : Build}
    (h : connectAll P final b = .ok b') : b'.objectInstances = b.objectInstances := by
  have hpair : PairKept fun c => c.objectInstances = b.objectInstances := fun _ _ _ _ hc => hc
  exact hpair.connectAll rfl h

/-! ## 5. The maps of nested calls -/

/-- The calls completed since the first `k` have objects from number `n` on only. -/
structure World.Later (n k : Nat) (w : World) : Prop where
  objects : n ≤ w.objects.length
  built : k ≤ w.built.length
  later : ∀ r ∈ w.built.drop k, ∀ name o, r.objects.lookup name = some o → n ≤ o

theorem stepStable_later (n k : Nat) : StepStable (World.Later n k) where
  newObject w _ _ _ h := by
    refine ⟨?_, h.built, h.later⟩
    show n ≤ (w.objects ++ [_]).length
    rw [List.length_append]
    exact Nat.le_add_right_of_le h.objects
  newModule w _ _ _ h := by
    refine ⟨?_, h.built, h.later⟩
    show n ≤ (w.objects ++ [_]).length
    rw [List.length_append]
    exact Nat.le_add_right_of_le h.objects
  modifyObject w o g h := by
    refine ⟨?_, h.built, h.later⟩
    show n ≤ (w.objects.modify o g).length
    rw [List.length_modify]
    exact h.objects
  registries _ _ h := ⟨h.objects, h.built, h.later⟩
  groups _ _ h := ⟨h.objects, h.built, h.later⟩
  pairs _ _ h := ⟨h.objects, h.built, h.later⟩

/-- The induction is on the nesting depth: the call's own record is the last one. -/
theorem instantiateAll_later {P : Platform} {n k fuel : Nat} {f : FactoryId} {config : Json}
    {w w' : World} (hw : w.Later n k) (h : instantiateAll P fuel f config w = .ok w') :
    w'.Later n k := by
  induction fuel generalizing f config w w' with
  | zero => cases h
  | succ fuel ih =>
      obtain ⟨final, _, h⟩ := Library.bind_eq_ok.mp h
      obtain ⟨b, hp, h⟩ := Library.bind_eq_ok.mp h
      obtain ⟨b', hc, h⟩ := Library.bind_eq_ok.mp h
      cases h
      have hl := (stepStable_later n k).kept
      have hb' := hl.connectAll (hl.prepare (fun _ _ _ _ => ih) hw hp) hc
      -- the map of this call
      have hmap : ∀ name o, b'.objectInstances.lookup name = some o → n ≤ o := by
        obtain ⟨w1, h1, hp⟩ := Library.bind_eq_ok.mp hp
        obtain ⟨b2, h2, hp⟩ := Library.bind_eq_ok.mp hp
        obtain ⟨w3, _, hp⟩ := Library.bind_eq_ok.mp hp
        obtain ⟨b4, h4, hp⟩ := Library.bind_eq_ok.mp hp
        have hstart : Build.Fresh w1.objects.length { world := w1 } := ⟨le_refl _, Numbered.nil _⟩
        have hfresh := createInstances_fresh hstart h2
        intro name o ho
        rw [connectAll_objectInstances hc, (createPorts_keeps hp).1,
          instantiateModules_objectInstances h4] at ho
        exact (hl.loadPlugins hw h1).objects.trans (hfresh.2.between name o ho).1
      refine ⟨hb'.objects, ?_, fun r hr => ?_⟩
      · rw [List.length_append]
        exact Nat.le_add_right_of_le hb'.built
      · rw [List.drop_append_of_le_length hb'.built] at hr
        rcases List.mem_append.mp hr with hr | hr
        · exact hb'.later r hr
        · rw [List.mem_singleton.mp hr]
          exact hmap

theorem stepStable_built (bs : List Built) : StepStable fun w => w.built = bs where
  newObject _ _ _ _ h := h
  newModule _ _ _ _ h := h
  modifyObject _ _ _ h := h
  registries _ _ h := h
  groups _ _ h := h
  pairs _ _ h := h

/-- **The numbers of the objects.** All objects of the call's map are numbered below some `n`,
    and all objects of the calls nested in its step 4 from `n` on. -/
theorem prepareModules_numbers {P : Platform} {fuel : Nat} {final : Json} {w : World} {b : Build}
    (h : prepareModules P (instantiateAll P fuel) final w = .ok b) :
    ∃ n, Numbered b.objectInstances 0 n ∧
      ∀ r ∈ b.world.built.drop w.built.length, ∀ name o, r.objects.lookup name = some o → n ≤ o := by
  obtain ⟨w1, h1, h⟩ := Library.bind_eq_ok.mp h
  obtain ⟨b2, h2, h⟩ := Library.bind_eq_ok.mp h
  obtain ⟨w3, h3, h4⟩ := Library.bind_eq_ok.mp h
  have hstart : Build.Fresh 0 { world := w1 } := by
    refine ⟨Nat.zero_le _, fun name o h => ?_, fun name name' o h => ?_⟩
    · cases h
    · cases h
  have hfresh := createInstances_fresh hstart h2
  have hk := (stepStable_built w.built).kept
  have hbuilt : b2.world.built = w.built :=
    hk.createInstances (b := { world := w1 }) (hk.loadPlugins rfl h1) h2
  have hl := (stepStable_later b2.world.objects.length w.built.length).kept
  have hlater : World.Later b2.world.objects.length w.built.length w3 := by
    refine hl.defineGroups ⟨le_refl _, (congrArg List.length hbuilt).ge, fun r hr => ?_⟩ h3
    rw [hbuilt, List.drop_length] at hr
    cases hr
  refine ⟨b2.world.objects.length, ?_, ?_⟩
  · rw [instantiateModules_objectInstances h4]
    exact hfresh.2
  · have hb := hl.instantiateModules (b := { b2 with world := w3 })
      (fun _ _ _ _ hw h => instantiateAll_later hw h) hlater h4
    exact hb.later

end Gem5Sc
