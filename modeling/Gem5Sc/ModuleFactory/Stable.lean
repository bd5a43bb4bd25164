/-
  File:      Gem5Sc/ModuleFactory/Stable.lean
  Subject:   What a whole `instantiateAll` keeps, at every nesting depth.

  Every step changes the world through few operations: `new`, a write to an object or to one of
  the static tables, a `PortPair`. A property that none of them breaks (`StepStable`; `StepKept`
  where it matters that a SimModule stays one), nor the note of a completed call (`Stable`), holds
  after `instantiateAll` when it held before (`Stable.instantiateAll`).
-/
import Gem5Sc.ModuleFactory

namespace Gem5Sc

/-- No single change a step makes to the world breaks `I`. -/
structure StepStable (I : World → Prop) : Prop where
  newObject : ∀ w name type c, I w → I (w.newObject name type c).2
  newModule : ∀ w name type c, I w → I (w.newModule name type c).2
  modifyObject : ∀ w o g, I w → I (w.modifyObject o g)
  registries : ∀ (w : World) r, I w → I { w with registries := r }
  groups : ∀ (w : World) g, I w → I { w with groups := g }
  pairs : ∀ (w : World) p, I w → I { w with pairs := p }

/-- No single change of the world breaks `I`. -/
structure Stable (I : World → Prop) : Prop extends StepStable I where
  built : ∀ (w : World) b, I w → I { w with built := b }

/-- A change of an object that leaves a SimModule one. -/
def KeepsSimModule (g : SimObject → SimObject) : Prop :=
  ∀ s, s.simModule.isSome = true → (g s).simModule.isSome = true

/-- No single change a step makes to the world breaks `I`, if no SimModule ends being one. -/
structure StepKept (I : World → Prop) : Prop where
  newObject : ∀ w name type c, I w → I (w.newObject name type c).2
  newModule : ∀ w name type c, I w → I (w.newModule name type c).2
  modifyObject : ∀ w o g, KeepsSimModule g → I w → I (w.modifyObject o g)
  registries : ∀ (w : World) r, I w → I { w with registries := r }
  groups : ∀ (w : World) g, I w → I { w with groups := g }
  pairs : ∀ (w : World) p, I w → I { w with pairs := p }

theorem StepStable.kept {I : World → Prop} (h : StepStable I) : StepKept I :=
  { h with modifyObject := fun w o g _ => h.modifyObject w o g }

/-- **What one entry of `modules` does**: nothing, or a new instance, perhaps with its layout. -/
theorem createInstance_cases {b b' : Build} {entry : Json}
    (h : createInstance b entry = .ok b') :
    (¬ (entry.contains "name" = true ∧ entry.contains "type" = true) ∧ b' = b) ∨
    ∃ name type, entry.stringAt "name" = .ok name ∧ entry.stringAt "type" = .ok type ∧
      (b' = newInstance b name type ∨
        ∃ o l, b' = { newInstance b name type with
          world := (newInstance b name type).world.modifyObject o fun s =>
            { s with layout := l } }) := by
  unfold createInstance at h
  split at h
  · obtain ⟨name, hname, h⟩ := Library.bind_eq_ok.mp h
    obtain ⟨type, htype, h⟩ := Library.bind_eq_ok.mp h
    refine Or.inr ⟨name, type, hname, htype, ?_⟩
    split at h
    · cases h
      exact Or.inl rfl
    · obtain ⟨x, _, h⟩ := Library.bind_eq_ok.mp h
      obtain ⟨y, _, h⟩ := Library.bind_eq_ok.mp h
      split at h
      · unfold setLayout at h
        split at h
        · cases h
        · cases h
          exact Or.inr ⟨_, (x, y), rfl⟩
      · cases h
        exact Or.inl rfl
  · next hnot =>
      cases h
      exact Or.inl ⟨hnot, rfl⟩

/-! ## 1. The rule of step 6 -/

/-- No pairing of two ports breaks `I`. -/
def PairKept (I : Build → Prop) : Prop :=
  ∀ b latency src dst, I b → I { b with world := b.world.pair latency src dst }

namespace PairKept

variable {P : Platform} {I : Build → Prop} (hI : PairKept I)

include hI

theorem connectTo {b b' : Build} {latency : Int} {src : Option PortRef} {dstNames : List String}
    (hb : I b) (h : connectTo b latency src dstNames = .ok b') : I b' := by
  refine Library.foldlM_invariant (fun b dst _ b' hb h => ?_) hb h
  obtain ⟨d, _, h⟩ := Library.bind_eq_ok.mp h
  split at h
  · cases h
    exact hI b latency _ _ hb
  · cases h
    exact hb

theorem connect {b b' : Build} {conn : Json} (hb : I b) (h : connect P b conn = .ok b') :
    I b' := by
  unfold Gem5Sc.connect at h
  split at h
  · obtain ⟨src, _, h⟩ := Library.bind_eq_ok.mp h
    obtain ⟨dst, _, h⟩ := Library.bind_eq_ok.mp h
    obtain ⟨latency, _, h⟩ := Library.bind_eq_ok.mp h
    obtain ⟨excludeList, _, h⟩ := Library.bind_eq_ok.mp h
    obtain ⟨srcNames, _, h⟩ := Library.bind_eq_ok.mp h
    obtain ⟨dstNames, _, h⟩ := Library.bind_eq_ok.mp h
    refine Library.foldlM_invariant (fun b src _ b' hb h => ?_) hb h
    obtain ⟨s, _, h⟩ := Library.bind_eq_ok.mp h
    exact hI.connectTo hb h
  · cases h
    exact hb

/-- Any number of connections. -/
theorem connections {conns : List Json} {b b' : Build} (hb : I b)
    (h : conns.foldlM (Gem5Sc.connect P) b = .ok b') : I b' :=
  Library.foldlM_invariant (fun _ _ _ _ hb h => hI.connect hb h) hb h

theorem connectAll {final : Json} {b b' : Build} (hb : I b)
    (h : connectAll P final b = .ok b') : I b' := by
  obtain ⟨conns, _, h⟩ := Library.bind_eq_ok.mp h
  exact hI.connections hb h

end PairKept

namespace StepKept

variable {P : Platform} {I : World → Prop} (hI : StepKept I)

include hI

/-! ## 2. Steps 1 to 3 -/

theorem loadPlugins {final : Json} {w w' : World} (hw : I w)
    (h : loadPlugins P final w = .ok w') : I w' := by
  refine Library.foldlM_invariant (fun w path _ w' hw h => ?_) hw h
  obtain ⟨s, _, h⟩ := Library.bind_eq_ok.mp h
  cases h
  exact hI.registries w _ hw

theorem newInstance {b : Build} (name type : String) (hb : I b.world) :
    I (newInstance b name type).world := by
  unfold Gem5Sc.newInstance
  split
  · exact hI.newModule b.world name type _ hb
  · split
    · exact hI.newObject b.world name type _ hb
    · exact hb

theorem createInstance {b b' : Build} {entry : Json} (hb : I b.world)
    (h : createInstance b entry = .ok b') : I b'.world := by
  rcases createInstance_cases h with ⟨-, rfl⟩ | ⟨name, type, -, -, rfl | ⟨o, l, rfl⟩⟩
  · exact hb
  · exact hI.newInstance name type hb
  · exact hI.modifyObject _ _ _ (fun _ hs => hs) (hI.newInstance name type hb)

theorem createInstances {final : Json} {b b' : Build} (hb : I b.world)
    (h : createInstances final b = .ok b') : I b'.world := by
  obtain ⟨entries, _, h⟩ := Library.bind_eq_ok.mp h
  exact Library.foldlM_invariant (I := fun b => I b.world)
    (fun b entry _ b' hb h => hI.createInstance hb h) hb h

theorem defineGroups {final : Json} {w w' : World} (hw : I w)
    (h : defineGroups final w = .ok w') : I w' := by
  refine Library.foldlM_invariant (fun w g _ w' hw h => ?_) hw h
  obtain ⟨members, _, h⟩ := Library.bind_eq_ok.mp h
  cases h
  exact hI.groups w _ hw

/-! ## 3. Step 4, with a nested `instantiateAll` that keeps the property -/

section Nested

variable {nested : FactoryId → Json → World → Except ConfigError World}
  (hn : ∀ f cfg w w', I w → nested f cfg w = .ok w' → I w')

include hn

theorem instantiateModule {o : ObjId} {s : SimModule} {cfg : Json} {w w' : World} (hw : I w)
    (h : instantiateModule nested o s cfg w = .ok w') : I w' := by
  obtain ⟨w1, h1, h⟩ := Library.bind_eq_ok.mp h
  obtain ⟨s', _, h⟩ := Library.bind_eq_ok.mp h
  cases h
  exact hI.modifyObject w1 _ _ (fun _ _ => rfl) (hn _ _ _ _ hw h1)

theorem instantiateEntry {b b' : Build} {entry : Json} (hb : I b.world)
    (h : instantiateEntry P nested b entry = .ok b') : I b'.world := by
  have ht : ∀ name, (touchModule b name).world = b.world := by
    intro name
    unfold touchModule
    split <;> rfl
  unfold Gem5Sc.instantiateEntry at h
  split at h
  · cases h
    exact hb
  · obtain ⟨name, _, h⟩ := Library.bind_eq_ok.mp h
    rw [← ht name] at hb
    dsimp only at h
    split at h
    · cases h
      exact hb
    · obtain ⟨file, _, h⟩ := Library.bind_eq_ok.mp h
      split at h
      · cases h
        exact hb
      · cases h
      · cases h
        exact hb
      · obtain ⟨w, hw, h⟩ := Library.bind_eq_ok.mp h
        cases h
        exact hI.instantiateModule hn hb hw

theorem instantiateModules {final : Json} {b b' : Build} (hb : I b.world)
    (h : instantiateModules P nested final b = .ok b') : I b'.world := by
  obtain ⟨entries, _, h⟩ := Library.bind_eq_ok.mp h
  exact Library.foldlM_invariant (I := fun b => I b.world)
    (fun b entry _ b' hb h => hI.instantiateEntry hn hb h) hb h

end Nested

/-! ## 4. Steps 5 and 6, and all steps before the connections -/

theorem createPorts {final : Json} {b b' : Build} (hb : I b.world)
    (h : createPorts final b = .ok b') : I b'.world := by
  obtain ⟨conns, _, h⟩ := Library.bind_eq_ok.mp h
  obtain ⟨infos, _, h⟩ := Library.bind_eq_ok.mp h
  cases h
  refine List.foldlRecOn (motive := I) infos.flatten _ hb fun w hw info _ => ?_
  unfold createPort
  split
  · exact hw
  · exact hI.modifyObject w _ _ (fun _ hs => hs) hw

theorem pair {w : World} (latency : Int) (src dst : PortRef) (hw : I w) :
    I (w.pair latency src dst) :=
  hI.pairs _ _ (hI.modifyObject w _ _ (fun _ hs => hs) hw)

theorem connectAll {final : Json} {b b' : Build} (hb : I b.world)
    (h : connectAll P final b = .ok b') : I b'.world := by
  have hpair : PairKept fun b : Build => I b.world := fun b latency src dst hb =>
    hI.pair latency src dst hb
  exact hpair.connectAll hb h

theorem prepare {nested : FactoryId → Json → World → Except ConfigError World}
    (hn : ∀ f cfg w w', I w → nested f cfg w = .ok w' → I w') {final : Json} {w : World}
    {b : Build} (hw : I w) (h : prepare P nested final w = .ok b) : I b.world := by
  obtain ⟨w1, h1, h⟩ := Library.bind_eq_ok.mp h
  obtain ⟨b2, h2, h⟩ := Library.bind_eq_ok.mp h
  obtain ⟨w3, h3, h⟩ := Library.bind_eq_ok.mp h
  obtain ⟨b4, h4, h⟩ := Library.bind_eq_ok.mp h
  have hw1 := hI.loadPlugins hw h1
  have hb2 := hI.createInstances (b := { world := w1 }) hw1 h2
  have hw3 := hI.defineGroups hb2 h3
  have hb4 := hI.instantiateModules hn (b := { b2 with world := w3 }) hw3 h4
  exact hI.createPorts hb4 h

end StepKept

/-! ## 5. All steps -/

/-- **The invariant rule of `instantiateAll`.** The induction is on the nesting depth. -/
theorem StepKept.instantiateAll {P : Platform} {I : World → Prop} (hI : StepKept I)
    (hbuilt : ∀ (w : World) b, I w → I { w with built := b }) {fuel : Nat} {f : FactoryId}
    {config : Json} {w w' : World} (hw : I w) (h : instantiateAll P fuel f config w = .ok w') :
    I w' := by
  induction fuel generalizing f config w w' with
  | zero => cases h
  | succ fuel ih =>
      obtain ⟨final, _, h⟩ := Library.bind_eq_ok.mp h
      obtain ⟨b, hp, h⟩ := Library.bind_eq_ok.mp h
      obtain ⟨b', hc, h⟩ := Library.bind_eq_ok.mp h
      cases h
      exact hbuilt _ _ (hI.connectAll (hI.prepare (fun _ _ _ _ => ih) hw hp) hc)

theorem Stable.instantiateAll {P : Platform} {I : World → Prop} (hI : Stable I) {fuel : Nat}
    {f : FactoryId} {config : Json} {w w' : World} (hw : I w)
    (h : instantiateAll P fuel f config w = .ok w') : I w' :=
  hI.toStepStable.kept.instantiateAll hI.built hw h

end Gem5Sc
