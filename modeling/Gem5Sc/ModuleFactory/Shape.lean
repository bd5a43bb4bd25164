/-
  File:      Gem5Sc/ModuleFactory/Shape.lean
  Subject:   What the steps of `instantiateAll` read of a world, and two worlds that agree in it.

  No step reads the delay of a port, the `PortPair`s or the note of the completed calls. What is
  left is the `shape`: of a port manager the numbers of its ports and its two label maps. Two
  worlds of one shape are alike to every step (`Alike`), up to the table of groups, which is
  compared at the names `refs` only.
-/
import Gem5Sc.ModuleFactory.Objects

namespace Gem5Sc

/-! ## 1. Shapes -/

structure PortShape where
  upstream : Nat
  downstream : Nat
  upstreamMap : List (String × Nat)
  downstreamMap : List (String × Nat)

def PortManager.shape (pm : PortManager) : PortShape where
  upstream := pm.upstreamPorts.length
  downstream := pm.downstreamPorts.length
  upstreamMap := pm.upstreamMap
  downstreamMap := pm.downstreamMap

structure ObjectShape where
  name : String
  type : String
  ports : Option PortShape
  layout : Int × Int
  simModule : Option SimModule

def SimObject.shape (s : SimObject) : ObjectShape where
  name := s.name
  type := s.type
  ports := s.ports.map PortManager.shape
  layout := s.layout
  simModule := s.simModule

structure WorldShape where
  objects : List ObjectShape
  factories : List (List (String × ObjId))
  registries : Registries

def World.shape (w : World) : WorldShape where
  objects := w.objects.map SimObject.shape
  factories := w.factories
  registries := w.registries

namespace PortManager

theorem shape_setDelay (pm : PortManager) (i : Nat) (d : Int) : (pm.setDelay i d).shape = pm.shape := by
  unfold shape setDelay
  simp only [List.length_modify]

theorem shape_addPort (info : PortCreationInfo) {pm pm' : PortManager} (h : pm.shape = pm'.shape) :
    (addPort info pm).shape = (addPort info pm').shape := by
  unfold shape at h
  obtain ⟨hu, hd, hum, hdm⟩ := PortShape.mk.inj h
  unfold addPort shape
  split
  · simp only [addUpstreamPort, List.length_append, List.length_singleton, hu, hd, hum, hdm]
  · simp only [addDownstreamPort, List.length_append, List.length_singleton, hu, hd, hum, hdm]

/-- A search by label reads the shape only. -/
def ReadsShape (find : PortManager → String → Option Nat) : Prop :=
  ∀ pm pm' : PortManager, pm.shape = pm'.shape → find pm = find pm'

theorem readsShape_getUpstreamPort : ReadsShape getUpstreamPort := by
  intro pm pm' h
  obtain ⟨-, -, hum, -⟩ := PortShape.mk.inj h
  funext label
  exact congrArg (List.lookup label) hum

theorem readsShape_getDownstreamPort : ReadsShape getDownstreamPort := by
  intro pm pm' h
  obtain ⟨-, -, -, hdm⟩ := PortShape.mk.inj h
  funext label
  exact congrArg (List.lookup label) hdm

end PortManager

/-! ## 2. Worlds of one shape -/

namespace World

variable {w w' : World}

theorem shape_eq (h : w.shape = w'.shape) :
    w.objects.map SimObject.shape = w'.objects.map SimObject.shape ∧
      w.factories = w'.factories ∧ w.registries = w'.registries :=
  WorldShape.mk.inj h

theorem object_of_shape (h : w.shape = w'.shape) (o : ObjId) :
    (w.objects[o]?).map SimObject.shape = (w'.objects[o]?).map SimObject.shape := by
  rw [← List.getElem?_map, ← List.getElem?_map, (shape_eq h).1]

theorem length_of_shape (h : w.shape = w'.shape) : w.objects.length = w'.objects.length := by
  have hl := congrArg List.length (shape_eq h).1
  rwa [List.length_map, List.length_map] at hl

theorem simModuleOf_of_shape (h : w.shape = w'.shape) (o : ObjId) :
    w.simModuleOf o = w'.simModuleOf o := by
  have hs : ∀ v : World, v.simModuleOf o =
      ((v.objects[o]?).map SimObject.shape).bind ObjectShape.simModule := by
    intro v
    unfold simModuleOf
    cases v.objects[o]? with
    | none => rfl
    | some s => rfl
  rw [hs, hs, object_of_shape h]

theorem portOf_of_shape (h : w.shape = w'.shape) {find : PortManager → String → Option Nat}
    (hfind : PortManager.ReadsShape find) (objs : List (String × ObjId)) (name label : String) :
    w.portOf objs find name label = w'.portOf objs find name label := by
  unfold portOf
  cases objs.lookup name with
  | none => rfl
  | some o =>
      have ho := object_of_shape h o
      show ((w.objects[o]?).bind _) = ((w'.objects[o]?).bind _)
      cases hs : w.objects[o]? with
      | none =>
          rw [hs] at ho
          rw [Option.map_eq_none_iff.mp ho.symm]
      | some s =>
          rw [hs] at ho
          obtain ⟨s', hs', hshape⟩ := Option.map_eq_some_iff.mp ho.symm
          have hports : s'.ports.map PortManager.shape = s.ports.map PortManager.shape :=
            congrArg ObjectShape.ports hshape
          rw [hs', Option.bind_some, Option.bind_some]
          cases hp : s.ports with
          | none =>
              rw [hp] at hports
              rw [Option.map_eq_none_iff.mp hports]
          | some pm =>
              rw [hp] at hports
              obtain ⟨pm', hpm', hpshape⟩ := Option.map_eq_some_iff.mp hports
              rw [hpm']
              show (find pm label).bind _ = (find pm' label).bind _
              rw [hfind pm' pm hpshape]

theorem shape_modifyObject (h : w.shape = w'.shape) (o : ObjId) {g g' : SimObject → SimObject}
    (hg : ∀ s s' : SimObject, s.shape = s'.shape → (g s).shape = (g' s').shape) :
    (w.modifyObject o g).shape = (w'.modifyObject o g').shape := by
  obtain ⟨-, hf, hr⟩ := shape_eq h
  have hobj : (w.objects.modify o g).map SimObject.shape =
      (w'.objects.modify o g').map SimObject.shape := by
    refine List.ext_getElem? fun i => ?_
    have hi := object_of_shape h i
    rw [List.getElem?_map, List.getElem?_map, List.getElem?_modify, List.getElem?_modify]
    cases hs : w.objects[i]? with
    | none =>
        rw [hs] at hi
        rw [Option.map_eq_none_iff.mp hi.symm]
        rfl
    | some s =>
        rw [hs] at hi
        obtain ⟨s', hs', hshape⟩ := Option.map_eq_some_iff.mp hi.symm
        rw [hs']
        refine congrArg some ?_
        split
        · exact hg s s' hshape.symm
        · exact hshape.symm
  unfold shape
  simp only [modifyObject, hobj, hf, hr]

/-- Delays and pairs are not part of the shape. -/
theorem shape_pair (w : World) (latency : Int) (src dst : PortRef) :
    (w.pair latency src dst).shape = w.shape := by
  have hobj : ((w.pair latency src dst).objects).map SimObject.shape =
      w.objects.map SimObject.shape := by
    refine List.ext_getElem? fun i => ?_
    show (List.map SimObject.shape (w.objects.modify src.obj _))[i]? = _
    rw [List.getElem?_map, List.getElem?_map, List.getElem?_modify]
    cases w.objects[i]? with
    | none => rfl
    | some s =>
        refine congrArg some ?_
        split
        · unfold SimObject.shape
          simp only [Option.map_map]
          refine congrArg (fun p => (⟨s.name, s.type, p, s.layout, s.simModule⟩ : ObjectShape)) ?_
          exact congrArg (fun f => s.ports.map f)
            (funext fun pm => PortManager.shape_setDelay pm src.index latency)
        · rfl
  unfold shape
  rw [hobj]
  rfl

theorem shape_createPort (h : w.shape = w'.shape) (objs : List (String × ObjId))
    (info : PortCreationInfo) : (createPort objs w info).shape = (createPort objs w' info).shape := by
  unfold createPort
  cases objs.lookup info.ownerName with
  | none => exact h
  | some o =>
      refine shape_modifyObject h o fun s s' hs => ?_
      obtain ⟨hn, ht, hp, hl, hm⟩ := ObjectShape.mk.inj hs
      unfold SimObject.shape
      simp only [hn, ht, hl, hm, Option.map_map]
      refine congrArg (fun p => (⟨s'.name, s'.type, p, s'.layout, s'.simModule⟩ : ObjectShape)) ?_
      cases hps : s.ports with
      | none =>
          rw [hps] at hp
          have hps' : s'.ports = none := Option.map_eq_none_iff.mp hp.symm
          simp only [hps', Option.map_none]
      | some pm =>
          rw [hps] at hp
          obtain ⟨pm', hpm', hshape⟩ := Option.map_eq_some_iff.mp hp.symm
          rw [hpm']
          exact congrArg some (PortManager.shape_addPort info hshape.symm)

end World

/-! ## 3. Alike for every step -/

/-- One shape, and the same members for the groups of `refs`. -/
structure World.Alike (refs : String → Prop) (w w' : World) : Prop where
  shape : w.shape = w'.shape
  groups : ∀ G, refs G → w.groups.lookup G = w'.groups.lookup G

/-- The same for the locals of `instantiateAll`. -/
structure Build.Alike (refs : String → Prop) (b b' : Build) : Prop where
  world : b.world.Alike refs b'.world
  objectInstances : b.objectInstances = b'.objectInstances
  moduleInstances : b.moduleInstances = b'.moduleInstances

variable {refs : String → Prop}

theorem World.Alike.refl (w : World) : w.Alike refs w := ⟨rfl, fun _ _ => rfl⟩

namespace Build.Alike

variable {b b' : Build} (h : b.Alike refs b')

include h

theorem findInternalPath (ptr : Option ObjId) (label : String) :
    findInternalPath b.world ptr label = findInternalPath b'.world ptr label := by
  have hs : b.world.simModuleOf = b'.world.simModuleOf :=
    funext (World.simModuleOf_of_shape h.world.shape)
  rw [Gem5Sc.findInternalPath, Gem5Sc.findInternalPath, hs]

theorem findPort {find : PortManager → String → Option Nat} (hfind : PortManager.ReadsShape find)
    (full : String) :
    findPort b (b.world.portOf b.objectInstances find) full =
      findPort b' (b'.world.portOf b'.objectInstances find) full := by
  have hp : b.world.portOf b.objectInstances find = b'.world.portOf b'.objectInstances find := by
    funext name label
    rw [h.objectInstances]
    exact World.portOf_of_shape h.world.shape hfind _ name label
  simp only [Gem5Sc.findPort, h.moduleInstances, h.findInternalPath, hp]

theorem portCreations (conn : Json) : portCreations b conn = portCreations b' conn := by
  have he : ∀ spec key up, endpointPort b conn spec key up = endpointPort b' conn spec key up := by
    intro spec key up
    simp only [endpointPort, h.moduleInstances, h.findInternalPath]
  simp only [Gem5Sc.portCreations, he]

end Build.Alike

end Gem5Sc
