/-
  File:      Gem5Sc/ModuleFactory.lean
  Subject:   The construction of a system from its configuration: `ModuleFactory::instantiateAll`
             with `SimModule::instantiate` and `startAllTicks`.

  Everything that is `new`ed or static lives in a `World`: the objects, the `instances` map of
  every factory, the two registries, the table of groups and the `PortPair`s in the order of their
  construction. `Build` holds the two maps that are local to one `instantiateAll`. A `SimModule`
  has a factory of its own and calls its `instantiateAll`, so the recursion has fuel.

  What is outside the program is in `Platform`: `std::regex`, the files, the plugins and the
  iteration order of an `unordered_map`. The include step is there as well: what is proved about
  the other steps holds however the configuration is resolved. The program's own include step is
  `JsonIncluder.includeStep`.

  `built` is written for the reader of a run: every completed `instantiateAll`, with its resolved
  configuration and its `object_instances`.
-/
import Gem5Sc.PortManager
import Gem5Sc.EventQueue
import Gem5Sc.JsonIncluder
import Gem5Sc.Library.Fallible

namespace Gem5Sc

abbrev ObjId := Nat
abbrev FactoryId := Nat

/-- `struct ExposedPortConfig`. -/
structure ExposedPortConfig where
  internalPath : String
  externalLabel : String
  deriving DecidableEq, Repr

/-- The members a `SimModule` adds to a `SimObject`. -/
structure SimModule where
  internalFactory : FactoryId
  outputConfigs : List ExposedPortConfig := []
  inputConfigs : List ExposedPortConfig := []
  internalToExternalMap : List (String × String) := []
  deriving Repr

/-- A `SimObject`; `none` for the port manager that has not been asked for yet. -/
structure SimObject where
  name : String
  type : String
  ports : Option PortManager := none
  layout : Int × Int := (-1, -1)
  simModule : Option SimModule := none

/-- A registered class: the ports its constructor creates. -/
structure ClassInfo where
  ports : Option PortManager := none

/-- The two registries, by type name. -/
structure Registries where
  objects : List (String × ClassInfo) := []
  modules : List (String × ClassInfo) := []

/-- A port of an object. -/
structure PortRef where
  obj : ObjId
  index : Nat
  deriving DecidableEq, Repr

/-- A completed `instantiateAll`. -/
structure Built where
  factory : FactoryId
  config : Json
  objects : List (String × ObjId)

structure World where
  objects : List SimObject := []
  /-- The member `instances` of every factory. -/
  factories : List (List (String × ObjId)) := []
  registries : Registries := {}
  groups : List (String × List String) := []
  /-- The `PortPair`s: a downstream and an upstream port each. -/
  pairs : List (PortRef × PortRef) := []
  built : List Built := []

/-- What surrounds the program. -/
structure Platform where
  regex : RegexEngine
  files : JsonIncluder.Files
  /-- `json final_config = JsonIncluder::loadAndInclude(config)`. -/
  includeStep : Json → Except ConfigError Json
  /-- `DynamicLoader::loadPlugin`, which may register types. -/
  loadPlugin : String → Registries → Bool × Registries
  /-- The iteration order of `object_instances`. -/
  order : List (String × ObjId) → List (String × ObjId)
  order_perm : ∀ l, (order l).Perm l

/-- A platform with the given files and no plugins, and the program's own include step. -/
def Platform.ofFiles (files : List (String × Json)) : Platform where
  regex := plainRegex
  files name := (files.lookup name).map some
  includeStep := JsonIncluder.includeStep (fun name => (files.lookup name).map some) 16
  loadPlugin _ r := (false, r)
  order := id
  order_perm := List.Perm.refl

/-- The locals of `instantiateAll`. -/
structure Build where
  world : World
  objectInstances : List (String × ObjId) := []
  /-- A null pointer where `operator[]` has created the entry. -/
  moduleInstances : List (String × Option ObjId) := []

/-! ## 1. The factory's own members -/

namespace World

/-- `ModuleFactory factory(&eq)`. -/
def newFactory (w : World) : FactoryId × World :=
  (w.factories.length, { w with factories := w.factories ++ [[]] })

/-- The member `instances` of factory `f`. -/
def instances (w : World) (f : FactoryId) : List (String × ObjId) := w.factories.getD f []

/-- `getInstance`. -/
def getInstance (w : World) (f : FactoryId) (name : String) : Option ObjId :=
  (w.instances f).lookup name

/-- `getAllInstances`. -/
def getAllInstances (w : World) (f : FactoryId) : List (String × ObjId) := w.instances f

/-- `startAllTicks`: `initiate_tick` for every instance, a `TickEvent` in the next cycle each. -/
def startAllTicks {Q : Library.PriorityQueue (Pending ObjId) Pending.key} (w : World)
    (f : FactoryId) (q : EventQueue Q) : EventQueue Q :=
  q.scheduleAll ((w.instances f).map fun e => (e.2, 1))

/-- `new T(name, event_queue)` for a plain class. -/
def newObject (w : World) (name type : String) (c : ClassInfo) : ObjId × World :=
  (w.objects.length,
    { w with objects := w.objects ++ [{ name := name, type := type, ports := c.ports }] })

/-- `new T(name, event_queue)` for a subclass of `SimModule`, which creates its factory. -/
def newModule (w : World) (name type : String) (c : ClassInfo) : ObjId × World :=
  (w.objects.length,
    { w.newFactory.2 with
      objects := w.objects ++ [{ name := name, type := type, ports := c.ports,
                                 simModule := some { internalFactory := w.newFactory.1 } }] })

def modifyObject (w : World) (o : ObjId) (g : SimObject → SimObject) : World :=
  { w with objects := w.objects.modify o g }

/-- The object behind a `SimModule` pointer. -/
def simModuleOf (w : World) (o : ObjId) : Option SimModule :=
  (w.objects[o]?).bind SimObject.simModule

end World

/-! ## 2. Plugins, instances, groups -/

variable (P : Platform)

/-- Step 1: a plugin that fails to load is reported. -/
def loadPlugins (final : Json) (w : World) : Except ConfigError World :=
  (final.elemsIf "plugin").foldlM (fun w path => do
    let path ← path.asString
    return { w with registries := (P.loadPlugin path w.registries).2 }) w

/-- `object_instances[name]->setLayout(x, y)`. -/
def setLayout (b : Build) (name : String) (x y : Int) : Except ConfigError Build :=
  match b.objectInstances.lookup name with
  | none => .error .nullCall
  | some o => .ok { b with world := b.world.modifyObject o fun s => { s with layout := (x, y) } }

/-- The creation of one instance; an unknown type is reported. -/
def newInstance (b : Build) (name type : String) : Build :=
  match b.world.registries.modules.lookup type with
  | some c =>
      let x := b.world.newModule name type c
      { world := x.2, objectInstances := setKey b.objectInstances name x.1,
        moduleInstances := setKey b.moduleInstances name (some x.1) }
  | none =>
      match b.world.registries.objects.lookup type with
      | some c =>
          let x := b.world.newObject name type c
          { b with world := x.2, objectInstances := setKey b.objectInstances name x.1 }
      | none => b

/-- Step 2 for one entry of `modules`. -/
def createInstance (b : Build) (entry : Json) : Except ConfigError Build :=
  if entry.contains "name" ∧ entry.contains "type" then do
    let name ← entry.stringAt "name"
    let type ← entry.stringAt "type"
    let b := newInstance b name type
    match entry.field? "layout" with
    | none => return b
    | some l => do
        let x ← l.valueInt "x" (-1)
        let y ← l.valueInt "y" (-1)
        if x ≥ 0 ∧ y ≥ 0 then setLayout b name x y else return b
  else .ok b

/-- Step 2. -/
def createInstances (final : Json) (b : Build) : Except ConfigError Build := do
  let entries ← final.elemsAt "modules"
  entries.foldlM createInstance b

/-- Step 3: the table of groups is shared by all factories. -/
def defineGroups (final : Json) (w : World) : Except ConfigError World :=
  ((final.field? "groups").getD .null).items.foldlM (fun w g => do
    let members ← g.2.elems.mapM Json.asString
    return { w with groups := setKey w.groups g.1 members }) w

/-! ## 3. Internal configurations -/

/-- One entry of `outputs` or `inputs`, unless a part of it is empty. -/
def parsePortConfig (item : Json) : Except ConfigError (List ExposedPortConfig) := do
  let internal ← item.valueString "internal" ""
  let external ← item.valueString "external" ""
  return if internal ≠ "" ∧ external ≠ "" then [⟨internal, external⟩] else []

/-- `SimModule::parsePortConfigs`. -/
def parsePortConfigs (cfg : Json) (s : SimModule) : Except ConfigError SimModule := do
  let outputs ← (cfg.elemsIf "outputs").mapM parsePortConfig
  let inputs ← (cfg.elemsIf "inputs").mapM parsePortConfig
  return { s with
    outputConfigs := s.outputConfigs ++ outputs.flatten
    inputConfigs := s.inputConfigs ++ inputs.flatten
    internalToExternalMap := (outputs.flatten ++ inputs.flatten).foldl
      (fun m c => setKey m c.externalLabel c.internalPath) s.internalToExternalMap }

/-- `SimModule::findInternalPath`: the outputs, then the inputs. -/
def SimModule.findInternalPath (s : SimModule) (externalLabel : String) : String :=
  match (s.outputConfigs ++ s.inputConfigs).find? fun c => c.externalLabel = externalLabel with
  | some c => c.internalPath
  | none => ""

/-- `mod->findInternalPath(label)` through a pointer. -/
def findInternalPath (w : World) (ptr : Option ObjId) (label : String) :
    Except ConfigError String :=
  match ptr.bind w.simModuleOf with
  | some s => .ok (s.findInternalPath label)
  | none => .error .nullCall

/-- `SimModule::instantiate`; `nested` is `instantiateAll`. -/
def instantiateModule (nested : FactoryId → Json → World → Except ConfigError World) (o : ObjId)
    (s : SimModule) (cfg : Json) (w : World) : Except ConfigError World := do
  let w ← nested s.internalFactory cfg w
  let s ← parsePortConfigs cfg s
  return w.modifyObject o fun x => { x with simModule := some s }

/-- `module_instances[name]`, which creates a null entry where there is none. -/
def touchModule (b : Build) (name : String) : Build :=
  match b.moduleInstances.lookup name with
  | some _ => b
  | none => { b with moduleInstances := setKey b.moduleInstances name none }

/-- Step 4 for one entry of `modules`. -/
def instantiateEntry (nested : FactoryId → Json → World → Except ConfigError World) (b : Build)
    (entry : Json) : Except ConfigError Build :=
  match entry.field? "config" with
  | none => .ok b
  | some file => do
      let name ← entry.stringAt "name"
      let b := touchModule b name
      match (b.moduleInstances.lookup name).join with
      | none => return b
      | some o => do
          let file ← file.asString
          match P.files file, b.world.simModuleOf o with
          | none, _ => return b
          | some none, _ => .error .parseError
          | some (some _), none => return b
          | some (some cfg), some s => do
              let w ← instantiateModule nested o s cfg b.world
              return { b with world := w }

/-- Step 4. -/
def instantiateModules (nested : FactoryId → Json → World → Except ConfigError World)
    (final : Json) (b : Build) : Except ConfigError Build := do
  let entries ← final.elemsAt "modules"
  entries.foldlM (instantiateEntry P nested) b

/-! ## 4. Ports -/

/-- `struct PortCreationInfo`. -/
structure PortCreationInfo where
  ownerName : String
  portName : String
  bufferSizes : List Nat
  priorities : List Nat
  isUpstream : Bool
  deriving DecidableEq, Repr

/-- The default capacity with the configured ones behind it. -/
def bufferSizes (conn : Json) (key : String) : Except ConfigError (List Nat) := do
  let sizes ← (conn.elemsIf key).mapM Json.asSize
  return 4 :: sizes

/-- `vc_priorities`. -/
def vcPriorities (conn : Json) : Except ConfigError (List Nat) :=
  (conn.elemsIf "vc_priorities").mapM Json.asSize

/-- The port one end of a connection needs. `key` names the buffer sizes of that end; a plain
    upstream port gets no priorities. -/
def endpointPort (b : Build) (conn : Json) (spec key : String) (isUpstream : Bool) :
    Except ConfigError (List PortCreationInfo) :=
  let x := parsePortSpec spec
  if x.2 = "" then .ok []
  else
    match b.moduleInstances.lookup x.1 with
    | some ptr => do
        let path ← findInternalPath b.world ptr x.2
        if path = "" then return []
        let y := parsePortSpec path
        let sizes ← bufferSizes conn key
        let priorities ← vcPriorities conn
        return [⟨y.1, y.2, sizes, priorities, isUpstream⟩]
    | none => do
        let sizes ← bufferSizes conn key
        let priorities ← if isUpstream then pure [] else vcPriorities conn
        return [⟨x.1, x.2, sizes, priorities, isUpstream⟩]

/-- The first half of step 5 for one connection. -/
def portCreations (b : Build) (conn : Json) : Except ConfigError (List PortCreationInfo) :=
  if conn.contains "src" ∧ conn.contains "dst" then do
    let src ← conn.stringAt "src"
    let dst ← conn.stringAt "dst"
    let _ ← conn.valueInt "latency" 0
    let down ← endpointPort b conn src "output_buffer_sizes" false
    let up ← endpointPort b conn dst "input_buffer_sizes" true
    return down ++ up
  else .ok []

/-- The second half: one port, if its owner exists and has a port manager. -/
def createPort (objs : List (String × ObjId)) (w : World) (info : PortCreationInfo) : World :=
  match objs.lookup info.ownerName with
  | none => w
  | some o => w.modifyObject o fun s =>
      { s with ports := s.ports.map fun pm =>
          if info.isUpstream then
            pm.addUpstreamPort info.bufferSizes info.priorities info.portName
          else pm.addDownstreamPort info.bufferSizes info.priorities info.portName }

/-- Step 5. -/
def createPorts (final : Json) (b : Build) : Except ConfigError Build := do
  let conns ← final.elemsAt "connections"
  let infos ← conns.mapM (portCreations b)
  return { b with world := infos.flatten.foldl (createPort b.objectInstances) b.world }

/-! ## 5. Connections -/

namespace World

/-- The port of a plain instance, with `find` the search by label on its port manager. -/
def portOf (w : World) (objs : List (String × ObjId)) (find : PortManager → String → Option Nat)
    (name label : String) : Option PortRef := do
  let o ← objs.lookup name
  let s ← w.objects[o]?
  let pm ← s.ports
  let i ← find pm label
  return ⟨o, i⟩

/-- The downstream port of a plain instance. -/
def downstreamPort (w : World) (objs : List (String × ObjId)) : String → String → Option PortRef :=
  w.portOf objs PortManager.getDownstreamPort

/-- The upstream port of a plain instance. -/
def upstreamPort (w : World) (objs : List (String × ObjId)) : String → String → Option PortRef :=
  w.portOf objs PortManager.getUpstreamPort

/-- `new PortPair(src_port, dst_port); src_port->setDelay(latency)`. -/
def pair (w : World) (latency : Int) (src dst : PortRef) : World :=
  { w.modifyObject src.obj fun s => { s with ports := s.ports.map (·.setDelay src.index latency) }
    with pairs := w.pairs ++ [(src, dst)] }

/-- `src_port->getDelay()`. -/
def delayOf (w : World) (p : PortRef) : Option Int := do
  let s ← w.objects[p.obj]?
  let pm ← s.ports
  let d ← pm.downstreamPorts[p.index]?
  return d.delayCycles

end World

/-- The port a full name leads to, with `find` the lookup on a plain instance: through the label
    search of a SimModule, or directly. -/
def findPort (b : Build) (find : String → String → Option PortRef) (full : String) :
    Except ConfigError (Option PortRef) :=
  let x := parsePortSpec full
  if x.2 = "" then .ok none
  else
    match b.moduleInstances.lookup x.1 with
    | some ptr => do
        let path ← findInternalPath b.world ptr x.2
        if path = "" then return none
        let y := parsePortSpec path
        return find y.1 y.2
    | none => .ok (find x.1 x.2)

/-- The inner loop of step 6: one source port with every destination name. -/
def connectTo (b : Build) (latency : Int) (src : Option PortRef) (dstNames : List String) :
    Except ConfigError Build :=
  dstNames.foldlM (fun b dst => do
    let d ← findPort b (b.world.upstreamPort b.objectInstances) dst
    match src, d with
    | some s, some d => return { b with world := b.world.pair latency s d }
    | _, _ => return b) b

/-- The outer loop of step 6. -/
def connectFrom (b : Build) (latency : Int) (srcNames dstNames : List String) :
    Except ConfigError Build :=
  srcNames.foldlM (fun b src => do
    let s ← findPort b (b.world.downstreamPort b.objectInstances) src
    connectTo b latency s dstNames) b

/-- Step 6 for one connection. -/
def connect (b : Build) (conn : Json) : Except ConfigError Build :=
  if conn.contains "src" ∧ conn.contains "dst" then do
    let src ← conn.stringAt "src"
    let dst ← conn.stringAt "dst"
    let latency ← conn.valueInt "latency" 0
    let excludeList ← conn.valueOr "exclude" (.arr [])
    let names := (P.order b.objectInstances).map Prod.fst
    let srcNames ← filterExcluded P.regex (select P.regex b.world.groups names src) excludeList
    let dstNames ← filterExcluded P.regex (select P.regex b.world.groups names dst) excludeList
    connectFrom b latency srcNames dstNames
  else .ok b

/-- Step 6. -/
def connectAll (final : Json) (b : Build) : Except ConfigError Build := do
  let conns ← final.elemsAt "connections"
  conns.foldlM (connect P) b

/-! ## 6. All steps -/

/-- Steps 1 to 5: everything before the connections. `nested` is `instantiateAll`. -/
def prepare (nested : FactoryId → Json → World → Except ConfigError World) (final : Json)
    (w : World) : Except ConfigError Build := do
  let w ← loadPlugins P final w
  let b ← createInstances final { world := w }
  let w ← defineGroups final b.world
  let b ← instantiateModules P nested final { b with world := w }
  createPorts final b

/-- `ModuleFactory::instantiateAll` of factory `f`. -/
def instantiateAll : Nat → FactoryId → Json → World → Except ConfigError World
  | 0, _, _, _ => .error .outOfFuel
  | fuel + 1, f, config, w => do
      let final ← P.includeStep config
      let b ← prepare P (instantiateAll fuel) final w
      let b ← connectAll P final b
      return { b.world with
        built := b.world.built ++ [{ factory := f, config := final, objects := b.objectInstances }] }

end Gem5Sc
