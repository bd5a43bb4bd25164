/-
  File:      Gem5Sc/Topology.lean
  Subject:   `TopologyDumper::dumpToDot`: the instances of a factory, the groups of all factories
             and the links between ports, written as a graph.

  The three come from different places. `getAllInstances` and `getInstance` know the instances of
  one factory. The table of groups is shared by all factories of the process, and its members are
  any strings. `wires` says which port of which object a port is bound to.

  `layout o` is the member `layout` of object `o`, as doubles: the construction sets integers, and
  `setLayout` takes any. An exception or a call through a null pointer ends the dump with an error.
  The constant head of the file and the closing brace are left out, and so is the local map
  `node_to_group`, which nothing reads.
-/
import Gem5Sc.Layout
import Gem5Sc.ModuleFactory.PortPairs

namespace Gem5Sc

open Double (lit)

/-- How a dump can end early. -/
inductive DumpError where
  | config (e : ConfigError)
  /-- `std::out_of_range` of `positions.at`. -/
  | outOfRange
  deriving DecidableEq, Repr

/-- What is written to the file, after its head. -/
inductive DotStatement (F : Type) where
  /-- A node with its type, its coordinates if it gets any, and whether they are marked with `!`. -/
  | node (name type : String) (pos : Option (F × F)) (pinned : Bool)
  | cluster (groupName : String) (members : List String)
  | edge (src dst : String) (delay : Int)

/-- An edge between the two names of `e`. -/
def DotStatement.isEdge {F : Type} (e : String × String) : DotStatement F → Bool
  | .edge src dst _ => (src, dst) == e
  | _ => false

/-! ## 1. Objects and ports -/

/-- `getName`. -/
def World.nameOf (w : World) (o : ObjId) : String := (w.objects[o]?).elim "" SimObject.name

/-- `getPortManager`; when there is none, it creates one that has no ports. -/
def World.portManagerOf (w : World) (o : ObjId) : Option PortManager :=
  (w.objects[o]?).bind SimObject.ports

/-- `getDownstreamPorts`, as pointers. -/
def World.downstreamPortsOf (w : World) (o : ObjId) : List AnyPort :=
  let n := (w.portManagerOf o).elim 0 fun pm => pm.downstreamPorts.length
  (List.range n).map fun i => .downstream ⟨o, i⟩

/-- `getUpstreamPorts`, as pointers. -/
def World.upstreamPortsOf (w : World) (o : ObjId) : List AnyPort :=
  let n := (w.portManagerOf o).elim 0 fun pm => pm.upstreamPorts.length
  (List.range n).map fun i => .upstream ⟨o, i⟩

/-- The object of a port. -/
def AnyPort.owner : AnyPort → ObjId
  | .downstream p => p.obj
  | .upstream p => p.obj

/-- `dynamic_cast<SlavePort*>`. -/
def AnyPort.asSlave : AnyPort → Option AnyPort
  | .downstream _ => none
  | .upstream p => some (.upstream p)

/-- `getDelay`. -/
def AnyPort.delay (w : World) : AnyPort → Int
  | .downstream p => (w.delayOf p).getD 0
  | .upstream _ => 0

/-- `ModuleGroup::getMembers`. -/
def World.getMembers (w : World) (groupName : String) : List String :=
  (w.groups.lookup groupName).getD []

/-- `ModuleGroup::getAllGroupNames`. -/
def World.getAllGroupNames (w : World) : List String := w.groups.map Prod.fst

/-- `layout.valid()`. -/
def validLayout {F : Type} [Double F] (l : F × F) : Bool :=
  Double.nonneg l.1 && Double.nonneg l.2

namespace TopologyDumper

variable {F : Type} [Add F] [Sub F] [Mul F] [Div F] [Double F]

/-! ## 2. The edges -/

/-- `findOwner`. -/
def findOwner (w : World) (f : FactoryId) (port : Option AnyPort) : Option ObjId :=
  ((w.getAllInstances f).find? fun e =>
    (w.upstreamPortsOf e.2).any fun p => some p = port).map Prod.snd

/-- The downstream ports of all instances, with the name of the instance. -/
def sources (w : World) (f : FactoryId) : List (String × AnyPort) :=
  (w.getAllInstances f).flatMap fun e => (w.downstreamPortsOf e.2).map fun p => (e.1, p)

/-- The body of the loop over them, with `edge_set` and `all_edges`. -/
def collectEdge (w : World) (wires : Wiring AnyPort) (f : FactoryId)
    (s : List String × List (String × String)) (x : String × AnyPort) :
    List String × List (String × String) :=
  match wires.target x.2 with
  | none => s
  | some peer =>
      match findOwner w f peer.asSlave with
      | none => s
      | some dst =>
          let key := x.1 ++ "->" ++ w.nameOf dst
          if s.1.contains key then s else (key :: s.1, s.2 ++ [(x.1, w.nameOf dst)])

/-- `all_edges`. -/
def allEdges (w : World) (wires : Wiring AnyPort) (f : FactoryId) : List (String × String) :=
  ((sources w f).foldl (collectEdge w wires f) ([], [])).2

/-! ## 3. The layout -/

/-- `getInstance`, with a member function called on the result. -/
def callInstance (w : World) (f : FactoryId) (name : String) : Except DumpError ObjId :=
  match w.getInstance f name with
  | some o => .ok o
  | none => .error (.config .nullCall)

/-- `getGroupPlacement`. -/
def getGroupPlacement (config : Json) (groupName defaultVal : String) :
    Except ConfigError String :=
  match config.field? "groups" with
  | none => .ok defaultVal
  | some groups =>
      match (groups.field? groupName).bind fun it => it.field? "placement" with
      | some v => v.asString
      | none => .ok defaultVal

def width : F := lit 800

def height : F := lit 600

/-- One round of the loop that adds the nodes. -/
def addInstance (w : World) (f : FactoryId) (layout : ObjId → F × F)
    (s : ForceDirectedLayout F) (node : String) : Except DumpError (ForceDirectedLayout F) := do
  let o ← callInstance w f node
  let l := layout o
  return s.addNode node (if validLayout l then l.1 else lit (-1))
    (if validLayout l then l.2 else lit (-1))

/-- `layout_engine.setGroup` for a member without a layout of its own. -/
def registerMember (w : World) (f : FactoryId) (layout : ObjId → F × F) (groupName : String)
    (s : ForceDirectedLayout F) (member : String) :
    Except DumpError (ForceDirectedLayout F) := do
  let o ← callInstance w f member
  return if validLayout (layout o) then s else s.setGroup member groupName

/-- One round of the loop over the groups. -/
def placeGroup (w : World) (f : FactoryId) (layout : ObjId → F × F) (config : Json)
    (s : ForceDirectedLayout F) (groupName : String) :
    Except DumpError (ForceDirectedLayout F) := do
  let members := w.getMembers groupName
  let placement ← (getGroupPlacement config groupName "circle").mapError .config
  let s :=
    if placement ∈ ["grid", "linear", "radial", "circle"] then
      s.setGroupPlacement groupName members placement (width / lit 2) (height / lit 2) (lit 120)
    else s
  members.foldlM (registerMember w f layout groupName) s

/-- The part of `dumpToDot` that computes the layout. -/
def computeLayout (H : HashOrder) (w : World) (layout : ObjId → F × F) (f : FactoryId)
    (config : Json) (style : String) : Except DumpError (ForceDirectedLayout F) := do
  let s ← ((w.getAllInstances f).map Prod.fst).foldlM (addInstance w f layout) .new
  let s := if style = "auto" then s.setInitialPlacement (fun _ => (0, 0)) "grid" width height
    else s
  let s ← w.getAllGroupNames.foldlM (placeGroup w f layout config) s
  return if style = "auto" then s.run H width height else s

/-! ## 4. The statements -/

/-- `getModuleType`. -/
def getModuleType (_obj : Option ObjId) : String := "Module"

/-- The statement of a node. -/
def nodeStatement (w : World) (f : FactoryId) (layout : ObjId → F × F) (style : String)
    (s : ForceDirectedLayout F) (node : String) : Except DumpError (DotStatement F) :=
  match s.positions node with
  | none => .error .outOfRange
  | some pos =>
      let type := getModuleType (w.getInstance f node)
      if style = "manual" then do
        let o ← callInstance w f node
        let l := layout o
        return .node node type (if validLayout l then some l else none) (validLayout l)
      else .ok (.node node type (some (pos.x, pos.y)) false)

/-- The port is bound, and the port at the other end belongs to an object with that name. -/
def leadsTo (w : World) (wires : Wiring AnyPort) (dst : String) (port : AnyPort) : Bool :=
  match wires.bound port with
  | none => false
  | some (n, side) =>
      match wires.pairs[n]? with
      | none => false
      | some pair =>
          side = 0 && w.nameOf pair.sideB.owner = dst || side = 1 && w.nameOf pair.sideA.owner = dst

/-- The statement of an edge, with the delay of the first port that leads there. -/
def edgeStatement (w : World) (wires : Wiring AnyPort) (f : FactoryId) (e : String × String) :
    Except DumpError (DotStatement F) := do
  let o ← callInstance w f e.1
  let port := (w.downstreamPortsOf o).find? (leadsTo w wires e.2)
  return .edge e.1 e.2 (port.elim 0 (AnyPort.delay w))

/-- `dumpToDot`; `opens` says whether the file can be opened. -/
def dumpToDot (H : HashOrder) (w : World) (wires : Wiring AnyPort) (layout : ObjId → F × F)
    (f : FactoryId) (config : Json) (opens : Bool) :
    Except DumpError (List (DotStatement F)) :=
  if opens = false then .ok []
  else do
    let style ← (config.valueString "layout.style" "auto").mapError .config
    let s ← computeLayout H w layout f config style
    let nodeStatements ← ((w.getAllInstances f).map Prod.fst).mapM
      (nodeStatement w f layout style s)
    let clusters := w.getAllGroupNames.map fun g => .cluster g (w.getMembers g)
    let edgeStatements ← (allEdges w wires f).mapM (edgeStatement w wires f)
    return nodeStatements ++ clusters ++ edgeStatements

end TopologyDumper

end Gem5Sc
