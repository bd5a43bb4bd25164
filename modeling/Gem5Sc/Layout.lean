/-
  File:      Gem5Sc/Layout.lean
  Subject:   `ForceDirectedLayout`: nodes with positions, of which some are fixed.

  Everything is generic in the arithmetic: `Double` has the operations on `double` besides
  `+ - * /`, and no laws. What is proved for all of them holds of floating-point numbers; exact
  arithmetic is the instance for `ℝ`.

  `positions` is the map as a function of its key: the two loops over it treat every entry on its
  own, so their order is of no account. The order in which the other two maps are gone through is a
  parameter.

  A position is written in three ways: by `addNode`; by `place`, which all loops of the initial
  placements share, with their `fixed_nodes` test; and in `move`, at the end of a round of `run`.
-/
import Gem5Sc.VirtualChannel
import Gem5Sc.Selection
import Mathlib.Data.Nat.Sqrt
import Mathlib.Data.Rat.Defs
import Mathlib.Algebra.Order.Field.Rat
import Mathlib.Logic.Function.Iterate

namespace Gem5Sc

/-- The operations on `double` besides `+ - * /`. -/
class Double (F : Type) where
  /-- A literal, or an integer that is converted. -/
  lit : ℚ → F
  sqrt : F → F
  cos : F → F
  sin : F → F
  /-- `M_PI`. -/
  pi : F
  min : F → F → F
  max : F → F → F
  /-- The conversion to `int`. -/
  trunc : F → Int
  /-- `x >= 0`. -/
  nonneg : F → Bool

open Double (lit)

/-- The iteration order of an `unordered_map`. -/
structure HashOrder where
  order : {α : Type} → List (String × α) → List (String × α)
  order_perm : ∀ {α : Type} (l : List (String × α)), (order l).Perm l

/-- An `unordered_map` whose entries come as they are stored. -/
def HashOrder.stored : HashOrder where
  order l := l
  order_perm := List.Perm.refl

/-- `struct Point`. -/
structure Point (F : Type) where
  x : F
  y : F
  vx : F
  vy : F
  deriving DecidableEq, Repr

structure ForceDirectedLayout (F : Type) where
  nodes : List String := []
  positions : String → Option (Point F) := fun _ => none
  nodeToGroup : List (String × String) := []
  fixedNodes : List String := []
  temperature : F

variable {F : Type} [Add F] [Sub F] [Mul F] [Div F] [Double F]

omit [Add F] [Sub F] [Mul F] [Div F] in
/-- `Point(x, y)`. -/
def Point.of (x y : F) : Point F := { x := x, y := y, vx := lit 0, vy := lit 0 }

namespace ForceDirectedLayout

/-! ## 1. The constants and the maps -/

def new : ForceDirectedLayout F := { temperature := lit 100 }

def k : F := lit 100

def maxIter : Nat := 150

def repulsion (d : F) : F := k * k / (d + lit 1e-6)

/-- The value of `positions[name]`. -/
def position (s : ForceDirectedLayout F) (name : String) : Point F :=
  (s.positions name).getD (.of (lit 0) (lit 0))

/-- `positions[name] = p`. -/
def setPosition (s : ForceDirectedLayout F) (name : String) (p : Point F) : ForceDirectedLayout F :=
  { s with positions := Function.update s.positions name (some p) }

/-- `positions[name]` creates the entry it does not find. -/
def touch (s : ForceDirectedLayout F) (name : String) : ForceDirectedLayout F :=
  s.setPosition name (s.position name)

/-- The value of `node_to_group[node]`. -/
def groupOf (s : ForceDirectedLayout F) (node : String) : String :=
  (s.nodeToGroup.lookup node).getD ""

/-- `node_to_group[node]` creates the entry it does not find. -/
def touchGroup (s : ForceDirectedLayout F) (node : String) : ForceDirectedLayout F :=
  { s with nodeToGroup := setKey s.nodeToGroup node (s.groupOf node) }

section

variable (s : ForceDirectedLayout F) {name other : String}

omit [Add F] [Sub F] [Mul F] [Div F] [Double F] in
@[simp] theorem positions_setPosition_self (p : Point F) :
    (s.setPosition name p).positions name = some p := Function.update_self ..

omit [Add F] [Sub F] [Mul F] [Div F] [Double F] in
theorem positions_setPosition_ne (h : other ≠ name) (p : Point F) :
    (s.setPosition name p).positions other = s.positions other := Function.update_of_ne h ..

omit [Add F] [Sub F] [Mul F] [Div F] in
@[simp] theorem position_setPosition_self (p : Point F) :
    (s.setPosition name p).position name = p := by
  rw [position, positions_setPosition_self, Option.getD_some]

omit [Add F] [Sub F] [Mul F] [Div F] in
theorem position_setPosition_ne (h : other ≠ name) (p : Point F) :
    (s.setPosition name p).position other = s.position other := by
  rw [position, positions_setPosition_ne s h]
  rfl

omit [Add F] [Sub F] [Mul F] [Div F] in
/-- Creating an entry changes no position. -/
@[simp] theorem position_touch (name other : String) :
    (s.touch name).position other = s.position other := by
  by_cases h : other = name
  · rw [h]
    exact s.position_setPosition_self _
  · exact s.position_setPosition_ne h _

end

/-! ## 2. Nodes and groups -/

/-- `addNode`. -/
def addNode (s : ForceDirectedLayout F) (name : String) (x y : F) : ForceDirectedLayout F :=
  let s := { s with nodes := s.nodes ++ [name] }
  if Double.nonneg x && Double.nonneg y then
    { s.setPosition name (.of x y) with fixedNodes := name :: s.fixedNodes }
  else s.setPosition name (.of (lit 0) (lit 0))

/-- `setGroup`. -/
def setGroup (s : ForceDirectedLayout F) (node group : String) : ForceDirectedLayout F :=
  { s with nodeToGroup := setKey s.nodeToGroup node group }

/-- `isFixed`. -/
def isFixed (s : ForceDirectedLayout F) (node : String) : Bool := s.fixedNodes.contains node

/-! ## 3. The initial placements -/

/-- The body of every placement loop: `positions[name] = Point(x, y)` unless the node is fixed. -/
def place (s : ForceDirectedLayout F) (name : String) (p : F × F) : ForceDirectedLayout F :=
  if s.isFixed name then s else s.setPosition name (.of p.1 p.2)

/-- A placement loop: node `i` of the list goes to `point i`. -/
def placeAll (s : ForceDirectedLayout F) (names : List String) (point : Nat → F × F) :
    ForceDirectedLayout F :=
  names.zipIdx.foldl (fun s e => s.place e.1 (point e.2)) s

/-- Cell `i` of a grid for `n` nodes that begins at `(x, y)`. -/
def gridPoint (n : Nat) (x y w h : F) (i : Nat) : F × F :=
  let cols := max 1 (Nat.sqrt n)
  let rows := (n + cols - 1) / cols
  let cellW := w / lit (max 1 (cols - 1) : Nat)
  let cellH := h / lit (max 1 (rows - 1) : Nat)
  (x + lit (i % cols : Nat) * cellW, y + lit (i / cols : Nat) * cellH)

/-- Point `i` of `n` on a circle. -/
def circlePoint (n : Nat) (centerX centerY radius : F) (i : Nat) : F × F :=
  let angle := lit 2 * Double.pi * lit i / lit n
  (centerX + radius * Double.cos angle, centerY + radius * Double.sin angle)

/-- Point `i` of `n` on a line. -/
def linearPoint (n : Nat) (centerX centerY : F) (i : Nat) : F × F :=
  let spacing : F := lit 60
  (centerX - lit (n - 1 : Nat) * spacing / lit 2 + lit i * spacing, centerY)

/-- A random point; `draws i` is what the two calls of `rand()` for node `i` return. -/
def randomPoint (draws : Nat → Nat × Nat) (width height : F) (i : Nat) : F × F :=
  (lit (((draws i).1 : Int).tmod (Double.trunc (width - lit 200)) + 100 : Int),
    lit (((draws i).2 : Int).tmod (Double.trunc (height - lit 200)) + 100 : Int))

/-- `setGroupPlacement`; the name of the group is not used. -/
def setGroupPlacement (s : ForceDirectedLayout F) (_groupName : String) (members : List String)
    (style : String) (centerX centerY radius : F) : ForceDirectedLayout F :=
  let n := members.length
  if style = "grid" then
    let w := lit 2 * radius
    let h := lit 2 * radius
    s.placeAll members (gridPoint n (centerX - w / lit 2) (centerY - h / lit 2) w h)
  else if style = "circle" ∨ style = "radial" then
    s.placeAll members (circlePoint n centerX centerY radius)
  else if style = "linear" then s.placeAll members (linearPoint n centerX centerY)
  else s

/-- `setInitialPlacement`. -/
def setInitialPlacement (s : ForceDirectedLayout F) (draws : Nat → Nat × Nat) (type : String)
    (width height : F) : ForceDirectedLayout F :=
  let n := s.nodes.length
  if type = "grid" then
    s.placeAll s.nodes
      (gridPoint n (lit 100) (lit 100) (width - lit 200) (height - lit 200))
  else if type = "circle" then
    s.placeAll s.nodes (circlePoint n (width / lit 2) (height / lit 2)
      (Double.min width height * lit 0.35))
  else s.placeAll s.nodes (randomPoint draws width height)

/-! ## 4. The forces -/

/-- Changes the velocity of a node, unless it is fixed. -/
def accelerate (s : ForceDirectedLayout F) (name : String) (g : F × F → F × F) :
    ForceDirectedLayout F :=
  if s.isFixed name then s
  else
    let p := s.position name
    let v := g (p.vx, p.vy)
    s.setPosition name { p with vx := v.1, vy := v.2 }

/-- The body of the loop of `applyRepulsion`, for two nodes. -/
def repel (s : ForceDirectedLayout F) (a b : String) : ForceDirectedLayout F :=
  let s := (s.touch a).touch b
  let dx := (s.position a).x - (s.position b).x
  let dy := (s.position a).y - (s.position b).y
  let dist := Double.sqrt (dx * dx + dy * dy) + lit 1e-6
  let force := repulsion dist
  let fx := force * dx / dist
  let fy := force * dy / dist
  let s := s.accelerate a fun v => (v.1 - fx, v.2 - fy)
  s.accelerate b fun v => (v.1 + fx, v.2 + fy)

/-- The pairs `nodes[i]`, `nodes[j]` with `i < j`, in the order of the two loops. -/
def pairs : List String → List (String × String)
  | [] => []
  | a :: rest => rest.map (Prod.mk a) ++ pairs rest

/-- `applyRepulsion`. -/
def applyRepulsion (s : ForceDirectedLayout F) : ForceDirectedLayout F :=
  (pairs s.nodes).foldl (fun s p => s.repel p.1 p.2) s

/-- `applyAttraction` fills a local map and does nothing else. -/
def applyAttraction (s : ForceDirectedLayout F) : ForceDirectedLayout F := s

/-- `group_centers[group].push_back(p)`. -/
def pushBack (centers : List (String × List (Point F))) (group : String) (p : Point F) :
    List (String × List (Point F)) :=
  setKey centers group ((centers.lookup group).getD [] ++ [p])

/-- The first loop of `applyGroupConfinement`: the points of every group. -/
def groupCenters (H : HashOrder) (s : ForceDirectedLayout F) :
    ForceDirectedLayout F × List (String × List (Point F)) :=
  (H.order s.nodeToGroup).foldl (fun r e =>
    if e.2 = "" then r
    else (r.1.touch e.1, pushBack r.2 e.2 (r.1.position e.1))) (s, [])

/-- The center of some points. -/
def center (points : List (Point F)) : F × F :=
  let sum := points.foldl (fun c p => (c.1 + p.x, c.2 + p.y)) (lit 0, lit 0)
  (sum.1 / lit points.length, sum.2 / lit points.length)

/-- The body of the innermost loop: a node of the group is pulled to its center. -/
def confine (group : String) (c : F × F) (s : ForceDirectedLayout F) (node : String) :
    ForceDirectedLayout F :=
  let s := s.touchGroup node
  if s.groupOf node = group ∧ s.isFixed node = false then
    let s := s.touch node
    let dx := (s.position node).x - c.1
    let dy := (s.position node).y - c.2
    let dist := Double.sqrt (dx * dx + dy * dy) + lit 1e-6
    let force := lit 0.05 * dist
    s.accelerate node fun v => (v.1 - force * dx / dist, v.2 - force * dy / dist)
  else s

/-- `applyGroupConfinement`, which does not use its arguments. -/
def applyGroupConfinement (H : HashOrder) (s : ForceDirectedLayout F) (_width _height : F) :
    ForceDirectedLayout F :=
  let r := s.groupCenters H
  (H.order r.2).foldl (fun s g =>
    if g.2.isEmpty then s else s.nodes.foldl (confine g.1 (center g.2)) s) r.1

/-! ## 5. The rounds -/

/-- A loop over `positions` that leaves out the fixed nodes. -/
def mapFree (s : ForceDirectedLayout F) (g : Point F → Point F) : ForceDirectedLayout F :=
  { s with positions := fun name =>
      (s.positions name).map fun p => if s.isFixed name then p else g p }

/-- The velocities at the start of a round. -/
def damp (s : ForceDirectedLayout F) : ForceDirectedLayout F :=
  s.mapFree fun p => { p with vx := p.vx * lit 0.8, vy := p.vy * lit 0.8 }

/-- The positions at the end of a round. -/
def move (s : ForceDirectedLayout F) (width height : F) : ForceDirectedLayout F :=
  s.mapFree fun p =>
    let x := p.x + p.vx * s.temperature / lit maxIter
    let y := p.y + p.vy * s.temperature / lit maxIter
    { x := Double.max (lit 50) (Double.min x (width - lit 50)),
      y := Double.max (lit 50) (Double.min y (height - lit 50)),
      vx := lit 0, vy := lit 0 }

/-- The body of the loop of `run`. -/
def round (H : HashOrder) (width height : F) (s : ForceDirectedLayout F) :
    ForceDirectedLayout F :=
  let s := s.damp.applyRepulsion.applyAttraction
  let s := (s.applyGroupConfinement H width height).move width height
  { s with temperature := s.temperature * lit 0.95 }

/-- `run`. -/
def run (H : HashOrder) (s : ForceDirectedLayout F) (width height : F) : ForceDirectedLayout F :=
  (round H width height)^[maxIter] s

end ForceDirectedLayout

end Gem5Sc
