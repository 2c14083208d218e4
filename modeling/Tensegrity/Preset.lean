import Tensegrity.Chain
import Tensegrity.Model

/-!
# The tetrahedral spine

A ready-made design: a tetrahedral unit of eight rods, a junction of six muscles between
neighbouring units, a chain of such units along the third axis, and the materials to build it.

The unit has three base nodes (`base right`, `base left`, `base top`) in an equilateral triangle
of side `edge`, a `tip front` node above its centre, and two `PCB` nodes halfway up the two
slanted base sides. Each junction joins the `right`, `left` and `top` nodes of a unit to the
same nodes of the next (outer muscles) and to its `tip` (inner muscles).
-/

namespace Tensegrity

namespace Preset

/-- The edge length of the unit. -/
def edge : Float32 := 38.1

/-- Where the unit is moved before it is replicated. -/
def unitPosition : Vec3 := ⟨0, 2, 100⟩

/-- The offset between neighbouring segments. -/
def segmentOffset : Vec3 := ⟨0, 0, -21.5⟩

/-- Labels of the six muscle groups with the queries that find them. -/
def muscleGroups : List (String × String) :=
  [("inner left", "inner left muscle"), ("inner right", "inner right muscle"),
   ("inner top", "inner top muscle"), ("outer left", "outer left muscle"),
   ("outer right", "outer right muscle"), ("outer top", "outer top muscle")]

/-- The rods of the unit: node indices and tags. -/
def unitRods : List (Nat × Nat × String) :=
  [(0, 1, "back bottom rod"), (0, 4, "back rightBottom rod"), (4, 2, "back rightTop rod"),
   (0, 3, "front right rod"), (1, 5, "back leftBottom rod"), (5, 2, "back leftTop rod"),
   (1, 3, "front left rod"), (2, 3, "front top rod")]

/-- Adds rods in order. -/
def addRods : Structure → List (Nat × Nat × String) → Except Fault Structure
  | s, [] => .ok s
  | s, (a, b, t) :: rest => do
    let (s, _) ← s.addPair a b t
    addRods s rest

/-- **The tetrahedral unit** with the given edge length. -/
def tetraUnit (e : Float32) : Except Fault Structure :=
  let half : Float32 := (3 : Float32).sqrt / 2
  let height := half * e
  let n0 := (Node.ofPosition ⟨-e / 2, 0, 0⟩).withTags "base right"
  let n1 := (Node.ofPosition ⟨e / 2, 0, 0⟩).withTags "base left"
  let n2 := (Node.ofPosition ⟨0, height, 0⟩).withTags "base top"
  let n3 := (Node.ofPosition ⟨0, height / 2, half * height⟩).withTags "tip front"
  let n4 := (n0.midpoint n2).withTags "PCB"
  let n5 := (n1.midpoint n2).withTags "PCB"
  addRods { nodes := [n0, n1, n2, n3, n4, n5] } unitRods

/-- **The junction** between neighbouring units. -/
def tetraJunction : Junction where
  connectors :=
    [⟨.tagged (.parse "right"), .tagged (.parse "right"), "outer right muscle"⟩,
     ⟨.tagged (.parse "left"), .tagged (.parse "left"), "outer left muscle"⟩,
     ⟨.tagged (.parse "top"), .tagged (.parse "top"), "outer top muscle"⟩,
     ⟨.tagged (.parse "right"), .tagged (.parse "tip"), "inner right muscle"⟩,
     ⟨.tagged (.parse "left"), .tagged (.parse "tip"), "inner left muscle"⟩,
     ⟨.tagged (.parse "top"), .tagged (.parse "tip"), "inner top muscle"⟩]

/-- **A spine** of `n` units. -/
def tetraSpine (n : Nat) : Except Fault Structure := do
  let unit ← tetraUnit edge
  (unit.translate unitPosition).replicate n segmentOffset tetraJunction

/-- The muscle parameters of the spine: `top` muscles are stiffer than side ones. -/
def muscle (stiffness : Float32) : CableConfig :=
  { CableConfig.new stiffness 10 0 with maxTension := 7000, targetVelocity := 7 }

/-- **The materials of the spine.** -/
def tetraSpineSpec : BuildSpec :=
  let rod : RodConfig := { RodConfig.new 0.635 0.00311 with friction := 0.8 }
  let fixed : RodConfig := { RodConfig.new 0.635 0 with friction := 0.8 }
  BuildSpec.empty
    |>.add "rod" (.rod rod)
    |>.add "static rod" (.rod fixed)
    |>.add "top muscle" (.cable (muscle 10000))
    |>.add "left muscle" (.cable (muscle 1355.8))
    |>.add "right muscle" (.cable (muscle 1355.8))

/-- Binds each muscle group's label to what its query finds. -/
def bindMuscleGroups (m : Model) : Model :=
  muscleGroups.foldl (fun m (l, q) => (m.bind l q).1) m

/-- The position of a node of a spine segment. -/
def nodePosition (segment : Structure) (i : Nat) : Except Fault Vec3 :=
  match segment.nodes[i]? with
  | some n => .ok n.position
  | none => .error (.spineNode i)

/-- Attaches a marker on the rigid body `r` at each listed node of a segment, in order. The
markers attached before a failure stay, so the model reached is returned with the fault that
stopped it, if any. -/
def markNodes (segment : Structure) (r : Nat) (color : Vec3) : Model → List Nat → Model × Option Fault
  | m, [] => (m, none)
  | m, i :: is =>
    match nodePosition segment i >>= fun p => m.attachMarker r p color 0 with
    | .ok (m', _) => markNodes segment r color m' is
    | .error f => (m, some f)

/-- **Markers on the first two segments** of a built spine: the first segment's tip on the
first rigid body, and the second segment's tip, left and right nodes on the tenth. Markers are
attached one by one; those attached before a failure stay. -/
def attachSpineMarkers (m : Model) (spine : Structure) : Model × Option Fault :=
  let color : Vec3 := ⟨1, 0, 0⟩
  let (m, failed) := match spine.children[0]? with
    | some first => markNodes first 0 color m [3]
    | none => (m, none)
  match failed, spine.children[1]? with
  | some f, _ => (m, some f)
  | none, some second => markNodes second 9 color m [3, 1, 0]
  | none, none => (m, none)

end Preset

end Tensegrity
