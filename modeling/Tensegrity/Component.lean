import Tensegrity.Material
import Tensegrity.Geometry.Quat

/-!
# Components

Building a structure yields components: rigid bodies (rods on pairs, spheres on nodes) and
actuators (cables on pairs). A rod is a cylinder along its pair, centred halfway and turned by
the shortest arc from the second axis to its direction; one of length at most `ε` keeps the
identity rotation. Masses are volume times density, and a body without positive mass is static.

An actuator has a rest length that it moves toward a target length at a bounded rate. Its
rest length starts at the distance between its ends, less the stretch
`pretension / stiffness` of a stiff cable, and never goes below the minimum rest length.
All arithmetic is in single precision, in the order written here.

Built components are installed in a world, which keeps a copy of each and hands out their
handles from one counter.
-/

namespace Tensegrity

/-- `π` in single precision. -/
def piF32 : Float32 := Float32.ofBits 0x40490FDB

/-- `π / 3` in single precision. -/
def thirdPiF32 : Float32 := Float32.ofBits 0x3F860A92

/-- **The larger of two numbers**: a NaN argument yields the other one, and of two numbers that
compare equal the second is given, so of two zeros the sign is the second one's. -/
def maxF32 (a b : Float32) : Float32 :=
  if a.isNaN then b
  else if b.isNaN then a
  else if a > b then a
  else b

/-- Limits `x` to `[lo, hi]`; NaN stays NaN. -/
def clampF32 (x lo hi : Float32) : Float32 :=
  let x := if x < lo then lo else x
  if x > hi then hi else x

/-- **The shape of a rigid body.** -/
inductive Shape where
  /-- A cylinder along the body's second axis. -/
  | cylinder (radius length : Float32)
  /-- A sphere. -/
  | sphere (radius : Float32)
deriving Inhabited

/-- Mass from volume and density: `((π r²) 2) (l / 2)` for a cylinder, `(4 π/3) r³` for a
sphere, times the density. -/
def Shape.mass : Shape → Float32 → Float32
  | .cylinder r l, d => piF32 * (r * r) * 2 * (l / 2) * d
  | .sphere r, d => 4 * thirdPiF32 * (r * r * r) * d

/-- **A rigid body**: a rod on a pair or a sphere on a node. -/
structure RigidBody where
  /-- Tags of the pair or node it was built from. -/
  tags : Tags
  /-- Its shape. -/
  shape : Shape
  /-- Centre of mass. -/
  center : Vec3
  /-- Orientation. -/
  rotation : Quat
  /-- The ends of a rod; both are the centre for a sphere. -/
  endpoints : Vec3 × Vec3
  /-- Mass per unit volume. -/
  density : Float32
  /-- Mass. -/
  mass : Float32
  /-- Sliding friction. -/
  friction : Float32
  /-- Rolling friction. -/
  rollingFriction : Float32
  /-- Restitution. -/
  restitution : Float32
  /-- The world's handle, once installed. -/
  handle : Option Nat := none
deriving Inhabited

namespace RigidBody

/-- **A rod** from `a` to `b`. -/
def rod (tags : Tags) (a b : Vec3) (c : RodConfig) : RigidBody :=
  let axis := b - a
  let len := axis.length
  let rotation := if len > Quat.epsilon then Quat.fromArc .unitY (axis / len) else .identity
  let shape := Shape.cylinder c.radius len
  { tags, shape, rotation
    center := (a + b) / (2 : Float32)
    endpoints := (a, b)
    density := c.density
    mass := shape.mass c.density
    friction := c.friction
    rollingFriction := c.rollingFriction
    restitution := c.restitution }

/-- **A sphere** centred on `p`; it has no rolling friction and no restitution. -/
def sphere (tags : Tags) (p : Vec3) (c : SphereConfig) : RigidBody :=
  let shape := Shape.sphere c.radius
  { tags, shape
    center := p
    rotation := .identity
    endpoints := (p, p)
    density := c.density
    mass := shape.mass c.density
    friction := c.friction
    rollingFriction := 0
    restitution := 0 }

/-- A body without positive mass is fixed in place; a NaN mass is not positive and not static. -/
def isStatic (b : RigidBody) : Bool := b.mass ≤ 0

end RigidBody

/-- **An actuator**: a cable whose rest length is driven toward a target. -/
structure Actuator where
  /-- Tags of the pair it was built from. -/
  tags : Tags
  /-- Its two anchor points. -/
  endpoints : Vec3 × Vec3
  /-- The cable's parameters. -/
  config : CableConfig
  /-- Current rest length. -/
  restLength : Float32
  /-- The rest length it is driven toward. -/
  targetLength : Float32
  /-- The world's handle, once installed. -/
  handle : Option Nat := none
deriving Inhabited

namespace Actuator

/-- **A cable** from `a` to `b`, at rest length `max (distance - stretch) minRestLength`. -/
def new (tags : Tags) (a b : Vec3) (c : CableConfig) : Actuator :=
  let len := a.distance b
  let stretch : Float32 := if c.stiffness > 0 then c.pretension / c.stiffness else 0
  let rest := maxF32 (len - stretch) c.minRestLength
  { tags, config := c, endpoints := (a, b), restLength := rest, targetLength := rest }

/-- The distance between the anchor points. -/
def length (a : Actuator) : Float32 := a.endpoints.1.distance a.endpoints.2

/-- Sets the target, not below the minimum rest length. -/
def setControl (a : Actuator) (t : Float32) : Actuator :=
  { a with targetLength := maxF32 t a.config.minRestLength }

/-- **One step of `dt`**: the rest length moves toward the target by at most
`targetVelocity * dt` (nothing when that is negative or NaN) and stays at or above the
minimum. -/
def step (a : Actuator) (dt : Float32) : Actuator :=
  let m := maxF32 (a.config.targetVelocity * dt) 0
  let delta := clampF32 (a.targetLength - a.restLength) (-m) m
  { a with restLength := maxF32 (a.restLength + delta) a.config.minRestLength }

end Actuator

/-- **A built component.** -/
inductive Component where
  /-- A rod or a sphere. -/
  | rigid (body : RigidBody)
  /-- A cable. -/
  | actuator (cable : Actuator)
deriving Inhabited

namespace Component

/-- Its tags. -/
def tags : Component → Tags
  | .rigid b => b.tags
  | .actuator a => a.tags

/-- Its world handle. -/
def handle : Component → Option Nat
  | .rigid b => b.handle
  | .actuator a => a.handle

/-- Records the handle the world gave it. -/
def withHandle (c : Component) (h : Nat) : Component :=
  match c with
  | .rigid b => .rigid { b with handle := some h }
  | .actuator a => .actuator { a with handle := some h }

/-- The rigid body, if it is one. -/
def rigid? : Component → Option RigidBody
  | .rigid b => some b
  | .actuator _ => none

/-- The actuator, if it is one. -/
def actuator? : Component → Option Actuator
  | .rigid _ => none
  | .actuator a => some a

/-- Steps an actuator; a rigid body does not change. -/
def step (c : Component) (dt : Float32) : Component :=
  match c with
  | .rigid b => .rigid b
  | .actuator a => .actuator (a.step dt)

end Component

/-! ## The simulation world

A world receives the components of a built model. It keeps a copy of every rigid body and
every actuator installed in it, in install order, and hands out the handles `0, 1, 2, …` from
one counter shared by both kinds. The copies are taken before the component learns its handle.
-/

/-- **A world**: its gravity and what has been installed. -/
structure World where
  /-- Gravity. -/
  gravity : Vec3 := ⟨0, -9.81, 0⟩
  /-- Installed rigid bodies, in install order. -/
  rigids : List RigidBody := []
  /-- Installed actuators, in install order. -/
  actuators : List Actuator := []
  /-- The next handle to hand out. -/
  nextHandle : Nat := 0
deriving Inhabited

namespace World

/-- **Installs a component**: keeps a copy and returns the handle for it. -/
def install (w : World) (c : Component) : World × Nat :=
  let h := w.nextHandle
  match c with
  | .rigid b => ({ w with rigids := w.rigids ++ [b], nextHandle := h + 1 }, h)
  | .actuator a => ({ w with actuators := w.actuators ++ [a], nextHandle := h + 1 }, h)

/-- Installs components in order; returns them with their handles set. -/
def installAll : World → List Component → World × List Component
  | w, [] => (w, [])
  | w, c :: cs =>
    let (w₁, h) := w.install c
    let (w₂, cs') := installAll w₁ cs
    (w₂, c.withHandle h :: cs')

/-- The sum of the installed rigid masses in install order, starting from `-0`. -/
def totalMass (w : World) : Float32 := w.rigids.foldl (fun acc b => acc + b.mass) (-0)

end World

end Tensegrity
