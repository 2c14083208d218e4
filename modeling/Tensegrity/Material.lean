import Tensegrity.Fault

/-!
# Materials and builders

A pair of nodes becomes a rod or a cable, and a node may become a sphere; which one, and with
what physical parameters, is decided by a `Builder`. Each kind of builder carries its own
parameter record: `RodConfig`, `CableConfig` or `SphereConfig`, with the defaults below.

A cable is only built when its target velocity is a finite non-negative number
(`CableConfig.validate`).
-/

namespace Tensegrity

/-- **Parameters of a rod.** -/
structure RodConfig where
  /-- Radius of the cylinder. -/
  radius : Float32 := 1
  /-- Mass per unit volume. -/
  density : Float32 := 1
  /-- Sliding friction. -/
  friction : Float32 := 1
  /-- Rolling friction. -/
  rollingFriction : Float32 := 0
  /-- Restitution. -/
  restitution : Float32 := 0
deriving Inhabited

/-- A rod of the given radius and density, other parameters at their defaults. -/
def RodConfig.new (radius density : Float32) : RodConfig where
  radius := radius
  density := density

/-- **Parameters of a cable.** -/
structure CableConfig where
  /-- Spring constant. -/
  stiffness : Float32 := 1000
  /-- Damping constant. -/
  damping : Float32 := 10
  /-- Tension at rest; it shortens the rest length by `pretension / stiffness`. -/
  pretension : Float32 := 0
  /-- Whether the engine keeps a history of the cable. -/
  history : Bool := false
  /-- The greatest tension the cable can exert. -/
  maxTension : Float32 := 1000
  /-- How fast the rest length may move toward its target, per unit of time. -/
  targetVelocity : Float32 := 100
  /-- The rest length never goes below this. -/
  minRestLength : Float32 := 0.1
deriving Inhabited

/-- A cable of the given stiffness, damping and pretension, other parameters at their
defaults. -/
def CableConfig.new (stiffness damping pretension : Float32) : CableConfig where
  stiffness := stiffness
  damping := damping
  pretension := pretension

/-- **A cable can be built** when its target velocity is finite and not negative. -/
def CableConfig.validate (c : CableConfig) : Except Fault Unit :=
  if c.targetVelocity.isFinite && c.targetVelocity ≥ 0 then .ok ()
  else .error (.cableVelocity c.targetVelocity)

/-- **Parameters of a sphere.** -/
structure SphereConfig where
  /-- Radius. -/
  radius : Float32 := 1
  /-- Mass per unit volume. -/
  density : Float32 := 1
  /-- Sliding friction. -/
  friction : Float32 := 1
deriving Inhabited

/-- **What a pair or a node becomes.** -/
inductive Builder where
  /-- A rigid rod between the two nodes of a pair. -/
  | rod (config : RodConfig)
  /-- A cable between the two nodes of a pair. -/
  | cable (config : CableConfig)
  /-- A rigid sphere on a node. -/
  | sphere (config : SphereConfig)
deriving Inhabited

/-- Rods and cables are built on pairs, spheres on nodes. -/
def Builder.forPairs : Builder → Bool
  | .rod _ | .cable _ => true
  | .sphere _ => false

end Tensegrity
