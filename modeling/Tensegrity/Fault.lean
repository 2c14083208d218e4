import Tensegrity.Tags
import Tensegrity.Geometry.Vec3
import Tensegrity.Json.Failure
import Tensegrity.FileTree

/-!
# Faults

Every operation of the library that can be refused says why with a `Fault`: one constructor per
cause, carrying what the message needs. The causes fall into eight kinds (`Fault.Kind`), and
`Fault.message` gives the text of each.

Numbers in messages are written with the fewest digits that identify the single-precision
value, always positionally and without a trailing `.0`; a vector is written `[x, y, z]`.
-/

namespace Tensegrity

/-- **Why an operation was refused.** -/
inductive Fault where
  /-- A pair whose ends coincide or are not both nodes of a structure with `size` nodes. -/
  | invalidPair (source target size : Nat)
  /-- A connector end given by an index that a unit of `size` nodes does not have. -/
  | roleIndex (index size : Nat)
  /-- A connector end given by tags that no node of the unit carries. -/
  | roleTags (query : Tags)
  /-- A node that a spine segment does not have. -/
  | spineNode (index : Nat)
  /-- A pair that no pair builder applies to. -/
  | unbound (tags : Tags)
  /-- A label that was never bound. -/
  | unknownLabel (label : String)
  /-- A connection from a point to itself. -/
  | selfConnection (tags : String) (point : Vec3)
  /-- A connector that would join two coincident nodes of neighbouring segments. -/
  | coincidentJoint (connector : Nat) (tags : String) (segment : Nat)
  /-- A cable whose target velocity is not a finite non-negative number. -/
  | cableVelocity (velocity : Float32)
  /-- A time step that is not a finite positive number. -/
  | timeStep (dt : Float32)
  /-- A rigid-body index past the last rigid body. -/
  | noRigid (index : Nat)
  /-- A model configuration that names no description. -/
  | noDescriptionPath
  /-- Building into a model that is already built. -/
  | alreadyBuilt
  /-- A description pair entry with a node number zero. -/
  | zeroNodeNumber (list : String) (entry first second : Nat)
  /-- A description that is not a well-formed document. -/
  | malformed (failure : Json.Failure)
  /-- A description file that could not be read. -/
  | unreadable (path : String) (problem : FileProblem)
deriving Inhabited

/-- The eight kinds of faults. -/
inductive Fault.Kind where
  | invalidIndex
  | unknownNodeRole
  | unboundTag
  | labelNotFound
  | invalidArgument
  | alreadyBuilt
  | description
  | io
deriving Inhabited, DecidableEq, Repr

namespace Fault

/-- The kind of a fault. -/
def kind : Fault → Kind
  | .invalidPair .. => .invalidIndex
  | .roleIndex .. | .roleTags .. | .spineNode .. => .unknownNodeRole
  | .unbound .. => .unboundTag
  | .unknownLabel .. => .labelNotFound
  | .selfConnection .. | .coincidentJoint .. | .cableVelocity .. | .timeStep ..
  | .noRigid .. | .noDescriptionPath => .invalidArgument
  | .alreadyBuilt => .alreadyBuilt
  | .zeroNodeNumber .. | .malformed .. => .description
  | .unreadable .. => .io

/-- Numbers in messages: the fewest digits, always positional, no `.0`, ties upward. -/
def numberNotation : Decimal.Notation where
  plainFrom := none
  plainBelow := none
  pointZero := false
  exponentPlus := false
  tie := .up
  nan := "NaN"
  infinity := "inf"

/-- A single-precision number in a message. -/
def number (x : Float32) : String := numberNotation.ofFloat32 x

/-- A vector in a message: `[x, y, z]`. -/
def vector (v : Vec3) : String := "[" ++ number v.x ++ ", " ++ number v.y ++ ", " ++ number v.z ++ "]"

/-- The text of a natural number. -/
def count (n : Nat) : String := Decimal.natText n

/-- **The message of a fault.** -/
def message : Fault → String
  | .invalidPair a b n =>
    "invalid pair (" ++ count a ++ ", " ++ count b ++ ") for a structure with " ++ count n ++ " nodes"
  | .roleIndex i n => "unknown node role: node " ++ count i ++ " of a " ++ count n ++ "-node unit"
  | .roleTags q => "unknown node role: " ++ q.text
  | .spineNode i => "unknown node role: node " ++ count i ++ " of a spine segment"
  | .unbound t => "no builder matches tags \"" ++ t.text ++ "\""
  | .unknownLabel l => "label not found: " ++ l
  | .selfConnection t p => "invalid argument: cannot connect \"" ++ t ++ "\" to itself at " ++ vector p
  | .coincidentJoint k t i =>
    "invalid argument: connector " ++ count k ++ " (\"" ++ t ++ "\") joins coincident nodes of segment " ++
      count i ++ " and segment " ++ count (i + 1)
  | .cableVelocity v =>
    "invalid argument: cable target velocity must be finite and non-negative, got " ++ number v
  | .timeStep dt => "invalid argument: dt is not positive: " ++ number dt
  | .noRigid i => "invalid argument: no rigid body at index " ++ count i
  | .noDescriptionPath => "invalid argument: model config has no description path"
  | .alreadyBuilt => "model is already built; tear it down before rebuilding"
  | .zeroNodeNumber l i a b =>
    "description error: " ++ l ++ " " ++ count i ++ ": node numbers are one-based, got [" ++ count a ++
      ", " ++ count b ++ "]"
  | .malformed f => "description error: " ++ f.message
  | .unreadable p e => "IO error reading " ++ p ++ ": " ++ e.text

end Fault

end Tensegrity
