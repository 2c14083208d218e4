import Tensegrity.Tags
import Tensegrity.Geometry.Quat

/-!
# Nodes

A node is a point in space with a tag set. Arithmetic on nodes gives new, untagged nodes: the
midpoint of two `base` nodes is not itself a `base` node until it is tagged so. Two nodes are
equal when their positions are equal lane by lane (IEEE) and their tags are equal.
-/

namespace Tensegrity

/-- **A tagged point.** -/
structure Node where
  /-- Where the node is. -/
  position : Vec3
  /-- Its tags. -/
  tags : Tags := .empty
deriving Inhabited

namespace Node

/-- An untagged node at a position. -/
def ofPosition (p : Vec3) : Node := { position := p }

/-- The node with the words of `s` added to its tags. -/
def withTags (n : Node) (s : String) : Node := { n with tags := n.tags.add s }

/-- The untagged node halfway between two nodes. -/
def midpoint (a b : Node) : Node := ofPosition (a.position.midpoint b.position)

/-- The untagged node at the sum of two positions. -/
def sum (a b : Node) : Node := ofPosition (a.position + b.position)

/-- The untagged node displaced by a vector. -/
def offset (a : Node) (v : Vec3) : Node := ofPosition (a.position + v)

/-- The vector from `b` to `a`. -/
def diff (a b : Node) : Vec3 := a.position - b.position

/-- The untagged node at the position times `k`. -/
def mul (a : Node) (k : Float32) : Node := ofPosition (a.position * k)

/-- The untagged node at the position divided by `k`. -/
def div (a : Node) (k : Float32) : Node := ofPosition (a.position / k)

/-- The distance between two nodes. -/
def distance (a b : Node) : Float32 := a.position.distance b.position

/-- Equal positions, lane by lane, and equal tags. -/
def same (a b : Node) : Bool := a.position.same b.position && a.tags == b.tags

/-- The node with its position replaced by `f` of it, tags kept. -/
def mapPosition (f : Vec3 → Vec3) (n : Node) : Node := { n with position := f n.position }

end Node

end Tensegrity
