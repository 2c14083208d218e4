/-!
# Vectors in space

Positions, offsets and directions are triples of single-precision floats. Every operation is
written out lane by lane in a fixed order of evaluation: floating-point addition is not
associative, so `dot` adds the `x` and `y` products first and the `z` product last, and `cross`
subtracts in the order given below. Equality of vectors is the IEEE comparison lane by lane, so
`-0` equals `0` and a vector holding NaN equals nothing.
-/

namespace Tensegrity

/-- **A vector in space**, in single precision. -/
structure Vec3 where
  /-- First coordinate. -/
  x : Float32
  /-- Second coordinate; up is positive. -/
  y : Float32
  /-- Third coordinate. -/
  z : Float32
deriving Inhabited

namespace Vec3

/-- The origin. -/
def zero : Vec3 := ⟨0, 0, 0⟩

/-- The unit vector along the second axis. -/
def unitY : Vec3 := ⟨0, 1, 0⟩

/-- Lane-wise sum. -/
def add (a b : Vec3) : Vec3 := ⟨a.x + b.x, a.y + b.y, a.z + b.z⟩

/-- Lane-wise difference. -/
def sub (a b : Vec3) : Vec3 := ⟨a.x - b.x, a.y - b.y, a.z - b.z⟩

/-- Each lane times `k`. -/
def scale (a : Vec3) (k : Float32) : Vec3 := ⟨a.x * k, a.y * k, a.z * k⟩

/-- Each lane divided by `k`. -/
def divBy (a : Vec3) (k : Float32) : Vec3 := ⟨a.x / k, a.y / k, a.z / k⟩

instance : Add Vec3 := ⟨add⟩
instance : Sub Vec3 := ⟨sub⟩
instance : HMul Vec3 Float32 Vec3 := ⟨scale⟩
instance : HDiv Vec3 Float32 Vec3 := ⟨divBy⟩

/-- Scalar product, `(x + y) + z` of the lane products. -/
def dot (a b : Vec3) : Float32 := a.x * b.x + a.y * b.y + a.z * b.z

/-- Vector product. -/
def cross (a b : Vec3) : Vec3 :=
  ⟨a.y * b.z - b.y * a.z, a.z * b.x - b.z * a.x, a.x * b.y - b.x * a.y⟩

/-- Euclidean length: the square root of the scalar square. -/
def length (a : Vec3) : Float32 := (a.dot a).sqrt

/-- The length of the difference. -/
def distance (a b : Vec3) : Float32 := (a - b).length

/-- The point halfway: the sum divided by two. -/
def midpoint (a b : Vec3) : Vec3 := (a + b) / (2 : Float32)

/-- **IEEE equality**, lane by lane: `-0 == 0`, and NaN equals nothing. -/
def same (a b : Vec3) : Bool := a.x == b.x && a.y == b.y && a.z == b.z

instance : BEq Vec3 := ⟨same⟩

end Vec3

end Tensegrity
