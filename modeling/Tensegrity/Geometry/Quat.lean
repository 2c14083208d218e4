import Tensegrity.Geometry.Vec3

/-!
# Rotations

A rotation is a quaternion `(x, y, z, w)` in single precision. A rod is oriented by the
shortest-arc rotation that carries the second axis onto its direction; structures are turned by
any quaternion the caller gives, used as given even when it is not of unit length.

The shortest arc from a unit vector `u` to a unit vector `v` is the identity when they are
nearly equal (scalar product above `1 - 2ε`), a half turn about an axis orthogonal to `u` when
they are nearly opposite, and otherwise the normalised quaternion `(u × v, 1 + u · v)`.
-/

namespace Tensegrity

/-- **A quaternion**, in single precision. -/
structure Quat where
  /-- First imaginary part. -/
  x : Float32
  /-- Second imaginary part. -/
  y : Float32
  /-- Third imaginary part. -/
  z : Float32
  /-- Real part. -/
  w : Float32
deriving Inhabited

namespace Quat

/-- The rotation that moves nothing. -/
def identity : Quat := ⟨0, 0, 0, 1⟩

/-- The gap between one and the next single-precision float, `2 ^ -23`. -/
def epsilon : Float32 := Float32.ofBits 0x34000000

/-- The sine of the single-precision float nearest to `π / 2`: exactly one. -/
def halfPiSin : Float32 := 1

/-- The cosine of the single-precision float nearest to `π / 2`, rounded: `-4.371139e-8`. -/
def halfPiCos : Float32 := Float32.ofBits 0xB33BBD2E

/-- The half turn about a unit axis. -/
def halfTurn (axis : Vec3) : Quat :=
  ⟨axis.x * halfPiSin, axis.y * halfPiSin, axis.z * halfPiSin, halfPiCos⟩

/-- One for a positive lane or `+0`, minus one for a negative lane or `-0`, NaN for NaN. -/
def signum (a : Float32) : Float32 :=
  if a.isNaN then a else if a.toBits >>> 31 == 1 then -1 else 1

/-- A unit vector orthogonal to the unit vector `u`. -/
def orthonormalTo (u : Vec3) : Vec3 :=
  let sign := signum u.z
  let a := -1 / (sign + u.z)
  let b := u.x * u.y * a
  ⟨b, sign + u.y * u.y * a, -u.y⟩

/-- Divides every part by the length; the squares are summed as `(x² + z²) + (y² + w²)`. -/
def normalize (q : Quat) : Quat :=
  let len := ((q.x * q.x + q.z * q.z) + (q.y * q.y + q.w * q.w)).sqrt
  ⟨q.x / len, q.y / len, q.z / len, q.w / len⟩

/-- **The shortest arc** from the unit vector `u` to the unit vector `v`. -/
def fromArc (u v : Vec3) : Quat :=
  let oneMinus : Float32 := 1 - 2 * epsilon
  let d := u.dot v
  if d > oneMinus then identity
  else if d < -oneMinus then halfTurn (orthonormalTo u)
  else
    let c := u.cross v
    normalize ⟨c.x, c.y, c.z, 1 + d⟩

/-- **Turns a vector**: `v (w² - b·b) + b (2 v·b) + (b × v) (2 w)` with `b` the imaginary part,
summed left to right. -/
def rotate (q : Quat) (v : Vec3) : Vec3 :=
  let b : Vec3 := ⟨q.x, q.y, q.z⟩
  v * (q.w * q.w - b.dot b) + b * (v.dot b * 2) + b.cross v * (q.w * 2)

end Quat

end Tensegrity
