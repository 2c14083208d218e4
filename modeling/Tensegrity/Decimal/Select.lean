/-!
# Shortest decimal selection

A finite binary floating-point value stands for every real that rounds to it: the interval from
halfway to its lower neighbour to halfway to its upper neighbour, both ends included exactly when
its significand is even. The decimal written for the value is the one with the fewest significant
digits inside that interval and, among those, the nearest to the value; an exact tie between the
two nearest goes as a `Tie` says.

The selection runs in exact natural-number arithmetic. With `10 ^ k` the least power of ten above
the value, it tries the grids `10 ^ (k - 1)`, `10 ^ (k - 2)`, … in turn and tests the two
neighbours of the value on each grid against the interval: the first grid with a hit wins. The
64-bit and the 32-bit interchange formats are two values of one `Format`.
-/

namespace Tensegrity.Decimal

/-- **A binary interchange format**: the widths of its fraction and exponent fields. -/
structure Format where
  /-- Bits of the stored fraction (the leading one of a normal value is implicit). -/
  fractionBits : Nat
  /-- Bits of the biased exponent. -/
  exponentBits : Nat

namespace Format

/-- The 64-bit format. -/
def binary64 : Format := ⟨52, 11⟩

/-- The 32-bit format. -/
def binary32 : Format := ⟨23, 8⟩

/-- The exponent bias. -/
def bias (f : Format) : Nat := Nat.pow 2 (f.exponentBits - 1) - 1

/-- The biased exponent field of a bit pattern. -/
def exponentField (f : Format) (bits : Nat) : Nat := (bits >>> f.fractionBits) % Nat.pow 2 f.exponentBits

/-- The fraction field of a bit pattern. -/
def fractionField (f : Format) (bits : Nat) : Nat := bits % Nat.pow 2 f.fractionBits

/-- Whether the sign bit is set. -/
def isNegative (f : Format) (bits : Nat) : Bool :=
  (bits >>> (f.fractionBits + f.exponentBits)) % 2 == 1

/-- An all-ones exponent field marks NaN and the infinities. -/
def isSpecial (f : Format) (bits : Nat) : Bool := f.exponentField bits == Nat.pow 2 f.exponentBits - 1

/-- A special value with a non-zero fraction is NaN. -/
def isNaN (f : Format) (bits : Nat) : Bool := f.isSpecial bits && f.fractionField bits != 0

/-- Both fields zero: a zero of either sign. -/
def isZero (f : Format) (bits : Nat) : Bool := f.exponentField bits == 0 && f.fractionField bits == 0

end Format

/-- **A finite non-negative value** `m * 2 ^ q`. -/
structure Binary where
  /-- The integer significand. -/
  m : Nat
  /-- The binary exponent. -/
  q : Int
  /-- The gap to the value below is half the gap to the value above: the significand is a
  power of two and the value is not the least normal one. -/
  narrowBelow : Bool

/-- The magnitude of a finite bit pattern (the sign bit is ignored). NaN and the infinities are
no such value: test for them first. -/
def Format.decode (f : Format) (bits : Nat) : Binary :=
  let e := f.exponentField bits
  let frac := f.fractionField bits
  let qmin : Int := 1 - (f.bias : Int) - f.fractionBits
  if e = 0 then ⟨frac, qmin, false⟩
  else ⟨Nat.pow 2 f.fractionBits + frac, (e : Int) + qmin - 1, frac == 0 && e > 1⟩

/-- **A decimal** `digits * 10 ^ exp`. -/
structure Dec where
  /-- The significant digits as one natural number. -/
  digits : Nat
  /-- The power of ten of the last digit. -/
  exp : Int
deriving Repr, DecidableEq, Inhabited

/-- Which of two equally near candidates is taken. -/
inductive Tie where
  /-- The one with the even last digit. -/
  | toEven
  /-- The larger one. -/
  | up
deriving Repr, DecidableEq, Inhabited

/-- Compares `a * 10 ^ i` with `n * 2 ^ j`, exactly. -/
def cmpScaled (a : Nat) (i : Int) (n : Nat) (j : Int) : Ordering :=
  compare (a * Nat.pow 10 i.toNat * Nat.pow 2 (-j).toNat) (n * Nat.pow 2 j.toNat * Nat.pow 10 (-i).toNat)

namespace Binary

/-- **The rounding interval**: `d` lies among the reals that round to `x` (to nearest, ties to
even). Its ends are a quarter of the upper gap scaled by `4`, or by `2` below a narrow gap. -/
def readsBack (x : Binary) (d : Dec) : Bool :=
  let lo := if x.narrowBelow then 4 * x.m - 1 else 4 * x.m - 2
  let hi := 4 * x.m + 2
  let incl := x.m % 2 == 0
  let cl := cmpScaled d.digits d.exp lo (x.q - 2)
  let ch := cmpScaled d.digits d.exp hi (x.q - 2)
  (cl == .gt || (incl && cl == .eq)) && (ch == .lt || (incl && ch == .eq))

/-- Whether `x < 10 ^ k`. -/
def below (x : Binary) (k : Int) : Bool := cmpScaled 1 k x.m x.q == .gt

/-- Moves a first guess `k` to the least exponent with `x < 10 ^ k`, a step at a time. -/
def settle (x : Binary) : Nat → Int → Int
  | 0, k => k
  | fuel + 1, k =>
    if !x.below k then x.settle fuel (k + 1)
    else if x.below (k - 1) then x.settle fuel (k - 1)
    else k

/-- The least `k` with `x < 10 ^ k`, for a non-zero `x`: a guess from the binary length, then
exact corrections. -/
def scale (x : Binary) : Int :=
  let l : Int := (Nat.log2 x.m : Int) + x.q
  x.settle 8 (l * 30103 / 100000 + 1)

/-- The lower neighbour of `x` on the grid `10 ^ e`: `⌊x / 10 ^ e⌋`. -/
def floorOn (x : Binary) (e : Int) : Nat :=
  (x.m * Nat.pow 2 x.q.toNat * Nat.pow 10 (-e).toNat) / (Nat.pow 2 (-x.q).toNat * Nat.pow 10 e.toNat)

/-- The neighbour of `x` on the grid `10 ^ e` that reads back, the nearer one if both do. -/
def pickOn (x : Binary) (tie : Tie) (e : Int) : Option Dec :=
  let d := x.floorOn e
  let lo : Dec := ⟨d, e⟩
  let hi : Dec := ⟨d + 1, e⟩
  match x.readsBack lo, x.readsBack hi with
  | true, true =>
    some <| match cmpScaled (2 * d + 1) e (2 * x.m) x.q with
      | .gt => lo
      | .lt => hi
      | .eq => match tie with
        | .toEven => if d % 2 == 0 then lo else hi
        | .up => hi
  | true, false => some lo
  | false, true => some hi
  | false, false => none

/-- The exact decimal value of `x`: `2 ^ q` with `q < 0` is `5 ^ (-q) * 10 ^ q`. -/
def exact (x : Binary) : Dec :=
  if x.q ≥ 0 then ⟨x.m * Nat.pow 2 x.q.toNat, 0⟩ else ⟨x.m * Nat.pow 5 (-x.q).toNat, x.q⟩

end Binary

/-- Moves trailing zeros of the digits into the exponent. -/
def Dec.strip (d : Dec) : Dec :=
  if h : d.digits ≠ 0 ∧ d.digits % 10 = 0 then Dec.strip ⟨d.digits / 10, d.exp + 1⟩ else d
termination_by d.digits
decreasing_by exact Nat.div_lt_self (Nat.pos_of_ne_zero h.1) (by decide)

/-- **The shortest decimal** of a non-zero finite value: the first of the grids
`10 ^ (k - 1)`, …, `10 ^ (k - 17)` with a neighbour that reads back decides, and trailing zeros
are stripped. Seventeen digits always suffice for both formats; the exact value stands behind
them only so that the function is total. -/
def Binary.shortest (x : Binary) (tie : Tie) : Dec :=
  let k := x.scale
  match (List.range 17).findSome? (fun i => x.pickOn tie (k - (i + 1 : Nat))) with
  | some d => d.strip
  | none => x.exact.strip

end Tensegrity.Decimal
