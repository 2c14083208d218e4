import Tensegrity.Decimal.Select

/-!
# Laying out a decimal

Once the digits are selected, writing them down is a handful of decisions: for which exponents
the number is written positionally, whether an integral value keeps a `.0`, how ties in the
selection go, whether a positive exponent has a plus sign, and the texts of NaN and infinity. A `Notation` records them; `Notation.render`
lays out the shortest decimal of a bit pattern of any `Format` under them.

A positional number puts the point after, inside or before its digits; any other is written as
one digit, the rest after a point, and `e` with the exponent of the leading digit, signed as the
notation says.
-/

namespace Tensegrity.Decimal

/-- **A layout of decimals**: the decisions that turn a selected decimal into text. -/
structure Notation where
  /-- Leading-digit exponents from this one on are written positionally (`none`: all below). -/
  plainFrom : Option Int
  /-- Leading-digit exponents below this one are written positionally (`none`: all above). -/
  plainBelow : Option Int
  /-- An integral value written positionally ends in `.0`. -/
  pointZero : Bool
  /-- A positive exponent is written with a plus sign. -/
  exponentPlus : Bool
  /-- How an exact tie in the digit selection goes. -/
  tie : Tie
  /-- The text of NaN. -/
  nan : String
  /-- The text of positive infinity; negative infinity has a minus sign before it. -/
  infinity : String

/-- The decimal digits of a natural number, most significant first. -/
def natText (n : Nat) : String := String.ofList (Nat.toDigits 10 n)

/-- An exponent: a minus sign for a negative one, no sign otherwise. -/
def intText (i : Int) : String := if i < 0 then "-" ++ natText i.natAbs else natText i.natAbs

/-- `n` zeros. -/
def zeros (n : Nat) : String := String.ofList (List.replicate n '0')

namespace Notation

/-- Whether the leading-digit exponent `e` is written positionally. -/
def isPlain (n : Notation) (e : Int) : Bool :=
  (match n.plainFrom with | some lo => lo ≤ e | none => true) &&
  (match n.plainBelow with | some hi => e < hi | none => true)

/-- The text of an exponent: a minus sign when negative, a plus sign when positive if the notation
asks for one. -/
def exponentText (n : Notation) (e : Int) : String :=
  if n.exponentPlus && e > 0 then "+" ++ intText e else intText e

/-- The text of a positive decimal whose digits carry no trailing zero. -/
def layout (n : Notation) (d : Dec) : String :=
  let s := Nat.toDigits 10 d.digits
  let lead : Int := d.exp + (s.length - 1 : Nat)
  if n.isPlain lead then
    if d.exp ≥ 0 then
      String.ofList s ++ zeros d.exp.toNat ++ (if n.pointZero then ".0" else "")
    else if lead ≥ 0 then
      String.ofList (s.take (lead.toNat + 1)) ++ "." ++ String.ofList (s.drop (lead.toNat + 1))
    else
      "0." ++ zeros ((-lead).toNat - 1) ++ String.ofList s
  else
    let rest := s.drop 1
    String.ofList (s.take 1) ++ (if rest.isEmpty then "" else "." ++ String.ofList rest) ++
      "e" ++ n.exponentText lead

/-- The text of zero, before its sign. -/
def zeroText (n : Notation) : String := if n.pointZero then "0.0" else "0"

/-- **The text of a bit pattern** of the format `f`: NaN, a signed infinity, a signed zero, or
the sign and the layout of the shortest decimal. -/
def render (n : Notation) (f : Format) (bits : Nat) : String :=
  let sign := if f.isNegative bits then "-" else ""
  if f.isNaN bits then n.nan
  else if f.isSpecial bits then sign ++ n.infinity
  else if f.isZero bits then sign ++ n.zeroText
  else sign ++ n.layout ((f.decode bits).shortest n.tie)

/-- The text of a 64-bit float. -/
def ofFloat (n : Notation) (x : Float) : String := n.render .binary64 x.toBits.toNat

/-- The text of a 32-bit float, from its own shortest digits. -/
def ofFloat32 (n : Notation) (x : Float32) : String := n.render .binary32 x.toBits.toNat

end Notation

end Tensegrity.Decimal
