import Tensegrity.Json.Value

/-!
# Reading JSON text

The reader walks the UTF-8 bytes of a document once, left to right, and stops at the first
problem. Where it stops decides the position in the message, so every step below says what it
consumes. Two places are used: *here* is the index of the next unread byte, and *ahead* is one
byte further (but not past the end). A problem in the text is reported here or ahead as each
step says; a problem with the value found (the wrong kind, a missing field) is raised without a
position and given one by the enclosing step, at the index reached by then.

Numbers are read as JSON writes them. An integer that fits in 64 bits stays an integer (a
negative one in 64-bit two's complement; `-0` and integers below `-2^63` become floats). Any
other number keeps at most the first 64-bit-worth of significant digits and is scaled by the
nearest binary64 power of ten, one multiplication or division (so it may differ from the
correctly rounded value in the last place); a scale past `10^308` is refused as out of range.

The reader carries fuel: every nested call spends one unit, and the caller gives more than the
number of bytes can use up.
-/

namespace Tensegrity.Json

/-- **The reading monad**: the document's bytes, and the index of the next unread byte, which is
kept when reading fails. -/
abbrev Read := ReaderT ByteArray (ExceptT Failure (StateM Nat))

/-- Runs a reading step on a text, from its first byte. -/
def Read.run {α : Type} (r : Read α) (text : String) : Except Failure α :=
  ((ReaderT.run r text.toUTF8).run.run 0).1

/-- The line and column of the index `i`: lines count from one, columns count the bytes of the
line before `i`. -/
def positionOf (bytes : ByteArray) (i : Nat) : Position :=
  let (line, start) := (List.range i).foldl
    (fun (acc : Nat × Nat) j => if bytes[j]? == some 10 then (acc.1 + 1, j + 1) else acc) (1, 0)
  ⟨line, i - start⟩

namespace Read

/-- The next unread byte, if any. -/
def peek : Read (Option UInt8) := do
  let b ← read
  let i ← get
  pure b[i]?

/-- Consumes one byte. -/
def bump : Read Unit := modify (· + 1)

/-- Consumes and returns the next byte, if any. -/
def next : Read (Option UInt8) := do
  let c ← peek
  if c.isSome then bump
  pure c

/-- Fails here. -/
def failHere {α : Type} (p : Problem) : Read α := do
  let b ← read
  let i ← get
  throw ⟨p, some (positionOf b i)⟩

/-- Fails one byte ahead. -/
def failAhead {α : Type} (p : Problem) : Read α := do
  let b ← read
  let i ← get
  throw ⟨p, some (positionOf b (min b.size (i + 1)))⟩

/-- Gives a failure without a position the position here. -/
def place (f : Failure) : Read Failure := do
  match f.position with
  | some _ => pure f
  | none =>
    let b ← read
    let i ← get
    pure { f with position := some (positionOf b i) }

/-- Runs `x`; a failure without a position gets the position reached when it failed. -/
def placed {α : Type} (x : Read α) : Read α :=
  tryCatch x fun f => do throw (← place f)

/-- Runs `x` and returns its outcome; a failure keeps the index it reached. -/
def attempt {α : Type} (x : Read α) : Read (Except Failure α) :=
  tryCatch (Except.ok <$> x) fun f => pure (.error f)

/-- The index of the first byte from `i` on that is not a blank (space, tab, line feed,
carriage return). -/
def skipFrom (b : ByteArray) : Nat → Nat → Nat
  | i, 0 => i
  | i, fuel + 1 =>
    match b[i]? with
    | some c => if c == 32 || c == 10 || c == 9 || c == 13 then skipFrom b (i + 1) fuel else i
    | none => i

/-- **Skips blanks** and peeks at the byte after them. -/
def skipBlank : Read (Option UInt8) := do
  let b ← read
  let i ← get
  let j := skipFrom b i (b.size - i)
  set j
  pure b[j]?

/-- Reads the rest of `null`, `true` or `false`: each byte is consumed before it is checked. -/
def ident : List UInt8 → Read Unit
  | [] => pure ()
  | c :: cs => do
    match ← next with
    | none => failHere .eofValue
    | some d => if d == c then ident cs else failHere .expectedIdent

/-- The value of a decimal digit byte. -/
def digitOf (c : UInt8) : Option Nat :=
  if 48 ≤ c && c ≤ 57 then some (c.toNat - 48) else none

/-- The next byte as a digit, without consuming it. -/
def peekDigit : Read (Option Nat) := do
  pure ((← peek).bind digitOf)

/-- Consumes digits. -/
def skipDigits : Nat → Read Unit
  | 0 => pure ()
  | fuel + 1 => do
    match ← peekDigit with
    | some _ => bump; skipDigits fuel
    | none => pure ()

/-- The remaining bytes, a bound on every loop over them. -/
def remaining : Read Nat := do
  let b ← read
  let i ← get
  pure (b.size - i + 1)

end Read

/-- `a * 10 + d` would pass `max`. -/
def overflows (a d max : Nat) : Bool := a ≥ max / 10 && (a > max / 10 || d > max % 10)

/-- The largest unsigned 64-bit integer. -/
def u64Max : Nat := Nat.pow 2 64 - 1

/-- The largest signed 32-bit integer. -/
def i32Max : Nat := Nat.pow 2 31 - 1

/-- Clamps an exponent to the signed 32-bit range. -/
def saturate (e : Int) : Int := max (-((Nat.pow 2 31 : Nat) : Int)) (min ((Nat.pow 2 31 : Nat) - 1 : Int) e)

/-- The binary64 values nearest to `10 ^ k`, for `k ≤ 308`. -/
def powersOfTen : Array Float := (List.range 309).toArray.map fun k => Float.ofScientific 1 false k

/-- The binary64 value nearest to `10 ^ k`. -/
def powerOfTen (k : Nat) : Float := powersOfTen[k]?.getD 0

namespace Read

open Read

/-- **Scales a significand by a power of ten**: one multiplication or division by the nearest
binary64 power, after dividing by `10^308` as often as needed; a result past the largest
float is out of range. -/
def scaleFloat (positive : Bool) (sig : Nat) : Nat → Float → Int → Read Float
  | 0, f, _ => pure (if positive then f else -f)
  | fuel + 1, f, e =>
    if e.natAbs ≤ 308 then
      if e ≥ 0 then
        let g := f * powerOfTen e.natAbs
        if g.isInf then failHere .numberOutOfRange else pure (if positive then g else -g)
      else
        let g := f / powerOfTen e.natAbs
        pure (if positive then g else -g)
    else if f == 0 then pure (if positive then f else -f)
    else if e ≥ 0 then failHere .numberOutOfRange
    else scaleFloat positive sig fuel (f / powerOfTen 308) (e + 308)

/-- The float of a significand and a decimal exponent. -/
def fromParts (positive : Bool) (sig : Nat) (e : Int) : Read Float :=
  scaleFloat positive sig (e.natAbs / 308 + 2) (sig.toUInt64.toFloat) e

/-- An exponent too large for 32 bits: zero unless the significand is non-zero and the
exponent positive. -/
def exponentOverflow (positive zeroSig positiveExp : Bool) : Read Float := do
  if !zeroSig && positiveExp then failHere .numberOutOfRange
  else
    skipDigits (← remaining)
    pure (if positive then 0 else -0)

/-- The digits of an exponent after its first one. -/
def exponentDigits (positive : Bool) (sig : Nat) (positiveExp : Bool) :
    Nat → Nat → Read (Option Nat)
  | 0, e => pure (some e)
  | fuel + 1, e => do
    match ← peekDigit with
    | some d =>
      bump
      if overflows e d i32Max then pure none
      else exponentDigits positive sig positiveExp fuel (e * 10 + d)
    | none => pure (some e)

/-- **An exponent part**, `e` or `E` next, added to `start`. -/
def exponent (positive : Bool) (sig : Nat) (start : Int) : Read Float := do
  bump
  let positiveExp ← match ← peek with
    | some 43 => do bump; pure true
    | some 45 => do bump; pure false
    | _ => pure true
  match ← next with
  | none => failHere .eofValue
  | some c =>
    match digitOf c with
    | none => failHere .invalidNumber
    | some d =>
      match ← exponentDigits positive sig positiveExp (← remaining) d with
      | none => exponentOverflow positive (sig == 0) positiveExp
      | some e =>
        let final := saturate (if positiveExp then start + e else start - e)
        fromParts positive sig final

/-- Fraction digits past the 64-bit significand are dropped. -/
def decimalOverflow (positive : Bool) (sig : Nat) (e : Int) : Read Float := do
  skipDigits (← remaining)
  match ← peek with
  | some 101 | some 69 => exponent positive sig e
  | _ => fromParts positive sig e

/-- The digits of a fraction; the count of digits taken, or `none` once they overflow. -/
def fractionDigits : Nat → Nat → Nat → Read (Nat × Nat × Bool)
  | 0, sig, n => pure (sig, n, false)
  | fuel + 1, sig, n => do
    match ← peekDigit with
    | some d =>
      if overflows sig d u64Max then pure (sig, n, true)
      else do bump; fractionDigits fuel (sig * 10 + d) (n + 1)
    | none => pure (sig, n, false)

/-- **A fraction part**, `.` next, after a significand with exponent `e0`. -/
def fraction (positive : Bool) (sig : Nat) (e0 : Int) : Read Float := do
  bump
  let (sig, n, capped) ← fractionDigits (← remaining) sig 0
  let e := e0 - n
  if capped then decimalOverflow positive sig e
  else if n == 0 then
    match ← peek with
    | some _ => failAhead .invalidNumber
    | none => failAhead .eofValue
  else
    match ← peek with
    | some 101 | some 69 => exponent positive sig e
    | _ => fromParts positive sig e

/-- Integer digits past the 64-bit significand only raise the exponent. -/
def longInteger (positive : Bool) (sig : Nat) : Nat → Int → Read Float
  | 0, e => fromParts positive sig e
  | fuel + 1, e => do
    match ← peek with
    | some c =>
      if (digitOf c).isSome then do bump; longInteger positive sig fuel (e + 1)
      else if c == 46 then fraction positive sig e
      else if c == 101 || c == 69 then exponent positive sig e
      else fromParts positive sig e
    | none => fromParts positive sig e

/-- What follows the integer digits: a fraction, an exponent, or the end of an integer. -/
def afterInteger (positive : Bool) (sig : Nat) : Read Number := do
  match ← peek with
  | some 46 => .float <$> fraction positive sig 0
  | some 101 | some 69 => .float <$> exponent positive sig 0
  | _ =>
    if positive then pure (.unsigned sig)
    else if sig == 0 then pure (.float (-0))
    else if sig ≤ Nat.pow 2 63 then pure (.negative (-(sig : Int)))
    else pure (.float (-(sig.toUInt64.toFloat)))

/-- Integer digits after the first, while they fit in 64 bits. -/
def integerDigits (positive : Bool) : Nat → Nat → Read Number
  | 0, sig => afterInteger positive sig
  | fuel + 1, sig => do
    match ← peekDigit with
    | some d =>
      if overflows sig d u64Max then .float <$> longInteger positive sig (← remaining) 0
      else do bump; integerDigits positive fuel (sig * 10 + d)
    | none => afterInteger positive sig

/-- **A number** after its sign: the first digit is consumed before it is checked, and a
leading zero may not be followed by another digit. -/
def number (positive : Bool) : Read Number := do
  match ← next with
  | none => failHere .eofValue
  | some c =>
    match digitOf c with
    | some 0 =>
      if (← peekDigit).isSome then failAhead .invalidNumber else afterInteger positive 0
    | some d => integerDigits positive (← remaining) d
    | none => failHere .invalidNumber

/-- The value of a hexadecimal digit byte. -/
def hexOf (c : UInt8) : Option Nat :=
  if 48 ≤ c && c ≤ 57 then some (c.toNat - 48)
  else if 65 ≤ c && c ≤ 70 then some (c.toNat - 55)
  else if 97 ≤ c && c ≤ 102 then some (c.toNat - 87)
  else none

/-- Four hex digits: all four are consumed before they are checked; fewer than four left is the
end of the string. -/
def hex4 : Read Nat := do
  let b ← read
  let i ← get
  if i + 4 ≤ b.size then
    set (i + 4)
    let ds := (List.range 4).map fun k => b[i + k]?.bind hexOf
    match ds with
    | [some a, some c, some d, some e] => pure (((a * 16 + c) * 16 + d) * 16 + e)
    | _ => failHere .invalidEscape
  else
    set b.size
    failHere .eofString

/-- The bytes of a code point in UTF-8. -/
def utf8 (n : Nat) : List UInt8 :=
  (String.singleton (Char.ofNat n)).toUTF8.toList

/-- A `\u` escape, `u` consumed: a surrogate pair makes one code point, and a surrogate alone is
refused. -/
def unicodeEscape : Read (List UInt8) := do
  let n ← hex4
  if 0xDC00 ≤ n && n ≤ 0xDFFF then failHere .loneSurrogate
  else if n < 0xD800 || n > 0xDBFF then pure (utf8 n)
  else
    match ← peek with
    | none => failHere .eofString
    | some c =>
      bump
      if c != 92 then failHere .unexpectedEndOfHexEscape
      else
        match ← peek with
        | none => failHere .eofString
        | some c =>
          bump
          if c != 117 then failHere .unexpectedEndOfHexEscape
          else
            let n2 ← hex4
            if n2 < 0xDC00 || n2 > 0xDFFF then failHere .loneSurrogate
            else pure (utf8 ((((n - 0xD800) <<< 10) ||| (n2 - 0xDC00)) + 0x10000))

/-- An escape, backslash consumed. -/
def escape : Read (List UInt8) := do
  match ← next with
  | none => failHere .eofString
  | some c =>
    if c == 34 then pure [34]
    else if c == 92 then pure [92]
    else if c == 47 then pure [47]
    else if c == 98 then pure [8]
    else if c == 102 then pure [12]
    else if c == 110 then pure [10]
    else if c == 114 then pure [13]
    else if c == 116 then pure [9]
    else if c == 117 then unicodeEscape
    else failHere .invalidEscape

/-- The index of the first quote, backslash or control byte from `i` on. -/
def stopFrom (b : ByteArray) : Nat → Nat → Nat
  | i, 0 => i
  | i, fuel + 1 =>
    match b[i]? with
    | some c => if c == 34 || c == 92 || c < 32 then i else stopFrom b (i + 1) fuel
    | none => i

/-- The bytes of a string body up to its closing quote, which is consumed. -/
def stringBytes : Nat → Array UInt8 → Read (Array UInt8)
  | 0, _ => failHere .eofString
  | fuel + 1, acc => do
    let b ← read
    let i ← get
    let j := stopFrom b i (b.size - i)
    let acc := acc ++ (b.extract i j).toList.toArray
    set j
    match b[j]? with
    | none => failHere .eofString
    | some 34 => do bump; pure acc
    | some 92 => do
      bump
      let e ← escape
      stringBytes fuel (acc ++ e.toArray)
    | some _ => do bump; failHere .controlCharacter

/-- **A string**, opening quote consumed. -/
def string : Read String := do
  let bytes ← stringBytes (← remaining) #[]
  pure ((String.fromUTF8? (ByteArray.mk bytes)).getD "")

/-- An escape skipped, backslash consumed. -/
def skipEscape : Read Unit := do
  match ← next with
  | none => failHere .eofString
  | some c =>
    if c == 34 || c == 92 || c == 47 || c == 98 || c == 102 || c == 110 || c == 114 || c == 116 then
      pure ()
    else if c == 117 then do let _ ← hex4; pure ()
    else failHere .invalidEscape

/-- A string skipped, opening quote consumed; a control byte is reported where it stands. -/
def skipString : Nat → Read Unit
  | 0 => failHere .eofString
  | fuel + 1 => do
    let b ← read
    let i ← get
    let j := stopFrom b i (b.size - i)
    set j
    match b[j]? with
    | none => failHere .eofString
    | some 34 => bump
    | some 92 => do bump; skipEscape; skipString fuel
    | some _ => failHere .controlCharacter

/-- A number skipped: only its form is checked. -/
def skipNumber : Read Unit := do
  match ← next with
  | some 48 => if (← peekDigit).isSome then failAhead .invalidNumber else pure ()
  | some c => if (digitOf c).isSome then skipDigits (← remaining) else failHere .invalidNumber
  | none => failHere .invalidNumber
  match ← peek with
  | some 46 =>
    bump
    if (← peekDigit).isNone then failAhead .invalidNumber
    else
      skipDigits (← remaining)
      match ← peek with
      | some 101 | some 69 => skipExponent
      | _ => pure ()
  | some 101 | some 69 => skipExponent
  | _ => pure ()
where
  /-- An exponent skipped, `e` next. -/
  skipExponent : Read Unit := do
    bump
    match ← peek with
    | some 43 | some 45 => bump
    | _ => pure ()
    match ← next with
    | some c => if (digitOf c).isSome then skipDigits (← remaining) else failHere .invalidNumber
    | none => failHere .invalidNumber

/-- **The start of a list element**: `false` at the closing bracket (not consumed), `true` when
an element follows, after its comma if it is not the first. -/
def nextElement (first : Bool) : Read Bool := do
  let p ← skipBlank
  let p ← match p with
    | some 93 => return false
    | some 44 => if first then pure (some 44) else do bump; skipBlank
    | some c => if first then pure (some c) else failAhead .expectedListCommaOrEnd
    | none => failAhead .eofList
  match p with
  | some 93 => failAhead .trailingComma
  | some _ => pure true
  | none => failAhead .eofValue

/-- **The start of an object member**: its key, or `none` at the closing brace (not consumed). -/
def nextKey (first : Bool) : Read (Option String) := do
  let p ← skipBlank
  let p ← match p with
    | some 125 => return none
    | some 44 => if first then pure (some 44) else do bump; skipBlank
    | some c => if first then pure (some c) else failAhead .expectedObjectCommaOrEnd
    | none => failAhead .eofObject
  match p with
  | some 34 => do bump; some <$> string
  | some 125 => failAhead .trailingComma
  | some _ => failAhead .keyMustBeString
  | none => failAhead .eofValue

/-- The colon after a key. -/
def colon : Read Unit := do
  match ← skipBlank with
  | some 58 => bump
  | some _ => failAhead .expectedColon
  | none => failAhead .eofObject

/-- The end of a list: the closing bracket is consumed; after a comma the next byte decides
between a trailing comma and trailing characters. -/
def endList : Read Unit := do
  match ← skipBlank with
  | some 93 => bump
  | some 44 =>
    bump
    match ← skipBlank with
    | some 93 => failAhead .trailingComma
    | _ => failAhead .trailingCharacters
  | some _ => failAhead .trailingCharacters
  | none => failAhead .eofList

/-- The end of an object: the closing brace is consumed. -/
def endObject : Read Unit := do
  match ← skipBlank with
  | some 125 => bump
  | some 44 => failAhead .trailingComma
  | some _ => failAhead .trailingCharacters
  | none => failAhead .eofObject

/-- Runs the contents of a bracketed value, then its end, even after the contents failed;
the first failure wins. -/
def closed {α : Type} (contents : Read α) (finish : Read Unit) : Read α := do
  let r ← attempt contents
  let e ← attempt finish
  match r, e with
  | .ok a, .ok () => pure a
  | .error f, _ => throw f
  | .ok _, .error f => throw f

/-- **Any value skipped**, with only its syntax checked. -/
def skipValue : Nat → Read Unit
  | 0 => failHere .recursionLimit
  | fuel + 1 => do
    match ← skipBlank with
    | none => failAhead .eofValue
    | some c =>
      if c == 110 then do bump; ident [117, 108, 108]
      else if c == 116 then do bump; ident [114, 117, 101]
      else if c == 102 then do bump; ident [97, 108, 115, 101]
      else if c == 45 then do bump; skipNumber
      else if (digitOf c).isSome then skipNumber
      else if c == 34 then do bump; skipString (← remaining)
      else if c == 91 then do bump; skipItems fuel true
      else if c == 123 then do bump; skipMembers fuel true
      else failAhead .expectedValue
where
  /-- List elements skipped up to and with the closing bracket. -/
  skipItems : Nat → Bool → Read Unit
    | 0, _ => failHere .recursionLimit
    | fuel + 1, first => do
      match ← skipBlank with
      | some 93 => bump
      | some 44 => if first then failAhead .expectedValue else do bump; skipValue fuel; skipItems fuel false
      | some _ => if first then do skipValue fuel; skipItems fuel false else failAhead .expectedListCommaOrEnd
      | none => failAhead .eofList
  /-- Object members skipped up to and with the closing brace. -/
  skipMembers : Nat → Bool → Read Unit
    | 0, _ => failHere .recursionLimit
    | fuel + 1, first => do
      match ← skipBlank with
      | some 125 => bump
      | some 44 =>
        if first then failAhead .keyMustBeString
        else do bump; member fuel; skipMembers fuel false
      | some _ => if first then do member fuel; skipMembers fuel false else failAhead .expectedObjectCommaOrEnd
      | none => failAhead .eofObject
  /-- One member skipped: key, colon, value. -/
  member : Nat → Read Unit
    | 0 => failHere .recursionLimit
    | fuel + 1 => do
      match ← skipBlank with
      | some 34 => bump
      | some _ => failAhead .keyMustBeString
      | none => failAhead .eofObject
      skipString (← remaining)
      match ← skipBlank with
      | some 58 => bump
      | some _ => failAhead .expectedColon
      | none => failAhead .eofObject
      skipValue fuel

/-- What was found at the next byte, where something else was `expected`: the value is read
far enough to name it (a scalar completely, a list or object not at all). Problems with the
text itself come first. -/
def invalidHere (expected : String) : Read Failure := do
  let f ← attempt do
    match ← peek with
    | some 110 => do bump; ident [117, 108, 108]; pure (Problem.invalidType .null expected)
    | some 116 => do bump; ident [114, 117, 101]; pure (Problem.invalidType (.bool true) expected)
    | some 102 => do bump; ident [97, 108, 115, 101]; pure (Problem.invalidType (.bool false) expected)
    | some 45 => do bump; let n ← number false; pure (Problem.invalidType (found n) expected)
    | some 34 => do bump; let s ← string; pure (Problem.invalidType (.str s) expected)
    | some 91 => pure (Problem.invalidType .seq expected)
    | some 123 => pure (Problem.invalidType .map expected)
    | some c =>
      if (digitOf c).isSome then do let n ← number true; pure (Problem.invalidType (found n) expected)
      else failAhead .expectedValue
    | none => failAhead .expectedValue
  match f with
  | .ok p => place ⟨p, none⟩
  | .error f => pure f
where
  /-- How a number read is named. -/
  found : Number → Found
    | .unsigned n => .unsigned n
    | .negative i => .signed i
    | .float x => .float x

/-- **Any value**, as a `Value`, nesting at most `depth` lists and objects deep. -/
def value (depth : Nat) : Nat → Read Value
  | 0 => failHere .recursionLimit
  | fuel + 1 => placed do
    match ← skipBlank with
    | none => failAhead .eofValue
    | some c =>
      if c == 110 then do bump; ident [117, 108, 108]; pure .null
      else if c == 116 then do bump; ident [114, 117, 101]; pure (.bool true)
      else if c == 102 then do bump; ident [97, 108, 115, 101]; pure (.bool false)
      else if c == 45 then do bump; .num <$> number false
      else if (digitOf c).isSome then .num <$> number true
      else if c == 34 then do bump; .str <$> string
      else if c == 91 then
        if depth ≤ 1 then failAhead .recursionLimit
        else do bump; .arr <$> closed (items (depth - 1) fuel true []) endList
      else if c == 123 then
        if depth ≤ 1 then failAhead .recursionLimit
        else do bump; .obj <$> closed (members (depth - 1) fuel true []) endObject
      else failAhead .expectedValue
where
  /-- List elements up to the closing bracket (not consumed). -/
  items (depth : Nat) : Nat → Bool → List Value → Read (List Value)
    | 0, _, _ => failHere .recursionLimit
    | fuel + 1, first, acc => do
      if ← nextElement first then
        let v ← value depth fuel
        items depth fuel false (acc ++ [v])
      else pure acc
  /-- Object members up to the closing brace (not consumed). -/
  members (depth : Nat) : Nat → Bool → List (String × Value) → Read (List (String × Value))
    | 0, _, _ => failHere .recursionLimit
    | fuel + 1, first, acc => do
      match ← nextKey first with
      | some k =>
        colon
        let v ← value depth fuel
        members depth fuel false (acc ++ [(k, v)])
      | none => pure acc

/-- The end of a document: only blanks may follow its value. -/
def finish : Read Unit := do
  match ← skipBlank with
  | some _ => failAhead .trailingCharacters
  | none => pure ()

end Read

/-- Fuel for reading a text: more than its bytes can use up. -/
def fuelFor (text : String) : Nat := 8 * (text.utf8ByteSize + 4)

/-- **Reads a whole document** as a value. -/
def Value.parse (text : String) : Except Failure Value :=
  Read.run (do let v ← Read.value 128 (fuelFor text); Read.finish; pure v) text

end Tensegrity.Json
