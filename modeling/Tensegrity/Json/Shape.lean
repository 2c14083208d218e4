import Tensegrity.Json.Reader

/-!
# Reading documents of a given shape

A `Shape` says what a document must hold: single-precision numbers, indices, flags, strings,
lists, fixed-length lists, records with named fields, a choice among named variants, and
optional values. Reading a text against a shape gives a `Datum`, the same tree with the values
in it, or the first problem met.

The reader checks the shape while it walks the text, so a value of the wrong kind is reported
where it stands even if the text is broken further on. Records are written as objects whose
members may come in any order, with unknown members skipped and only optional fields allowed
to be missing, or as lists of all their fields in order (a list too short names the field count,
`with 1 element` or `with n elements`). A variant is written as an object with one member, the
variant's name mapped to its content: an empty object lacks a value, and a key that is not a
string is refused as such. The expected kinds are named in messages as follows: `f32`, `usize`,
`a boolean`, `a string`, `path string`, `a sequence`, the text given for a fixed-length list,
`struct R` for a record `R`, and `variant identifier` for the name of a variant.
-/

namespace Tensegrity.Json

/-- **The shape of a document.** -/
inductive Shape where
  /-- A number, kept in single precision. -/
  | real
  /-- A non-negative integer below `2^64`. -/
  | index
  /-- `true` or `false`. -/
  | flag
  /-- A string. -/
  | text
  /-- A string naming a file. -/
  | path
  /-- A list of any length. -/
  | list (item : Shape)
  /-- A list of exactly `n` items; `expecting` names it in messages. -/
  | tuple (n : Nat) (item : Shape) (expecting : String)
  /-- A record with named fields, in declaration order. -/
  | record (name : String) (fields : List (String × Shape))
  /-- One of several variants, each with content of its own shape. -/
  | variants (name : String) (cases : List (String × Shape))
  /-- A value or `null`; as a record field it may also be missing. -/
  | optional (item : Shape)
deriving Inhabited

/-- **A document read against a shape.** -/
inductive Datum where
  /-- A number, in single precision. -/
  | real (x : Float32)
  /-- An index. -/
  | index (n : Nat)
  /-- A flag. -/
  | flag (b : Bool)
  /-- A string. -/
  | text (s : String)
  /-- An optional value that is `null` or missing. -/
  | absent
  /-- An optional value that is there. -/
  | present (d : Datum)
  /-- The items of a list. -/
  | items (ds : List Datum)
  /-- The fields of a record, in declaration order. -/
  | fields (ds : List Datum)
  /-- Variant number `i` with its content. -/
  | variant (i : Nat) (d : Datum)
deriving Inhabited

/-- Whether a field of this shape may be missing. -/
def Shape.isOptional : Shape → Bool
  | .optional _ => true
  | _ => false

/-- The position of a name in a list of named things. -/
def indexOfName {α : Type} (names : List (String × α)) (n : String) : Option Nat :=
  names.findIdx? (·.1 == n)

namespace Read

/-- A number converted to single precision: integers directly, floats from binary64. -/
def toReal : Number → Float32
  | .unsigned n => n.toUInt64.toFloat32
  | .negative i => -(i.natAbs.toUInt64.toFloat32)
  | .float x => x.toFloat32

/-- Takes a number as `Shape.real` or `Shape.index` takes it. -/
def takeNumber (asIndex : Bool) (n : Number) : Except Problem Datum :=
  if asIndex then
    match n with
    | .unsigned k => .ok (.index k)
    | .negative i => .error (.invalidValue (.signed i) "usize")
    | .float x => .error (.invalidType (.float x) "usize")
  else .ok (.real (toReal n))

/-- Lifts a problem with a found value into a reading step, without a position. -/
def liftProblem {α : Type} : Except Problem α → Read α
  | .ok a => pure a
  | .error p => throw ⟨p, none⟩

/-- **A number** where `Shape.real` or `Shape.index` is expected. -/
def numberDatum (asIndex : Bool) : Read Datum := placed do
  match ← skipBlank with
  | none => failAhead .eofValue
  | some 45 => do bump; liftProblem (takeNumber asIndex (← number false))
  | some c =>
    if (digitOf c).isSome then liftProblem (takeNumber asIndex (← number true))
    else throw (← invalidHere (if asIndex then "usize" else "f32"))

/-- **A flag.** -/
def flagDatum : Read Datum := placed do
  match ← skipBlank with
  | none => failAhead .eofValue
  | some 116 => do bump; ident [114, 117, 101]; pure (.flag true)
  | some 102 => do bump; ident [97, 108, 115, 101]; pure (.flag false)
  | some _ => throw (← invalidHere "a boolean")

/-- **A string**, passed to `take`; `expected` names it in messages. -/
def stringWith {α : Type} (expected : String) (take : String → Except Problem α) : Read α := placed do
  match ← skipBlank with
  | none => failAhead .eofValue
  | some 34 => do bump; liftProblem (take (← string))
  | some _ => throw (← invalidHere expected)

/-- A bracketed list: the items are read by `contents`, then the closing bracket. -/
def listWith {α : Type} (expected : String) (contents : Read α) : Read α := placed do
  match ← skipBlank with
  | none => failAhead .eofValue
  | some 91 => do bump; closed contents endList
  | some _ => throw (← invalidHere expected)

mutual

/-- **Reads a value of a shape.** -/
def datum : Nat → Shape → Read Datum
  | 0, _ => failHere .recursionLimit
  | _ + 1, .real => numberDatum false
  | _ + 1, .index => numberDatum true
  | _ + 1, .flag => flagDatum
  | _ + 1, .text => stringWith "a string" fun s => .ok (.text s)
  | _ + 1, .path => stringWith "path string" fun s => .ok (.text s)
  | fuel + 1, .list item => listWith "a sequence" (.items <$> listItems fuel item true [])
  | fuel + 1, .tuple n item expecting => listWith expecting (.items <$> tupleItems fuel item expecting n 0 [])
  | fuel + 1, .record name fields => recordDatum fuel name fields
  | fuel + 1, .variants _ cases => variantDatum fuel cases
  | fuel + 1, .optional item => do
    match ← skipBlank with
    | some 110 => do bump; ident [117, 108, 108]; pure .absent
    | _ => .present <$> datum fuel item

/-- The items of a list of any length, up to the closing bracket. -/
def listItems : Nat → Shape → Bool → List Datum → Read (List Datum)
  | 0, _, _, _ => failHere .recursionLimit
  | fuel + 1, item, first, acc => do
    if ← nextElement first then
      let d ← datum fuel item
      listItems fuel item false (acc ++ [d])
    else pure acc

/-- The `n` items of a fixed-length list; fewer is an invalid length. -/
def tupleItems : Nat → Shape → String → Nat → Nat → List Datum → Read (List Datum)
  | 0, _, _, _, _, _ => failHere .recursionLimit
  | fuel + 1, item, expecting, n, i, acc =>
    if i ≥ n then pure acc
    else do
      if ← nextElement (i == 0) then
        let d ← datum fuel item
        tupleItems fuel item expecting n (i + 1) (acc ++ [d])
      else throw ⟨.invalidLength i expecting, none⟩

/-- **A record**, as an object or as a list of its fields. -/
def recordDatum : Nat → String → List (String × Shape) → Read Datum
  | 0, _, _ => failHere .recursionLimit
  | fuel + 1, name, fields => placed do
    match ← skipBlank with
    | none => failAhead .eofValue
    | some 91 => do
      bump
      closed (.fields <$> fieldItems fuel name fields.length (fields.map (·.2)) 0 []) endList
    | some 123 => do
      bump
      closed (.fields <$> members fuel fields true (fields.map fun _ => none)) endObject
    | some _ => throw (← invalidHere ("struct " ++ name))

/-- The fields of a record written as a list, in declaration order. -/
def fieldItems : Nat → String → Nat → List Shape → Nat → List Datum → Read (List Datum)
  | 0, _, _, _, _, _ => failHere .recursionLimit
  | _, _, _, [], _, acc => pure acc
  | fuel + 1, name, total, s :: ss, i, acc => do
    if ← nextElement (i == 0) then
      let d ← datum fuel s
      fieldItems fuel name total ss (i + 1) (acc ++ [d])
    else
      throw ⟨.invalidLength i ("struct " ++ name ++ " with " ++ Decimal.natText total ++
        (if total = 1 then " element" else " elements")), none⟩

/-- The members of a record written as an object, up to the closing brace; then each field
in declaration order must have been given unless it is optional. -/
def members : Nat → List (String × Shape) → Bool → List (Option Datum) → Read (List Datum)
  | 0, _, _, _ => failHere .recursionLimit
  | fuel + 1, fields, first, slots => do
    match ← nextKey first with
    | none => liftProblem (collect fields slots)
    | some k =>
      match indexOfName fields k with
      | some i =>
        if (slots[i]?.getD none).isSome then throw ⟨.duplicateField k, none⟩
        else do
          colon
          let d ← datum fuel ((fields[i]?.map (·.2)).getD .real)
          members fuel fields false (slots.set i (some d))
      | none => do
        colon
        skipValue fuel
        members fuel fields false slots

/-- **A variant**: an object of one member, whose key must be a string, or a bare name, which
names no content. An object that closes or ends at once has no variant in it. -/
def variantDatum : Nat → List (String × Shape) → Read Datum
  | 0, _ => failHere .recursionLimit
  | fuel + 1, cases => do
    match ← skipBlank with
    | some 123 => do
      bump
      match ← skipBlank with
      | some 34 => pure ()
      | some 125 => failAhead .expectedValue
      | some _ => failAhead .keyMustBeString
      | none => failAhead .eofObject
      let i ← stringWith "variant identifier" (variantIndex cases)
      colon
      let d ← datum fuel ((cases[i]?.map (·.2)).getD .real)
      match ← skipBlank with
      | some 125 => do bump; pure (.variant i d)
      | some _ => failHere .expectedValue
      | none => failHere .eofObject
    | some 34 => do
      let _ ← stringWith "variant identifier" (variantIndex cases)
      throw ⟨.invalidType .unitVariant "newtype variant", none⟩
    | some _ => failAhead .expectedValue
    | none => failAhead .eofValue

/-- The fields given, with missing optional ones absent; the first missing required field, in
declaration order, is reported. -/
def collect : List (String × Shape) → List (Option Datum) → Except Problem (List Datum)
  | [], _ => .ok []
  | (n, s) :: fs, slot :: slots => do
    let d ← match slot with
      | some d => .ok d
      | none => if s.isOptional then .ok .absent else .error (.missingField n)
    let ds ← collect fs slots
    pure (d :: ds)
  | (n, s) :: fs, [] => do
    let d ← if s.isOptional then .ok .absent else .error (.missingField n)
    let ds ← collect fs []
    pure (d :: ds)

/-- The number of a variant name. -/
def variantIndex (cases : List (String × Shape)) (n : String) : Except Problem Nat :=
  match indexOfName cases n with
  | some i => .ok i
  | none => .error (.unknownVariant n (cases.map (·.1)))

end

end Read

/-- **Reads a whole document** against a shape. -/
def Shape.read (s : Shape) (text : String) : Except Failure Datum :=
  Read.run (do let d ← Read.datum (fuelFor text) s; Read.finish; pure d) text

end Tensegrity.Json
