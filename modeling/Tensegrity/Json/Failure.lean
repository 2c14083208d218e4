import Tensegrity.Decimal.Notation
import Tensegrity.Text

/-!
# Why a JSON document was refused

A document is refused either because its text is not JSON (an unclosed list, a bad escape, a
number out of range) or because its value does not have the shape that was asked for (a string
where a number belongs, a missing field). A `Failure` names the problem and, when it is known,
the line and column where reading stopped; its message is the problem's text followed by
`at line L column C`.

A column counts the bytes from the start of the line up to the place it names, so a problem
reported at the first byte of a line is in column 1, and one reported before any byte of it is
in column 0.
-/

namespace Tensegrity.Json

/-- Numbers in messages about JSON values: the fewest digits, positional for leading-digit
exponents from `-5` to `15`, an integral value keeps `.0`, a positive exponent is written with
`+` (`1e+16`, `1.5e-7`), and a tie goes to the even digit. -/
def messageNumber : Decimal.Notation where
  plainFrom := some (-5)
  plainBelow := some 16
  pointZero := true
  exponentPlus := true
  tie := .toEven
  nan := "NaN"
  infinity := "inf"

/-- **What was found** where a value of another kind was expected. -/
inductive Found where
  /-- `null`. -/
  | null
  /-- A boolean. -/
  | bool (b : Bool)
  /-- A non-negative integer. -/
  | unsigned (n : Nat)
  /-- A negative integer. -/
  | signed (i : Int)
  /-- A number with a fraction or an exponent, or one too large for an integer. -/
  | float (x : Float)
  /-- A string. -/
  | str (s : String)
  /-- A list. -/
  | seq
  /-- An object. -/
  | map
  /-- A variant named by a bare string, with no content. -/
  | unitVariant
deriving Inhabited

/-- How a found value is named in a message. -/
def Found.text : Found → String
  | .null => "null"
  | .bool b => "boolean `" ++ toString b ++ "`"
  | .unsigned n => "integer `" ++ Decimal.natText n ++ "`"
  | .signed i => "integer `" ++ Decimal.intText i ++ "`"
  | .float x => "floating point `" ++ messageNumber.ofFloat x ++ "`"
  | .str s => "string " ++ Text.quote s
  | .seq => "sequence"
  | .map => "map"
  | .unitVariant => "unit variant"

/-- **A problem** met while reading a document. -/
inductive Problem where
  /-- The text ended inside a list. -/
  | eofList
  /-- The text ended inside an object. -/
  | eofObject
  /-- The text ended inside a string. -/
  | eofString
  /-- The text ended where a value was due. -/
  | eofValue
  /-- No colon after an object key. -/
  | expectedColon
  /-- Neither a comma nor the end of a list. -/
  | expectedListCommaOrEnd
  /-- Neither a comma nor the end of an object. -/
  | expectedObjectCommaOrEnd
  /-- A misspelt `null`, `true` or `false`. -/
  | expectedIdent
  /-- No value begins here. -/
  | expectedValue
  /-- A backslash escape that JSON does not have. -/
  | invalidEscape
  /-- Malformed number text. -/
  | invalidNumber
  /-- A number too large to hold. -/
  | numberOutOfRange
  /-- A raw control character inside a string. -/
  | controlCharacter
  /-- An object key that is not a string. -/
  | keyMustBeString
  /-- A surrogate escape without its partner. -/
  | loneSurrogate
  /-- A comma before a closing bracket. -/
  | trailingComma
  /-- Text after the end of the value. -/
  | trailingCharacters
  /-- A high surrogate escape not followed by a `\u` escape. -/
  | unexpectedEndOfHexEscape
  /-- Nesting deeper than the reader allows. -/
  | recursionLimit
  /-- A value of the wrong kind. -/
  | invalidType (found : Found) (expected : String)
  /-- A value of the right kind that is out of range. -/
  | invalidValue (found : Found) (expected : String)
  /-- A list with the wrong number of elements. -/
  | invalidLength (length : Nat) (expected : String)
  /-- A required field that is not there. -/
  | missingField (name : String)
  /-- A field given twice. -/
  | duplicateField (name : String)
  /-- A variant name that the type does not have. -/
  | unknownVariant (name : String) (variants : List String)
deriving Inhabited

/-- A list of names in backquotes: one name, `a` or `b`, or one of a list. -/
def oneOf (names : List String) : String :=
  let q := fun (n : String) => "`" ++ n ++ "`"
  match names with
  | [a] => q a
  | [a, b] => q a ++ " or " ++ q b
  | _ => "one of " ++ ", ".intercalate (names.map q)

/-- The text of a problem. -/
def Problem.text : Problem → String
  | .eofList => "EOF while parsing a list"
  | .eofObject => "EOF while parsing an object"
  | .eofString => "EOF while parsing a string"
  | .eofValue => "EOF while parsing a value"
  | .expectedColon => "expected `:`"
  | .expectedListCommaOrEnd => "expected `,` or `]`"
  | .expectedObjectCommaOrEnd => "expected `,` or `\x7d`"
  | .expectedIdent => "expected ident"
  | .expectedValue => "expected value"
  | .invalidEscape => "invalid escape"
  | .invalidNumber => "invalid number"
  | .numberOutOfRange => "number out of range"
  | .controlCharacter => "control character (\\u0000-\\u001F) found while parsing a string"
  | .keyMustBeString => "key must be a string"
  | .loneSurrogate => "lone leading surrogate in hex escape"
  | .trailingComma => "trailing comma"
  | .trailingCharacters => "trailing characters"
  | .unexpectedEndOfHexEscape => "unexpected end of hex escape"
  | .recursionLimit => "recursion limit exceeded"
  | .invalidType f e => "invalid type: " ++ f.text ++ ", expected " ++ e
  | .invalidValue f e => "invalid value: " ++ f.text ++ ", expected " ++ e
  | .invalidLength n e => "invalid length " ++ Decimal.natText n ++ ", expected " ++ e
  | .missingField n => "missing field `" ++ n ++ "`"
  | .duplicateField n => "duplicate field `" ++ n ++ "`"
  | .unknownVariant n [] => "unknown variant `" ++ n ++ "`, there are no variants"
  | .unknownVariant n vs => "unknown variant `" ++ n ++ "`, expected " ++ oneOf vs

/-- A place in a document: line from 1, column in bytes. -/
structure Position where
  /-- The line, counted from 1. -/
  line : Nat
  /-- The bytes of the line before the place. -/
  column : Nat
deriving Inhabited

/-- **A refused document**: the problem and, when known, where reading stopped. -/
structure Failure where
  /-- What went wrong. -/
  problem : Problem
  /-- Where, if known. -/
  position : Option Position := none
deriving Inhabited

/-- The message of a failure. -/
def Failure.message (f : Failure) : String :=
  match f.position with
  | some p => f.problem.text ++ " at line " ++ Decimal.natText p.line ++ " column " ++
      Decimal.natText p.column
  | none => f.problem.text

end Tensegrity.Json
