import Tensegrity.Json.Failure

/-!
# JSON values

A JSON value as read from text: numbers keep the kind they were read as (a non-negative
integer, a negative integer, or a binary64 float), and an object keeps its members in the order
written. Looking up a member takes the last one with that key.

`Value.render` writes a value back as compact JSON text. Floats are written with the fewest
digits that read back, with a `.0` or an exponent so that they read as floats again; strings
escape the quote, the backslash and the control characters.
-/

namespace Tensegrity.Json

/-- **A JSON number** as it was read. -/
inductive Number where
  /-- A non-negative integer. -/
  | unsigned (n : Nat)
  /-- A negative integer. -/
  | negative (i : Int)
  /-- Any other number, as a binary64 float. -/
  | float (x : Float)
deriving Inhabited

/-- **A JSON value.** -/
inductive Value where
  /-- `null`. -/
  | null
  /-- `true` or `false`. -/
  | bool (b : Bool)
  /-- A number. -/
  | num (n : Number)
  /-- A string. -/
  | str (s : String)
  /-- A list. -/
  | arr (items : List Value)
  /-- An object, members in the order written. -/
  | obj (members : List (String × Value))
deriving Inhabited

/-- The text of a number. -/
def Number.text : Number → String
  | .unsigned n => Decimal.natText n
  | .negative i => Decimal.intText i
  | .float x => messageNumber.ofFloat x

namespace Value

/-- The last member with key `k` of an object. -/
def get? (v : Value) (k : String) : Option Value :=
  match v with
  | .obj ms => (ms.reverse.find? (·.1 == k)).map (·.2)
  | _ => none

/-- What a value is, named as in messages about values of the wrong kind. -/
def found : Value → Found
  | .null => .null
  | .bool b => .bool b
  | .num (.unsigned n) => .unsigned n
  | .num (.negative i) => .signed i
  | .num (.float x) => .float x
  | .str s => .str s
  | .arr _ => .seq
  | .obj _ => .map

/-- A float written as JSON: `messageNumber`'s layout, which always shows a point or an
exponent. Non-finite floats have no JSON form; callers write them some other way. -/
def floatText (x : Float) : String := messageNumber.ofFloat x

/-- Four lower-case hex digits. -/
def hex4 (n : Nat) : String :=
  let d := Nat.toDigits 16 n
  String.ofList (List.replicate (4 - d.length) '0' ++ d)

/-- One character of a JSON string. -/
def escapeChar (c : Char) : String :=
  if c = '"' then "\\\""
  else if c = '\\' then "\\\\"
  else if c = '\n' then "\\n"
  else if c = '\r' then "\\r"
  else if c = '\t' then "\\t"
  else if c = '\x08' then "\\b"
  else if c = '\x0c' then "\\f"
  else if c.toNat < 0x20 then "\\u" ++ hex4 c.toNat
  else c.toString

/-- A JSON string literal. -/
def quote (s : String) : String := "\"" ++ String.join (s.toList.map escapeChar) ++ "\""

/-- **Compact JSON text** of a value. -/
def render : Value → String
  | .null => "null"
  | .bool b => if b then "true" else "false"
  | .num n => n.text
  | .str s => quote s
  | .arr items => "[" ++ renderItems items ++ "]"
  | .obj ms => "\x7b" ++ renderMembers ms ++ "\x7d"
where
  /-- List items, separated by commas. -/
  renderItems : List Value → String
    | [] => ""
    | [v] => render v
    | v :: vs => render v ++ "," ++ renderItems vs
  /-- Object members, separated by commas. -/
  renderMembers : List (String × Value) → String
    | [] => ""
    | [(k, v)] => quote k ++ ":" ++ render v
    | (k, v) :: ms => quote k ++ ":" ++ render v ++ "," ++ renderMembers ms

end Value

end Tensegrity.Json
