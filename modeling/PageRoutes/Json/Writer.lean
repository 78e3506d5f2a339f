import PageRoutes.Decimal.Shortest
import PageRoutes.Json.Basic
/-!
# Writing JSON

The text of a JSON value, with two spaces for each level of nesting and every element and member on
a line of its own. Empty arrays and objects take no line break. A floating-point number is written
with its shortest digits: positionally, with at least one digit after the point, while its first
digit lies between the fifth place after the point and the sixteenth before it, and with an exponent
beyond.
-/

namespace PageRoutes.Json

/-- A hexadecimal digit in lower case. -/
def hexDigit (n : Nat) : Char := (Nat.toDigits 16 (n % 16)).headD '0'

/-- A character inside a string literal. -/
def escapeChar (c : Char) : List Char :=
  if c == '\x22' then ['\\', '\x22']
  else if c == '\\' then ['\\', '\\']
  else if c == '\x08' then ['\\', 'b']
  else if c == '\x0c' then ['\\', 'f']
  else if c == '\n' then ['\\', 'n']
  else if c == '\r' then ['\\', 'r']
  else if c == '\t' then ['\\', 't']
  else if c.toNat < 0x20 then ['\\', 'u', '0', '0', hexDigit (c.toNat / 16), hexDigit c.toNat]
  else [c]

/-- The string literal of a text. -/
def quote (s : String) : String :=
  String.ofList ('\x22' :: s.toList.flatMap escapeChar ++ ['\x22'])

/-- The text of a positive decimal `digits * 10 ^ exponent`. -/
def decimalText (digits : Nat) (exponent : Int) : String :=
  let ds := Nat.toDigits 10 digits
  let count := ds.length
  let point := Int.ofNat count + exponent
  if 0 ≤ exponent && point ≤ 16 then
    String.ofList (ds ++ List.replicate exponent.toNat '0' ++ ['.', '0'])
  else if 0 < point && point ≤ 16 then
    String.ofList (ds.take point.toNat ++ '.' :: ds.drop point.toNat)
  else if -5 < point && point ≤ 0 then
    String.ofList (['0', '.'] ++ List.replicate (-point).toNat '0' ++ ds)
  else
    let fraction := if count == 1 then [] else '.' :: ds.drop 1
    String.ofList (ds.take 1 ++ fraction) ++ "e" ++ toString (point - 1)

/-- The text of a floating-point number. -/
def floatText (isNegative : Bool) (magnitude : Binary64) : String :=
  let sign := if isNegative then "-" else ""
  if magnitude.significand == 0 then sign ++ "0.0"
  else
    let d := Shortest.decimal magnitude
    sign ++ decimalText d.1 d.2

/-- The text of a number. -/
def numberText : JsonNumber → String
  | .natural n => toString n
  | .negative n => "-" ++ toString n
  | .float isNegative magnitude => floatText isNegative magnitude

/-- The blanks in front of a line at some level of nesting. -/
def indentation (level : Nat) : String := String.ofList (List.replicate (2 * level) ' ')

/-- Lays out the texts of elements or members between two brackets. -/
def bracketed (left right : String) (level : Nat) (items : List String) : String :=
  if items.isEmpty then left ++ right
  else
    let line := "\n" ++ indentation (level + 1)
    left ++ line ++ String.intercalate ("," ++ line) items ++ "\n" ++ indentation level ++ right

mutual

/-- The text of a value whose first line stands at the given level of nesting. -/
def pretty (level : Nat) : Json → String
  | .null => "null"
  | .bool true => "true"
  | .bool false => "false"
  | .number n => numberText n
  | .string s => quote s
  | .array items => bracketed "[" "]" level (prettyItems (level + 1) items)
  | .object members => bracketed "\x7b" "\x7d" level (prettyMembers (level + 1) members)

/-- The texts of the elements of an array. -/
def prettyItems (level : Nat) : List Json → List String
  | [] => []
  | item :: rest => pretty level item :: prettyItems level rest

/-- The texts of the members of an object. -/
def prettyMembers (level : Nat) : List (String × Json) → List String
  | [] => []
  | (key, value) :: rest => (quote key ++ ": " ++ pretty level value) :: prettyMembers level rest

end

end PageRoutes.Json
