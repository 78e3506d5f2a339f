import PageRoutes.Json.Writer
/-!
# Faults of a JSON text

What can be wrong with a JSON text, and where. A place is a line, counted from one, and the number
of bytes read on that line.
-/

namespace PageRoutes.Json

/-- What a value turned out to be where another kind was wanted. -/
inductive Found where
  | null
  | bool (b : Bool)
  | number (n : JsonNumber)
  | string (s : String)
  | array
  | object
  deriving Repr

/-- What was wanted instead. -/
inductive Wanted where
  | optionsObject
  | pathText
  | unit
  | historyName
  deriving DecidableEq, Repr

/-- What is wrong with a text. -/
inductive Cause where
  | endInList
  | endInObject
  | endInString
  | endInValue
  | expectedColon
  | expectedListCommaOrEnd
  | expectedObjectCommaOrEnd
  | expectedIdent
  | expectedValue
  | invalidEscape
  | invalidNumber
  | numberOutOfRange
  | controlCharacter
  | keyNotString
  | loneSurrogate
  | trailingComma
  | trailingCharacters
  | unfinishedPair
  | tooDeep
  | wrongKind (found : Found) (wanted : Wanted)
  | duplicateField (name : String)
  | unknownHistory (name : String)
  deriving Repr

/-- A fault and its place. -/
structure Fault where
  cause : Cause
  line : Nat
  column : Nat
  deriving Repr

/-- A text between double quotes as a message shows it: quotes, backslashes and control characters
are escaped. -/
def quoteInMessage (s : String) : String :=
  "\x22" ++ String.ofList (s.toList.flatMap shown) ++ "\x22"
where
  shown (c : Char) : List Char :=
    if c == '\x22' then ['\\', '\x22']
    else if c == '\\' then ['\\', '\\']
    else if c == '\n' then ['\\', 'n']
    else if c == '\r' then ['\\', 'r']
    else if c == '\t' then ['\\', 't']
    else if c == '\x00' then ['\\', '0']
    else if c.toNat < 0x20 || c.toNat == 0x7f then
      ['\\', 'u', '\x7b'] ++ Nat.toDigits 16 c.toNat ++ ['\x7d']
    else [c]

/-- A found value in the words of a message. -/
def Found.message : Found → String
  | .null => "null"
  | .bool b => "boolean `" ++ (if b then "true" else "false") ++ "`"
  | .number (.float neg m) => "floating point `" ++ floatText neg m ++ "`"
  | .number n => "integer `" ++ numberText n ++ "`"
  | .string s => "string " ++ quoteInMessage s
  | .array => "sequence"
  | .object => "map"

/-- A wanted kind in the words of a message. -/
def Wanted.message : Wanted → String
  | .optionsObject => "struct Options"
  | .pathText => "path string"
  | .unit => "unit"
  | .historyName => "variant identifier"

/-- A cause in words. -/
def Cause.message : Cause → String
  | .endInList => "EOF while parsing a list"
  | .endInObject => "EOF while parsing an object"
  | .endInString => "EOF while parsing a string"
  | .endInValue => "EOF while parsing a value"
  | .expectedColon => "expected `:`"
  | .expectedListCommaOrEnd => "expected `,` or `]`"
  | .expectedObjectCommaOrEnd => "expected `,` or `\x7d`"
  | .expectedIdent => "expected ident"
  | .expectedValue => "expected value"
  | .invalidEscape => "invalid escape"
  | .invalidNumber => "invalid number"
  | .numberOutOfRange => "number out of range"
  | .controlCharacter => "control character (\\u0000-\\u001F) found while parsing a string"
  | .keyNotString => "key must be a string"
  | .loneSurrogate => "lone leading surrogate in hex escape"
  | .trailingComma => "trailing comma"
  | .trailingCharacters => "trailing characters"
  | .unfinishedPair => "unexpected end of hex escape"
  | .tooDeep => "recursion limit exceeded"
  | .wrongKind found wanted =>
    "invalid type: " ++ found.message ++ ", expected " ++ wanted.message
  | .duplicateField name => "duplicate field `" ++ name ++ "`"
  | .unknownHistory name =>
    "unknown variant `" ++ name ++ "`, expected `history` or `hash`"

/-- The fault in words, with its place. -/
def Fault.message (f : Fault) : String :=
  f.cause.message ++ " at line " ++ toString f.line ++ " column " ++ toString f.column

end PageRoutes.Json
