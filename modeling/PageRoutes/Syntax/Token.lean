import PageRoutes.Decimal.Shortest
import PageRoutes.Syntax.Fault
/-!
# Tokens

The words, symbols and literals that a program text is made of. Keywords are words like any other;
which words have a special meaning depends on where they stand.
-/

namespace PageRoutes.Syntax

/-- A fault and the place in the text where it was noticed. -/
structure Noted where
  place : Nat
  cause : Cause

/-- A token. -/
inductive Token where
  | word (text : String)
  | symbol (text : String)
  | number (raw : String)
  | bigint (raw : String)
  | string (value raw : String)
  /-- A piece of a template, with the fault of its escapes if they are faulty. -/
  | template (raw : String) (fault : Option Noted)
  | regExp (pattern flags : String)
  | shebang (text : String)
  /-- What cannot be read as a token. -/
  | faulty (fault : Noted)

/-- A token in its place. -/
structure Lexeme where
  token : Token
  lo : Nat
  hi : Nat
  /-- Whether a line ends between the token before and this one. -/
  afterLineBreak : Bool
  /-- The text from this token on. -/
  input : List Char

/-! ### Kinds of words -/

/-- The words that are keywords wherever an identifier may stand. -/
def keywords : List String :=
  ["await", "break", "case", "catch", "continue", "debugger", "default", "do", "else", "finally",
    "for", "function", "if", "return", "switch", "throw", "try", "var", "let", "const", "while",
    "with", "new", "this", "super", "class", "extends", "export", "import", "yield", "in",
    "instanceof", "typeof", "void", "delete"]

/-- The words that are literals. -/
def literalWords : List String := ["null", "true", "false"]

/-- Whether a word is a keyword. -/
def isKeyword (word : String) : Bool := keywords.contains word

/-- Whether a word is neither a keyword nor a literal. -/
def isPlainWord (word : String) : Bool := !isKeyword word && !literalWords.contains word

/-- Whether a word is reserved in a module, so that no escape may stand in it. -/
def isReserved (word : String) : Bool :=
  isKeyword word || literalWords.contains word
    || ["enum", "implements", "package", "protected", "interface", "private", "public"].contains word

/-- The operators between two operands. -/
def binaryOperators : List String :=
  ["==", "!=", "===", "!==", "<", "<=", ">", ">=", "<<", ">>", ">>>", "+", "-", "*", "/", "%", "|",
    "^", "&", "||", "&&", "**", "??"]

/-- The assignment operators. -/
def assignOperators : List String :=
  ["=", "+=", "-=", "*=", "/=", "%=", "<<=", ">>=", ">>>=", "|=", "^=", "&=", "**=", "&&=", "||=",
    "??="]

namespace Token

/-- Whether a token is the given symbol. -/
def isSymbol (t : Token) (text : String) : Bool :=
  match t with
  | .symbol s => s == text
  | _ => false

/-- Whether a token is the given word. -/
def isWord (t : Token) (text : String) : Bool :=
  match t with
  | .word s => s == text
  | _ => false

/-- Whether a token is the given symbol or word. -/
def is (t : Token) (text : String) : Bool := t.isSymbol text || t.isWord text

/-- Whether a token is an operator between two operands. -/
def isBinaryOperator : Token → Bool
  | .symbol s => binaryOperators.contains s
  | _ => false

/-- Whether a token is an assignment operator. -/
def isAssignOperator : Token → Bool
  | .symbol s => assignOperators.contains s
  | _ => false

/-- Whether a comment on the same line behind a token belongs to it. -/
def canHaveTrailingComment : Token → Bool
  | .word s => isPlainWord s
  | .symbol s => s == ";" || s == "\x7b" || s == "\x7d" || s == "$\x7b"
  | .number _ | .bigint _ | .string .. | .regExp .. => true
  | _ => false

end Token

/-! ### The value of a number literal -/

/-- The value of a digit in any radix up to sixteen. -/
def digitValue (c : Char) : Nat :=
  if c.isDigit then c.toNat - 48 else if c.toNat < 97 then c.toNat - 55 else c.toNat - 87

/-- The natural number with the given digits. -/
def naturalOf (radix : Nat) (digits : List Char) : Nat :=
  digits.foldl (fun n c => n * radix + digitValue c) 0

/-- The number nearest to `digits * 10 ^ exponent`, or nothing if that is too large. -/
def decimalValue (digits : Nat) (exponent : Int) : Option Binary64 :=
  if digits == 0 || exponent < -100000 then some .zero
  else if exponent > 100000 then none
  else Binary64.ofRatio (digits * Nat.pow 10 exponent.toNat) (Nat.pow 10 (-exponent).toNat)

/-- The integer with an optional sign that a text stands for. -/
def signedOf : List Char → Int
  | '-' :: digits => -Int.ofNat (naturalOf 10 digits)
  | '+' :: digits => naturalOf 10 digits
  | digits => naturalOf 10 digits

/-- The value of a number literal, or nothing if it is beyond the largest number. -/
def numberValue (raw : String) : Option Binary64 :=
  let text := raw.toList.filter (· ≠ '_')
  match text with
  | '0' :: c :: digits =>
    if c == 'x' || c == 'X' then Binary64.ofNat (naturalOf 16 digits)
    else if c == 'o' || c == 'O' then Binary64.ofNat (naturalOf 8 digits)
    else if c == 'b' || c == 'B' then Binary64.ofNat (naturalOf 2 digits)
    else decimal text
  | _ => decimal text
where
  decimal (text : List Char) : Option Binary64 :=
    let isExponentMark (c : Char) : Bool := c == 'e' || c == 'E'
    let mantissa := text.takeWhile fun c => !isExponentMark c
    let exponent := signedOf ((text.dropWhile fun c => !isExponentMark c).drop 1)
    let whole := mantissa.takeWhile (· ≠ '.')
    let fraction := (mantissa.dropWhile (· ≠ '.')).drop 1
    decimalValue (naturalOf 10 (whole ++ fraction)) (exponent - fraction.length)

/-- A number in positional decimal digits, the fewest that read back. -/
def positional : Option Binary64 → String
  | none => "inf"
  | some x =>
    if x.significand == 0 then "0"
    else
      let (digits, exponent) := Shortest.decimal x
      let text := Nat.toDigits 10 digits
      if 0 ≤ exponent then String.ofList (text ++ List.replicate exponent.toNat '0')
      else
        let places := exponent.natAbs
        let padded := List.replicate (places + 1 - text.length) '0' ++ text
        let cut := padded.length - places
        String.ofList (padded.take cut ++ '.' :: padded.drop cut)

/-- A token as it is shown in a message. -/
def Token.shown : Token → String
  | .word s => s
  | .symbol s => s
  | .number raw => "numeric literal (" ++ positional (numberValue raw) ++ ", " ++ raw ++ ")"
  | .bigint raw =>
    let digits := (raw.toList.takeWhile (· ≠ 'n')).filter (· ≠ '_')
    "bigint literal (" ++ toString (naturalOf 10 digits) ++ ", " ++ raw ++ ")"
  | .string value raw => "string literal (" ++ value ++ ", " ++ raw ++ ")"
  | .template raw _ => "template token (" ++ raw ++ ")"
  | .regExp pattern flags => "regexp literal (" ++ pattern ++ ", " ++ flags ++ ")"
  | .shebang text => "shebang " ++ text
  | .faulty _ => "<lexing error>"

end PageRoutes.Syntax
