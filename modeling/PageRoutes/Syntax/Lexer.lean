import PageRoutes.Syntax.Comments
import PageRoutes.Syntax.Token
import PageRoutes.Text.IdentifierChar
/-!
# From text to tokens

Tokens are read one at a time, because what a character begins can depend on where it stands: inside
a template text is taken as it is, inside a type angle brackets stand alone, and a slash begins a
regular expression only where the reader of the tokens says so.

Comments are collected on the way. A comment on the line of the token before it trails that token,
if the token is one that can have trailing comments, and otherwise it leads the next token. What
leads the end of the text trails the last token instead.

## Main definitions

* `Lexer` : where the reading stands.
* `Lexer.next` : the next token.
-/

namespace PageRoutes.Syntax

/-- What a closing bracket will close. -/
inductive Bracket where
  | plain
  /-- An expression inside a template. -/
  | hole
  /-- The text of a template. -/
  | quasi
  deriving DecidableEq

/-- What the reader of the tokens knows about the place that has been reached. -/
structure LexMode where
  /-- Inside a type, where angle brackets are no operators. -/
  inType : Bool := false
  /-- Inside a type but at an operator that may begin with angle brackets. -/
  plainAngles : Bool := false
  /-- Whether faults that do not stop the reading are passed over. -/
  ignoreFaults : Bool := false

/-- Where the reading of a text stands. -/
structure Lexer where
  rest : List Char
  pos : Nat
  /-- The place where the text begins. -/
  start : Nat
  /-- A number above the length of the text, which bounds every repetition. -/
  bound : Nat
  isFirst : Bool := true
  lineBreak : Bool := false
  brackets : List Bracket := []
  last : Option Token := none
  lastHi : Nat
  /-- Comments that will lead the next token, the last one first. -/
  pending : List Comment := []
  /-- Comments that have a place but are not filed yet, the last one first. -/
  unfiled : List Filed := []
  /-- A slash that begins a regular expression, until it has been read. -/
  regExpAt : Option (List Char × Nat) := none
  templateStart : Nat := 0
  /-- The place where the token that is being read begins. -/
  tokenAt : Nat
  comments : Comments := {}
  /-- The faults that did not stop the reading, the last one first. -/
  noted : List Noted := []

/-- A reading step, which keeps its progress when it fails. -/
abbrev Lex (α : Type) := EStateM Noted Lexer α

namespace Lexer

/-- The lexer at the beginning of a text that starts at a place. -/
def ofText (start : Nat) (text : List Char) : Lexer :=
  { rest := text, pos := start, start, bound := text.length + 1, lastHi := start, tokenAt := start }

/-- The number of bytes of a text. -/
def byteLength (text : List Char) : Nat := text.foldl (fun n c => n + c.utf8Size) 0

/-- The beginning of a text with the given number of bytes. -/
def takeBytes : List Char → Nat → List Char
  | [], _ => []
  | c :: rest, n => if n < c.utf8Size then [] else c :: takeBytes rest (n - c.utf8Size)

/-- Moves over the given text to the text behind it. -/
def moveOver (text rest : List Char) (l : Lexer) : Lexer :=
  { l with rest, pos := l.pos + byteLength text }

/-- Moves over one character. -/
def skip : Lex Unit :=
  modify fun l =>
    match l.rest with
    | c :: rest => { l with rest, pos := l.pos + c.utf8Size }
    | [] => l

/-- Moves over several characters. -/
def skipMany : Nat → Lex Unit
  | 0 => pure ()
  | n + 1 => do
    skip
    skipMany n

/-- The next character. -/
def peek : Lex (Option Char) := do return (← get).rest.head?

/-- The remaining text. -/
def remaining : Lex (List Char) := do return (← get).rest

/-- The place of the next character. -/
def place : Lex Nat := do return (← get).pos

/-- A number of repetitions that is never used up. -/
def fuel : Lex Nat := do return (← get).bound

/-- Moves over the given character if it comes next. -/
def eat (c : Char) : Lex Bool := do
  if (← peek) == some c then
    skip
    return true
  else return false

/-- Moves over the characters of a class and returns them. -/
def takeWhile (p : Char → Bool) : Lex (List Char) := do
  let l ← get
  let taken := l.rest.takeWhile p
  set { l with rest := l.rest.dropWhile p, pos := l.pos + byteLength taken }
  return taken

/-- Ends the token with a fault. -/
def fail {α : Type} (place : Nat) (cause : Cause) : Lex α := throw ⟨place, cause⟩

/-- Notes a fault and goes on. -/
def note (mode : LexMode) (place : Nat) (cause : Cause) : Lex Unit :=
  unless mode.ignoreFaults do
    modify fun l => { l with noted := ⟨place, cause⟩ :: l.noted }

/-! ### Blanks and comments -/

/-- Whether a character is blank. -/
def isBlank (c : Char) : Bool :=
  let n := c.toNat
  c == ' ' || (9 ≤ n && n ≤ 13) || n == 0x85 || n == 0xA0 || n == 0x1680
    || (0x2000 ≤ n && n ≤ 0x200A) || n == 0x2028 || n == 0x2029 || n == 0x202F || n == 0x205F
    || n == 0x3000 || n == 0xFEFF

/-- Moves over blanks. -/
def skipBlanks : Lex Unit := do
  let blanks ← takeWhile isBlank
  if blanks.any isLineEnd then modify fun l => { l with lineBreak := true }

/-- Keeps a comment until the place of its token is known. -/
def keep (comment : Comment) (leadsNext : Bool) : Lex Unit :=
  modify fun l =>
    if leadsNext then { l with pending := comment :: l.pending }
    else { l with unfiled := ⟨.trailing, l.lastHi, comment⟩ :: l.unfiled }

/-- Whether the token before ends with an operator, which never has a comment of its own. -/
def afterOperator (l : Lexer) : Bool := (l.last.map Token.isBinaryOperator).getD false

/-- Whether the token before can have a trailing comment. -/
def afterCommentable (l : Lexer) : Bool := (l.last.map Token.canHaveTrailingComment).getD false

/-- Reads a comment up to the end of its line, behind a mark of the given length. -/
def lineComment (markLength : Nat) : Lex Unit := do
  let l ← get
  skipMany markLength
  let comment := Comment.ofLine (← remaining)
  let _ ← takeWhile fun c => !isLineEnd c
  keep comment (l.lineBreak || l.afterOperator)

/-- Reads a comment between marks. -/
def blockComment : Lex Unit := do
  let l ← get
  let start := l.pos
  let leadsNext := l.lineBreak || !l.afterCommentable
  skipMany 2
  let rest ← remaining
  match splitBlock rest with
  | none =>
    modify fun l => moveOver l.rest [] l
    fail start .unterminatedBlockComment
  | some (text, after) =>
    modify (moveOver (text ++ ['*', '/']) after)
    if text.any isLineEnd then modify fun l => { l with lineBreak := true }
    skipBlanks
    keep (.ofBlock rest) (leadsNext && (← peek) != some ';')

/-- Moves over blanks and comments; `fuel` bounds the number of comments. -/
def skipSpace : (fuel : Nat) → Lex Unit
  | 0 => pure ()
  | fuel + 1 => do
    skipBlanks
    match ← remaining with
    | '/' :: '/' :: _ =>
      lineComment 2
      skipSpace fuel
    | '/' :: '*' :: _ =>
      blockComment
      skipSpace fuel
    | _ => pure ()

/-- Moves over blanks and comments. -/
def space : Lex Unit := do skipSpace (← fuel)

/-- Files all comments at the end of the text. -/
def fileComments (l : Lexer) : Lexer :=
  let side : Side := if l.lastHi == l.start then .leading else .trailing
  let ending := l.pending.reverse.map fun c => ⟨side, l.lastHi, c⟩
  { l with comments := l.comments.add (l.unfiled.reverse ++ ending), pending := [], unfiled := [] }

/-! ### Escapes -/

/-- Whether a character is a hexadecimal digit. -/
def isHexDigit (c : Char) : Bool :=
  c.isDigit || ('a' ≤ c && c ≤ 'f') || ('A' ≤ c && c ≤ 'F')

/-- The character with a code, where it has one. -/
def charOfCode? (code : Nat) : Option Char :=
  if code < 0xD800 || (0xDFFF < code && code ≤ 0x10FFFF) then some (Char.ofNat code) else none

/-- Reads up to `count` hexadecimal digits. -/
def hexDigits (count : Nat) : Lex (List Char) := do
  let digits := ((← remaining).take count).takeWhile isHexDigit
  skipMany digits.length
  return digits

/-- Reads the rest of a `\u` escape. A code that is no character stands for itself as it is
written. -/
def unicodeEscape (start : Nat) : Lex (List Char) := do
  if ← eat '{' then
    let digits ← takeWhile isHexDigit
    let code := naturalOf 16 digits
    if digits.isEmpty || 0x10FFFF < code then
      fail start (.badEscape "1-6 hex characters in the range 0 to 10FFFF.")
    unless ← eat '}' do fail start .invalidUnicodeEscape
    match charOfCode? code with
    | some c => return [c]
    | none => return ['\\', 'u', '{'] ++ digits ++ ['}']
  else
    let digits ← hexDigits 4
    if digits.length < 4 then fail start (.badEscape "4 hex characters")
    match charOfCode? (naturalOf 16 digits) with
    | some c => return [c]
    | none => return ['\\', 'u'] ++ digits

/-- Reads an escape, from its backslash on. Inside a template an octal escape ends the token. -/
def escape (mode : LexMode) (inTemplate : Bool) : Lex (List Char) := do
  let start ← place
  skip
  match ← peek with
  | none => fail start .expectedUnicodeEscape
  | some c =>
    skip
    match c with
    | 'n' => return ['\n']
    | 'r' => return ['\r']
    | 't' => return ['\t']
    | 'b' => return ['\x08']
    | 'v' => return ['\x0b']
    | 'f' => return ['\x0c']
    | '\r' =>
      let _ ← eat '\n'
      return []
    | 'x' =>
      let digits ← hexDigits 2
      if digits.length < 2 then fail start (.badEscape "2 hex characters")
      return [Char.ofNat (naturalOf 16 digits)]
    | 'u' => unicodeEscape start
    | _ =>
      if isLineEnd c then return []
      else if '0' ≤ c && c ≤ '7' then
        let isOctal (d : Char) : Bool := '0' ≤ d && d ≤ '7'
        let next := (← peek).any isOctal
        if c == '0' && !next then return ['\x00']
        if inTemplate then fail start .legacyOctalEscape
        note mode start .legacyOctalEscape
        let more := ((← remaining).take (if c ≤ '3' then 2 else 1)).takeWhile isOctal
        skipMany more.length
        return [Char.ofNat (naturalOf 8 (c :: more))]
      else return [c]

/-! ### Words and literals -/

/-- Reads the characters of a word. The flag of the result says whether an escape stood in it;
`fuel` bounds the number of escapes. -/
def wordChars (mode : LexMode) (start : Nat) (isFirst : Bool) : (fuel : Nat) → Lex (List Char × Bool)
  | 0 => return ([], false)
  | fuel + 1 => do
    let plain ← takeWhile IdentifierChar.isContinue
    if (← peek) == some '\\' then
      let here ← place
      skip
      unless ← eat 'u' do fail here .expectedUnicodeEscape
      let chars ← unicodeEscape here
      let isInner := !isFirst || !plain.isEmpty
      let isAllowed (c : Char) : Bool :=
        if isInner then IdentifierChar.isContinue c else IdentifierChar.isStart c
      unless (chars.head?.map isAllowed).getD false do note mode start .invalidIdentifierCharacter
      let (more, _) ← wordChars mode start false fuel
      return (plain ++ chars ++ more, true)
    else return (plain, false)

/-- Reads a word. -/
def word (mode : LexMode) : Lex Token := do
  let start ← place
  let (chars, hasEscape) ← wordChars mode start true (← fuel)
  let text := String.ofList chars
  if hasEscape && isReserved text then fail start (.escapeInReservedWord text)
  return .word text

/-- The text from an earlier place up to here. -/
def rawFrom (start : Lexer) : Lex String := do
  return String.ofList (takeBytes start.rest ((← place) - start.pos))

/-- Reads the characters of a string up to its quote; `fuel` bounds their number. The flag of the
result says whether the quote was found. -/
def stringChars (mode : LexMode) (quote : Char) : (fuel : Nat) → Lex (List Char × Bool)
  | 0 => return ([], false)
  | fuel + 1 => do
    let plain ← takeWhile fun c => c != quote && c != '\\' && c != '\n' && c != '\r'
    match ← peek with
    | some '\\' =>
      let chars ← escape mode false
      let (more, isClosed) ← stringChars mode quote fuel
      return (plain ++ chars ++ more, isClosed)
    | c =>
      let isClosed := c == some quote
      if isClosed then skip
      return (plain, isClosed)

/-- Reads a string. -/
def string (mode : LexMode) (quote : Char) : Lex Token := do
  let start ← get
  skip
  let (value, isClosed) ← stringChars mode quote (← fuel)
  unless isClosed do note mode start.pos .unterminatedString
  return .string (String.ofList value) (← rawFrom start)

/-- Whether a separator between digits has a digit on each side. The argument `before` says whether
a digit or another separator stands before it. -/
def separatorsFit (isDigit : Char → Bool) : (before : Bool) → List Char → Bool
  | _, [] => true
  | before, '_' :: rest => before && (rest.head?.map isDigit).getD false && separatorsFit isDigit false rest
  | _, _ :: rest => separatorsFit isDigit true rest

/-- Reads digits with separators between them. -/
def digits (mode : LexMode) (isDigit : Char → Bool) : Lex (List Char) := do
  let start ← place
  let chars ← takeWhile fun c => isDigit c || c == '_'
  unless separatorsFit isDigit false chars do note mode start .numericSeparator
  return chars.filter (· ≠ '_')

/-- Refuses an identifier directly behind a number. -/
def endNumber : Lex Unit := do
  if ((← peek).map IdentifierChar.isStart).getD false then fail (← place) .identifierAfterNumber

/-- Reads an integer in a radix other than ten, from its zero on. -/
def radixNumber (mode : LexMode) (radix : Nat) : Lex Token := do
  let start ← get
  skipMany 2
  let here ← place
  let isDigit (c : Char) : Bool := isHexDigit c && digitValue c < radix
  let value ← digits mode isDigit
  if value.isEmpty then fail here (.expectedDigit radix)
  if ← eat 'n' then
    endNumber
    return .bigint (← rawFrom start)
  endNumber
  return .number (← rawFrom start)

/-- Reads the fraction of a number, from its point on. -/
def fraction (mode : LexMode) : Lex Unit := do
  if ← eat '.' then
    let _ ← digits mode Char.isDigit

/-- Reads the exponent of a number. -/
def exponent (mode : LexMode) : Lex Unit := do
  let c ← peek
  if c == some 'e' || c == some 'E' then
    skip
    match ← peek with
    | none => fail (← place) .exponentWithoutDigits
    | some c =>
      if c == '+' || c == '-' then skip
      let here ← place
      let value ← digits mode Char.isDigit
      if value.isEmpty then fail here (.expectedDigit 10)

/-- Reads a decimal number. -/
def number (mode : LexMode) : Lex Token := do
  let start ← get
  let whole ← digits mode Char.isDigit
  if !whole.isEmpty && (← eat 'n') then return .bigint (← rawFrom start)
  let isOctal := whole.all fun c => c ≤ '7'
  if whole.head? == some '0' && 1 < whole.length && isOctal then
    endNumber
    note mode start.pos .legacyOctalNumber
    note mode start.pos .legacyOctalEscape
    return .number (← rawFrom start)
  if whole.head? == some '0' && 1 < whole.length then note mode start.pos .legacyDecimal
  fraction mode
  exponent mode
  endNumber
  return .number (← rawFrom start)

/-- Reads a number that begins with a digit. -/
def leadingDigit (mode : LexMode) : Lex Token := do
  match ← remaining with
  | '0' :: c :: _ =>
    if c == 'x' || c == 'X' then radixNumber mode 16
    else if c == 'o' || c == 'O' then radixNumber mode 8
    else if c == 'b' || c == 'B' then radixNumber mode 2
    else number mode
  | _ => number mode

/-! ### Templates and regular expressions -/

/-- Reads the text of a template up to its end or a hole; `fuel` bounds its length. The result is
the last fault of its escapes, and whether the text has ended properly. -/
def templateText (mode : LexMode) : (fuel : Nat) → Lex (Option Noted × Bool)
  | 0 => return (none, false)
  | fuel + 1 => do
    match ← remaining with
    | [] => return (none, false)
    | '\x60' :: _ => return (none, true)
    | '$' :: '{' :: _ => return (none, true)
    | '\\' :: _ =>
      let fault ←
        try
          let _ ← escape mode true
          pure none
        catch fault => pure (some fault)
      let (later, isClosed) ← templateText mode fuel
      return (later <|> fault, isClosed)
    | _ =>
      skip
      templateText mode fuel

/-- Whether the token before is a piece of a template. -/
def afterTemplateText (l : Lexer) : Bool :=
  match l.last with
  | some (.template ..) => true
  | _ => false

/-- Reads a token inside a template. -/
def templateToken (mode : LexMode) : Lex Token := do
  let start ← get
  let (fault, isClosed) ← templateText mode (← fuel)
  unless isClosed do fail start.templateStart .unterminatedTemplate
  let raw ← rawFrom start
  if raw.isEmpty && start.afterTemplateText then
    if ← eat '\x60' then return .symbol "\x60"
    skipMany 2
    return .symbol "$\x7b"
  return .template raw fault

/-- The pattern of a regular expression up to its closing slash, with the text from there on. -/
def splitPattern (isEscaped inClass : Bool) : List Char → List Char × List Char
  | [] => ([], [])
  | c :: rest =>
    if isLineEnd c then ([], c :: rest)
    else if !isEscaped && !inClass && c == '/' then ([], c :: rest)
    else
      let inClass := if isEscaped then inClass else if c == '[' then true else inClass && c != ']'
      let (pattern, after) := splitPattern (!isEscaped && c == '\\') inClass rest
      (c :: pattern, after)

/-- Reads a regular expression that begins at an earlier place. -/
def regExp (mode : LexMode) (input : List Char) (start : Nat) : Lex Token := do
  modify fun l => { l with rest := input, pos := start }
  skip
  let (pattern, after) := splitPattern false false (← remaining)
  modify (moveOver pattern after)
  unless ← eat '/' do fail start .unterminatedRegExp
  let here ← place
  let flags ←
    if ((← peek).map IdentifierChar.isStart).getD false then
      wordChars mode here true (← fuel)
    else pure ([], false)
  return .regExp (String.ofList pattern) (String.ofList flags.1)

/-! ### Symbols -/

/-- The symbols, a longer one before its beginnings. -/
def symbols : List String :=
  [">>>=", "...", "===", "!==", "**=", "<<=", ">>=", ">>>", "&&=", "||=", "??=", "=>", "==", "!=",
    "<=", ">=", "<<", ">>", "++", "--", "+=", "-=", "*=", "/=", "%=", "&=", "|=", "^=", "&&", "||",
    "??", "**", "\x7b", "\x7d", "(", ")", "[", "]", ".", ";", ",", "<", ">", "+", "-", "*", "/", "%",
    "&", "|", "^", "!", "~", "?", ":", "=", "@", "#", "\x60"]

/-- The symbol that a text begins with. -/
def symbolAt? (mode : LexMode) (text : List Char) : Option String :=
  let single := mode.inType && !mode.plainAngles
  match text with
  | '<' :: _ => if single then some "<" else longest text
  | '>' :: _ => if single then some ">" else longest text
  | _ => longest text
where
  longest (text : List Char) : Option String := symbols.find? fun s => s.toList.isPrefixOf text

/-- The marks that a merge of two versions leaves at the beginning of a line. -/
def mergeMarks : List String := ["<<<<<<< ", "=======", ">>>>>>> ", "||||||| "]

/-- The length of what is read as a comment up to the end of the line although it has other marks,
with the fault that it is. -/
def oddComment? (mode : LexMode) (lineBreak : Bool) (text : List Char) : Option (Nat × Cause) :=
  if mode.inType && !mode.plainAngles && (text.head? == some '<' || text.head? == some '>') then none
  else if "<!--".toList.isPrefixOf text then some (4, .legacyComment)
  else if lineBreak && "-->".toList.isPrefixOf text then some (3, .legacyComment)
  else if lineBreak && mergeMarks.any fun m => m.toList.isPrefixOf text then some (7, .mergeMark)
  else none

/-- Whether a character may begin a word. -/
def beginsWord (c : Char) : Bool := c == '\\' || IdentifierChar.isStart c

/-- Reads a token outside of templates; `fuel` bounds the number of odd comments before it. There is
no token at the end of the text. -/
def plainToken (mode : LexMode) : (fuel : Nat) → Lex (Option Token)
  | 0 => return none
  | fuel + 1 => do
    let l ← get
    match l.rest with
    | [] => return none
    | c :: rest =>
      match oddComment? mode l.lineBreak l.rest with
      | some (length, cause) =>
        note mode l.pos cause
        lineComment length
        space
        plainToken mode fuel
      | none =>
        if c.isDigit then some <$> leadingDigit mode
        else if c == '.' && (rest.head?.map Char.isDigit).getD false then some <$> number mode
        else if c == '\x22' || c == '\x27' then some <$> string mode c
        else if beginsWord c then some <$> word mode
        else
          match symbolAt? mode l.rest with
          | some s =>
            skipMany s.length
            return some (.symbol s)
          | none =>
            skip
            fail l.pos (.unexpectedCharacter c)

/-- Keeps account of brackets. -/
def bracketsAfter (token : Token) (brackets : List Bracket) : List Bracket :=
  match token with
  | .symbol s =>
    if s == "(" || s == "\x7b" then .plain :: brackets
    else if s == "$\x7b" then .hole :: brackets
    else if s == ")" || s == "\x7d" then brackets.drop 1
    else if s == "\x60" then
      match brackets with
      | .quasi :: outer => outer
      | _ => .quasi :: brackets
    else brackets
  | _ => brackets

/-- The line with which a script may name its interpreter. -/
def shebang? : List Char → Option (List Char)
  | '#' :: '!' :: rest => some (rest.takeWhile fun c => !isLineEnd c)
  | _ => none

/-- Reads a token with the place where it begins. -/
def token (mode : LexMode) : Lex (Option (Token × Lexer)) := do
  modify fun l => { l with tokenAt := l.pos }
  let l ← get
  match l.regExpAt with
  | some (input, start) =>
    set { l with tokenAt := start }
    let t ← regExp mode input start
    return some (t, { l with rest := input, pos := start })
  | none =>
    match if l.isFirst then shebang? l.rest else none with
    | some text =>
      skipMany (text.length + 2)
      return some (.shebang (String.ofList text), l)
    | none =>
      set { l with lineBreak := l.isFirst, isFirst := false }
      let inQuasi := l.brackets.head? == some .quasi
      unless inQuasi do space
      modify fun l => { l with tokenAt := l.pos }
      let start ← get
      if start.rest.isEmpty then return none
      let t ←
        if inQuasi then some <$> templateToken mode
        else plainToken mode (← fuel)
      return t.map fun t => (t, start)

/-- The lexer after a token has been read. -/
def after (l : Lexer) (t : Token) (lo : Nat) : Lexer :=
  let leading := l.pending.map fun c => ⟨.leading, lo, c⟩
  { l with
    pending := []
    unfiled := leading ++ l.unfiled
    brackets := bracketsAfter t l.brackets
    last := some t
    lastHi := l.pos
    templateStart := if t.isSymbol "\x60" then l.pos else l.templateStart }

/-- The next token, if the text has not ended. -/
def next (mode : LexMode) (l : Lexer) : Option Lexeme × Lexer :=
  match (token mode).run l with
  | .ok (some (t, start)) l =>
    (some ⟨t, start.pos, l.pos, l.lineBreak, start.rest⟩, l.after t start.pos)
  | .ok none l => (none, l.fileComments)
  | .error fault l =>
    (some ⟨.faulty fault, l.tokenAt, l.pos, l.lineBreak, l.rest⟩,
      l.after (.faulty fault) l.tokenAt)

end Lexer

end PageRoutes.Syntax
