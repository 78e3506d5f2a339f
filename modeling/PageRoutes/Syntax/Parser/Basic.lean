import PageRoutes.Syntax.Lexer
import PageRoutes.Syntax.Node
/-!
# Reading a tree from tokens

The steps from which the rules of the grammar are built. A step reads tokens from a state and
may end in a fault that stops the reading; what it has read up to there stays read, so that a rule
can go on behind a fault. A rule that is only tried starts from the same state again if it fails.

The rules of the grammar depend on each other in circles. A rule does not call another one across
such a circle but asks for a `Goal`, and what answers goals is handed to every step; `Syntax.parse`
closes the circle with a bound on the depth.

## Main definitions

* `Goal` : what one rule can ask of the others.
* `Mode`, `ParseState` : what the surroundings allow, and where the reading stands.
* `Parse` : a step.
* `Parse.tried`, `Parse.lookAhead` : steps that leave no trace when they fail, or never.
-/

namespace PageRoutes.Syntax

/-- What the surroundings of a place allow and ask for. -/
structure Mode extends LexMode where
  /-- Whether `in` is an operator. -/
  allowIn : Bool := false
  inAsync : Bool := false
  inGenerator : Bool := false
  inFunction : Bool := false
  inParameters : Bool := false
  inPlainFunction : Bool := false
  inClass : Bool := false
  inClassField : Bool := false
  hasBase : Bool := false
  inStaticBlock : Bool := false
  inDeclare : Bool := false
  inConditional : Bool := false
  /-- Whether a colon belongs to a conditional expression around this place. -/
  expectsColon : Bool := false
  noConditionalType : Bool := false
  inLoopHead : Bool := false
  inAwaitLoopHead : Bool := false
  canBreak : Bool := false
  canContinue : Bool := false
  /-- Whether an `else` belongs to an outer statement. -/
  leaveElse : Bool := false

/-- What a text may be besides a plain module. -/
structure Dialect where
  decorators : Bool
  /-- Whether type assertions in angle brackets and arrow functions with type parameters are
  refused. -/
  refuseAngles : Bool

/-- Where the reading of a tree stands. -/
structure ParseState where
  lexer : Lexer
  mode : Mode := {}
  /-- The token that is read next, if it is known already. -/
  current : Option Lexeme := none
  /-- The token behind it, if it is known already. -/
  following : Option Lexeme := none
  previous : Span
  labels : List String := []
  /-- The place where an expression begins that may turn out to be the head of an arrow function. -/
  arrowStart : Option Nat := none
  /-- The places of trailing commas by the places where their literals begin. -/
  trailingCommas : List (Nat × Nat) := []

/-- What one rule of the grammar can ask of the others. -/
inductive Goal where
  | expression
  | assignment
  | unary
  /-- An operand with the operators between it and further operands. -/
  | operation
  /-- The operators and operands behind an operand that bind closer than a precedence. -/
  | binary (left : Node) (minPrecedence : Nat)
  | newExpr
  | leftHandSide
  | subscripts (object : Node) (noCall noComputed : Bool)
  | arguments
  | bindingPattern
  | formalParams
  | type
  | nonConditionalType
  | typeOperator
  | block
  | statement (includeDecl : Bool)
  /-- A statement in a list, or an item of a module. -/
  | listItem (isModule : Bool)
  | ifStatement
  | namespaceDecl (start : Nat)

/-- The dialect that is read, and what answers goals. -/
structure Grammar where
  dialect : Dialect
  answer : Goal → EStateM Noted ParseState Node

/-- A step of the reading. -/
abbrev Parse (α : Type) := ReaderT Grammar (EStateM Noted ParseState) α

namespace Parse

/-- Asks another rule of the grammar. -/
def ask (goal : Goal) : Parse Node := fun grammar => grammar.answer goal

/-! ### Tokens -/

/-- The token that is read next, if the text has not ended. -/
def current? : Parse (Option Lexeme) := do
  let s ← get
  match s.current, s.following with
  | some x, _ => return some x
  | none, some x =>
    set { s with current := some x, following := none }
    return some x
  | none, none =>
    let (x, lexer) := s.lexer.next s.mode.toLexMode
    set { s with current := x, lexer }
    return x

/-- The token behind the one that is read next. -/
def following? : Parse (Option Lexeme) := do
  let _ ← current?
  let s ← get
  match s.following with
  | some x => return some x
  | none =>
    let (x, lexer) := s.lexer.next s.mode.toLexMode
    set { s with following := x, lexer }
    return x

/-- The place where the token before ends. -/
def lastPlace : Parse Nat := do return (← get).previous.hi

/-- The range of the token before. -/
def lastSpan : Parse Span := do return (← get).previous

/-- The range of the token that is read next. At the end of the text it is that of the last token.
-/
def currentSpan : Parse Span := do
  match ← current? with
  | some x => return ⟨x.lo, x.hi⟩
  | none => lastSpan

/-- The place where the next token begins. At the end of the text it is where the last one ends. -/
def here : Parse Nat := do
  match ← current? with
  | some x => return x.lo
  | none => lastPlace

/-- The range from a place to the end of the token before. -/
def spanFrom (start : Nat) : Parse Span := do return ⟨start, ← lastPlace⟩

/-- Whether a line ends before the next token, or the text ends. -/
def afterLineBreak : Parse Bool := do
  match ← current? with
  | some x => return x.afterLineBreak
  | none => return true

/-- Whether a line ends between the next token and the one behind it, or the text ends. -/
def lineBreakInside : Parse Bool := do
  match ← following? with
  | some x => return x.afterLineBreak
  | none => return true

/-- Stops the reading with a fault. -/
def stop {α : Type} (fault : Noted) : Parse α := throw fault

/-- Notes a fault, unless faults are ignored. -/
def record (fault : Noted) : Parse Unit :=
  modify fun s =>
    if s.mode.ignoreFaults then s
    else { s with lexer := { s.lexer with noted := fault :: s.lexer.noted } }

/-- Takes the next token; there must be one. -/
def bump : Parse Lexeme := do
  match ← current? with
  | some x =>
    modify fun s => { s with current := none, previous := ⟨x.lo, x.hi⟩ }
    return x
  | none => stop ⟨← lastPlace, .endOfInput⟩

/-- Takes the next token and drops it. -/
def skip : Parse Unit := do
  let _ ← bump

/-- Takes the next token if it cannot be read, and returns its fault. -/
def takeFaulty : Parse (Option Noted) := do
  match ← current? with
  | some ⟨.faulty fault, _, _, _, _⟩ =>
    skip
    return some fault
  | _ => return none

/-- The next token, if the text has not ended. A token that cannot be read stops the reading. -/
def look : Parse (Option Token) := do
  match ← takeFaulty with
  | some fault => stop fault
  | none => return (← current?).map Lexeme.token

/-- The next token. The end of the text stops the reading. -/
def need : Parse Token := do
  match ← look with
  | some t => return t
  | none => stop ⟨← lastPlace, .endOfInput⟩

/-- Stops the reading at a place. If the next token cannot be read, its fault is noted first. -/
def failAt {α : Type} (place : Nat) (cause : Cause) : Parse α := do
  if let some fault ← takeFaulty then record fault
  stop ⟨place, cause⟩

/-- Stops the reading at the next token. -/
def fail {α : Type} (cause : Cause) : Parse α := do failAt (← currentSpan).lo cause

/-- Notes a fault and goes on. -/
def noteFault (fault : Noted) : Parse Unit := do
  unless (← get).mode.ignoreFaults do
    if let some earlier ← takeFaulty then record earlier
    record fault

/-- Notes a fault at a place and goes on. -/
def note (place : Nat) (cause : Cause) : Parse Unit := noteFault ⟨place, cause⟩

/-- Notes at a place what strict code does not allow, and goes on. If the next token cannot be read,
that is left for later. -/
def noteStrict (place : Nat) (cause : Cause) : Parse Unit := record ⟨place, cause⟩

/-- Whether the next token is a symbol or word. -/
def sees (text : String) : Parse Bool := do
  match ← current? with
  | some x => return x.token.is text
  | none => return false

/-- Whether the next token is one of some symbols and words. -/
def seesAny (texts : List String) : Parse Bool := do
  match ← current? with
  | some x => return texts.any x.token.is
  | none => return false

/-- Whether the token behind the next one is a symbol or word. -/
def peeks (text : String) : Parse Bool := do
  match ← following? with
  | some x => return x.token.is text
  | none => return false

/-- Whether the text has ended. -/
def atEnd : Parse Bool := do return (← look).isNone

/-- Takes a symbol or word if it comes next. -/
def eat (text : String) : Parse Bool := do
  if ← sees text then
    skip
    return true
  else return false

/-- The next token as it is shown in a message. -/
def shown : Parse String := do
  match ← current? with
  | some x => return x.token.shown
  | none => return "<eof>"

/-- Takes a symbol or word, which must come next. -/
def expect (text : String) : Parse Unit := do
  unless ← eat text do fail (.expected text (← shown))

/-- Stops the reading at a token that does not belong here. -/
def unexpected {α : Type} (wanted : String) : Parse α := do fail (.unexpected (← shown) wanted)

/-- Whether a statement may end before the next token. -/
def seesEnd : Parse Bool := do
  match ← current? with
  | none => return true
  | some x =>
    return x.token.isSymbol ";" || x.token.isSymbol "\x7d" || x.afterLineBreak

/-- Takes the end of a statement, if it may end here. -/
def eatEnd : Parse Bool := do
  if ← sees ";" then
    skip
    return true
  else seesEnd

/-- Takes the end of a statement. -/
def expectEnd : Parse Unit := do
  unless ← eatEnd do fail (.expected ";" (← shown))

/-! ### Words -/

/-- Whether a token is a word that may stand as an identifier. -/
def isIdentifier : Token → Bool
  | .word w => !isReserved w
  | _ => false

/-- Whether the next token is a word that may stand as an identifier. -/
def seesIdentifier : Parse Bool := do
  match ← current? with
  | some x => return isIdentifier x.token
  | none => return false

/-- Whether the token behind the next one is a word that may stand as an identifier. -/
def peeksIdentifier : Parse Bool := do
  match ← following? with
  | some x => return isIdentifier x.token
  | none => return false

/-- Whether a token is a word. -/
def isWord : Token → Bool
  | .word _ => true
  | _ => false

/-- Whether the next token is a word. -/
def seesWord : Parse Bool := do
  match ← current? with
  | some x => return isWord x.token
  | none => return false

/-- Whether the token behind the next one is a word. -/
def peeksWord : Parse Bool := do
  match ← following? with
  | some x => return isWord x.token
  | none => return false

/-! ### Modes and attempts -/

/-- The mode of the reading. -/
def mode : Parse Mode := do return (← get).mode

/-- Sets the mode of the reading. -/
def setMode (m : Mode) : Parse Unit := modify fun s => { s with mode := m }

/-- Runs a step in a changed mode. -/
def withMode {α : Type} (change : Mode → Mode) (step : Parse α) : Parse α := do
  let old ← mode
  setMode (change old)
  try
    let a ← step
    setMode old
    return a
  catch fault =>
    setMode old
    throw fault

/-- Runs a step where `in` is an operator. -/
def allowingIn {α : Type} (step : Parse α) : Parse α :=
  withMode (fun m => { m with allowIn := true }) step

/-- Runs a step inside a type. -/
def inType {α : Type} (step : Parse α) : Parse α :=
  withMode (fun m => { m with inType := true }) step

/-- An earlier state, except for what an attempt cannot take back: comments that have been filed and
faults that have been noted. -/
def rewind (earlier : ParseState) : Parse Unit :=
  modify fun s =>
    { earlier with
      lexer := { earlier.lexer with comments := s.lexer.comments, noted := s.lexer.noted } }

/-- Runs a step that may come to nothing; then nothing has been read. Faults that do not stop the
step are ignored. -/
def tried {α : Type} (step : Parse (Option α)) : Parse (Option α) := do
  let before ← get
  setMode { before.mode with ignoreFaults := true }
  let result ←
    try step
    catch _ => pure none
  match result with
  | some a =>
    modify fun s => { s with mode := { s.mode with ignoreFaults := before.mode.ignoreFaults } }
    return some a
  | none =>
    rewind before
    return none

/-- Runs a step that decides something and keeps what it has read only if the answer is yes. -/
def triedIf (step : Parse Bool) : Parse Bool := do
  let result ← tried do return if ← step then some () else none
  return result.isSome

/-- Runs a step and goes back to where it began. -/
def lookAhead {α : Type} (step : Parse α) : Parse α := do
  let before ← get
  setMode { before.mode with ignoreFaults := true }
  try
    let a ← step
    rewind before
    return a
  catch fault =>
    rewind before
    throw fault

/-- A number of repetitions that is never used up. -/
def fuel : Parse Nat := do return 2 * (← get).lexer.bound + 2

/-- Runs a step until it says that it is done; `fuel` bounds the number of times. -/
def repeatStep {σ : Type} (step : σ → Parse (σ × Bool)) : (fuel : Nat) → σ → Parse σ
  | 0, s => return s
  | n + 1, s => do
    let (s, isDone) ← step s
    if isDone then return s else repeatStep step n s

/-- Runs a step that collects nodes until it gives none. -/
def collect (step : Parse (Option Node)) : Parse (List Node) := do
  let nodes ← repeatStep (fun (nodes : List Node) => do
      match ← step with
      | some n => return (n :: nodes, false)
      | none => return (nodes, true))
    (← fuel) []
  return nodes.reverse

end Parse

/-- A node of a kind from a place to the end of the token before. -/
def nodeFrom (start : Nat) (kind : Kind) (children : List Node) : Parse Node := do
  return .mk kind (← Parse.spanFrom start) children

/-- A node of a kind that stands for the token before. -/
def leaf (kind : Kind) : Parse Node := do return .mk kind (← Parse.lastSpan) []

end PageRoutes.Syntax
