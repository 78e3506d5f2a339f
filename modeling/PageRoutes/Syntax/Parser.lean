import PageRoutes.Syntax.Parser.Modules
/-!
# Reading a module

The rules of the grammar joined into one reader. Each rule asks for others through `Goal`; here
every goal is answered by its rule, one level deeper, and the depth is bounded by a number that no
text of the given length can reach.

## Main definitions

* `Module.ofText` : the module of a text, or the first fault of the text.
-/

namespace PageRoutes.Syntax

open Parse

/-- The rule that answers a goal. -/
def rule : Goal → Parse Node
  | .expression => expression
  | .assignment => assignment
  | .unary => unary
  | .operation => operation
  | .binary left minPrecedence => binary left minPrecedence
  | .newExpr => memberOrNew
  | .leftHandSide => leftHandSide
  | .subscripts object noCall noComputed => subscripts object noCall noComputed
  | .arguments => callArguments
  | .bindingPattern => anyPattern
  | .formalParams => do return .group (← formalParams)
  | .type => anyType
  | .nonConditionalType => nonConditionalType
  | .typeOperator => typeOperator
  | .block => block
  | .statement includeDecl => statement includeDecl
  | .listItem isModule => if isModule then moduleItem else statement true
  | .ifStatement => ifStmt
  | .namespaceDecl start => namespaceDecl start

/-- Answers a goal; `depth` bounds the number of rules that are open at a time. -/
def answer (dialect : Dialect) : (depth : Nat) → Goal → EStateM Noted ParseState Node
  | 0, _ => throw ⟨0, .tooDeep⟩
  | depth + 1, goal => rule goal ⟨dialect, answer dialect depth⟩

/-- Reads the items of a module up to the end of the text. -/
def moduleItems : Parse Node := do
  let start ← here
  let shebang ←
    match ← look with
    | some (.shebang text) =>
      skip
      pure (some text)
    | _ => pure none
  let items ← collect do
    if ← atEnd then return none else return some (← ask (.listItem true))
  nodeFrom start (.module shebang) items

/-- A module with the comments that stand beside its tree. -/
structure Module where
  tree : Node
  comments : Comments
  /-- The place where the text ends. -/
  ending : Nat

/-- The text without a mark of the order of its bytes. -/
def withoutByteOrderMark : List Char → List Char
  | '\uFEFF' :: text => text
  | text => text

/-- The number of the line of a place in a text that starts at another place. Lines are counted from
one. -/
def lineOf (start : Nat) (text : List Char) (place : Nat) : Nat :=
  1 + (Lexer.takeBytes text (place - start)).count '\n'

/-- A fault and the line in which it was noticed. -/
structure FaultInLine where
  line : Nat
  cause : Cause

/-- The module of a text that starts at a place. The fault that stops the reading comes before those
that do not, and the earliest of those before the others, unless they are passed over. -/
def Module.ofText (dialect : Dialect) (passOver : Bool) (start : Nat) (text : String) :
    Except FaultInLine Module :=
  let chars := withoutByteOrderMark text.toList
  let lexer := Lexer.ofText start chars
  let state : ParseState := { lexer, previous := ⟨start, start⟩ }
  let refuse (fault : Noted) : Except FaultInLine Module :=
    .error ⟨lineOf start chars fault.place, fault.cause⟩
  match (moduleItems ⟨dialect, answer dialect (16 * lexer.bound + 64)⟩).run state with
  | .error fault _ => refuse fault
  | .ok tree s =>
    match if passOver then none else s.lexer.noted.getLast? with
    | some fault => refuse fault
    | none => .ok ⟨tree, s.lexer.comments, start + Lexer.byteLength chars⟩

end PageRoutes.Syntax
