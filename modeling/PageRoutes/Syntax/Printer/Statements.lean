import PageRoutes.Syntax.Printer.Classes
/-!
# Printing statements

The layout of statements and declarations. A statement ends its line, except for a block, which
leaves that to what it stands in: an `else` or a `while` goes on behind its brace.
-/

namespace PageRoutes.Syntax.View

/-! ### Statements in their places -/

/-- A declaration with the semicolon that ends it. -/
def declaration (v : View) : Doc :=
  match v.kind with
  | .varDecl _ _ | .usingDecl _ => v.bare ++ ";"
  | _ => v.bare

/-- A statement with the comments and the end of the line behind it. -/
def statement (v : View) : Doc :=
  match v.kind with
  | .block => v.bare
  | _ => declaration v ++ v.trailing ++ .line

/-- The head of a loop: declarations stand as they are, anything else has its comments. -/
def loopHead (v : View) : Doc :=
  match v.kind with
  | .varDecl _ _ | .usingDecl _ => v.bare
  | _ => v.shown

/-- A part of a loop head behind a semicolon, if there is one. -/
def loopPart (v : View) : Doc := v.ifPresent (" " ++ v.shown)

/-! ### Compound statements -/

/-- A conditional statement. An `else` stands behind a block and otherwise on its own line. -/
def ifStatement (test yes no : View) : Doc :=
  let gap : Doc :=
    match yes.kind with
    | .block => " "
    | _ => .empty
  "if (" ++ test.shown ++ ") " ++ statement yes ++ no.ifPresent (gap ++ "else " ++ statement no)

/-- A case of a `switch`, with its statements below it. -/
def switchCase (test : View) (statements : List View) : Doc :=
  (if test.isAbsent then .text "default" else "case " ++ test.shown) ++ ":"
    ++ Doc.when (!statements.isEmpty)
        (.line ++ .indented (Doc.separated .line (statements.map statement)))

/-- A `try` with its handlers. -/
def tryStatement (body handler finalizer : View) : Doc :=
  "try " ++ body.bare ++ handler.ifPresent (" " ++ handler.bare)
    ++ finalizer.ifPresent (" finally" ++ finalizer.bare)

/-- A jump to a label, or to the statement around it. -/
def jump (word : String) (label : View) : Doc := word ++ label.ifPresent (" " ++ label.bare) ++ ";"

/-! ### Declarations -/

/-- The word in front of what is only declared. -/
def declareWord (isDeclare : Bool) : Doc := Doc.when isDeclare "declare "

/-- A function with a name, as a statement. -/
def functionDecl (name function : View) : Doc :=
  asyncWord function ++ "function" ++ generatorStar function ++ " " ++ name.bare
    ++ functionTail function

/-- An interface. -/
def interface (name typeParams body : View) (span : Span) (bases : List View) : Doc :=
  "interface " ++ name.bare ++ typeParams.bare
    ++ Doc.when (!bases.isEmpty) (" extends " ++ listed span bare bases) ++ " " ++ body.bare

/-- The layout of a declaration. -/
def declarationDoc (kind : Kind) (span : Span) (parts : List View) : Doc :=
  match kind, parts with
  | .varDecl keyword isDeclare, declarators =>
    declareWord isDeclare ++ keyword.text ++ Doc.text " " ++ listed span bare declarators
  | .usingDecl isAwait, declarators =>
    Doc.when isAwait "await " ++ "using " ++ listed span bare declarators
  | .declarator, [pattern, value] => pattern.shown ++ value.ifPresent (" = " ++ value.shown)
  | .fnDecl isDeclare, [name, function] => declareWord isDeclare ++ functionDecl name function
  | .classDecl isDeclare, [name, body] =>
    declareWord isDeclare ++ classDecorators body ++ namedClass name body
  | .interfaceDecl isDeclare, [name, typeParams, bases, body] =>
    declareWord isDeclare ++ interface name typeParams body span bases.parts
  | .interfaceBody, members => memberBraces members
  | .typeAlias isDeclare, [name, typeParams, type] =>
    declareWord isDeclare ++ "type " ++ name.bare ++ typeParams.bare ++ " = " ++ type.bare ++ ";"
  | .enumDecl isDeclare isConst, [name, members] =>
    declareWord isDeclare ++ Doc.when isConst "const " ++ "enum " ++ name.bare ++ " \x7b"
      ++ listedLines span bare members.parts ++ "\x7d"
  | .enumMember, [key, value] => key.bare ++ value.ifPresent (" = " ++ value.shown)
  | _, _ => classDoc kind span parts

/-- The layout of a statement. -/
def statementDoc (kind : Kind) (span : Span) (parts : List View) : Doc :=
  match kind, parts with
  | .block, statements => braces span (statements.map statement)
  | .emptyStmt, _ => ";"
  | .debuggerStmt, _ => "debugger;"
  | .exprStmt, [value] => value.shown ++ ";"
  | .returnStmt, [value] => "return" ++ argument " " value ++ ";"
  | .throwStmt, [value] => "throw" ++ argument " " value ++ ";"
  | .breakStmt, [label] => jump "break" label
  | .continueStmt, [label] => jump "continue" label
  | .labeledStmt, [label, body] => label.bare ++ ": " ++ statement body
  | .ifStmt, [test, yes, no] => ifStatement test yes no
  | .switchStmt, [value, cases] =>
    "switch(" ++ value.shown ++ ")\x7b" ++ Doc.lines (cases.parts.map bare) ++ "\x7d"
  | .switchCase, [test, statements] => switchCase test statements.parts
  | .tryStmt, [body, handler, finalizer] => tryStatement body handler finalizer
  | .catchClause, [param, body] =>
    "catch " ++ param.ifPresent ("(" ++ param.shown ++ ")") ++ " " ++ body.bare
  | .whileStmt, [test, body] => "while(" ++ test.shown ++ ")" ++ statement body
  | .withStmt, [object, body] => "with(" ++ object.shown ++ ")" ++ statement body
  | .doWhileStmt, [test, body] => "do " ++ statement body ++ "while (" ++ test.shown ++ ")"
  | .forStmt, [initial, test, update, body] =>
    "for(" ++ initial.ifPresent (loopHead initial) ++ ";" ++ loopPart test ++ ";" ++ loopPart update
      ++ ")" ++ statement body
  | .forInStmt, [left, right, body] =>
    "for(" ++ loopHead left ++ " in " ++ right.shown ++ ")" ++ statement body
  | .forOfStmt isAwait, [left, right, body] =>
    "for " ++ Doc.when isAwait "await " ++ "(" ++ loopHead left ++ " of " ++ right.shown ++ ")"
      ++ statement body
  | _, _ => declarationDoc kind span parts

end PageRoutes.Syntax.View
