import PageRoutes.Syntax.Parser.Declarations
/-!
# Reading statements

Statements by their first word. What begins with no such word is an expression, and if that is just
a name it can turn out to be a label or the first word of a declaration.
-/

namespace PageRoutes.Syntax.Parse

/-- Reads an expression where `in` is an operator. -/
def expressionIn : Parse Node := allowingIn (ask .expression)

/-- Reads an expression in round brackets. -/
def inParens : Parse Node := do
  expect "("
  let e ← expressionIn
  expect ")"
  return e

/-- Reads the statement below another one, which may not declare anything. -/
def nested : Parse Node := ask (.statement false)

/-- Reads the body of a loop. -/
def loopBody : Parse Node := withMode (fun m => { m with canBreak := true, canContinue := true }) nested

/-! ### Jumps -/

/-- Notes a jump that leads nowhere. -/
def checkJump (start : Nat) (isBreak : Bool) (label : Node) : Parse Unit := do
  let m ← mode
  let labels := (← get).labels
  let isUnknown := !label.isAbsent && !labels.contains ((label.nameText?).getD "")
  if isBreak then
    if isUnknown then note start .breakTarget
    else unless m.canBreak do note start .breakOutside
  else unless m.canContinue do note start .continueTarget
  if !isBreak && m.canContinue && isUnknown then note start .jumpOutOfFunction

/-- Reads a jump to a label or to the nearest statement that allows it. -/
def jump (isBreak : Bool) : Parse Node := do
  let start ← here
  skip
  let label ←
    if ← eatEnd then pure .absent
    else do
      let label ← name
      expectEnd
      pure label
  checkJump start isBreak label
  nodeFrom start (if isBreak then .breakStmt else .continueStmt) [label]

/-- Reads a return statement. -/
def returnStmt : Parse Node := do
  let start ← here
  let check : Parse Unit := do
    unless (← mode).inFunction do note start .returnOutside
  try
    skip
    let e ← if ← seesEnd then pure .absent else expressionIn
    expectEnd
    check
    nodeFrom start .returnStmt [e]
  catch fault =>
    check
    stop fault

/-- Reads a throw statement. -/
def throwStmt : Parse Node := do
  let start ← here
  skip
  if ← afterLineBreak then fail .lineBreakInThrow
  let e ← expressionIn
  expectEnd
  nodeFrom start .throwStmt [e]

/-! ### Branches -/

/-- Reads an if statement. What follows `else if` is read here and not below it, so that the depth
of the tree does not bound the length of the chain. -/
def ifStmt : Parse Node := do
  let start ← here
  skip
  expect "("
  let taking (m : Mode) : Mode := { m with leaveElse := false }
  let test ← withMode taking expressionIn
  expect ")"
  let yes ← withMode taking nested
  if (← mode).leaveElse then return ← nodeFrom start .ifStmt [test, yes, .absent]
  let (chain, last) ← repeatStep (fun (state : List Node × Node) => do
    if !(← eat "else") then return (state, true)
    if ← sees "if" then
      let inner ← withMode (fun m => { m with leaveElse := true }) (ask .ifStatement)
      return ((inner :: state.1, state.2), false)
    let last ← withMode taking nested
    return ((state.1, last), true)) (← fuel) ([], .absent)
  let no := chain.foldl (fun no inner => .mk .ifStmt inner.span (inner.children.take 2 ++ [no])) last
  nodeFrom start .ifStmt [test, yes, no]

/-- Reads the clauses of a switch statement. -/
def switchCases : Parse (List Node) := do
  let (nodes, _) ← repeatStep (fun (state : List Node × Bool) => do
    let (nodes, hasDefault) := state
    let start ← here
    let isDefault ← sees "default"
    if !isDefault && !(← sees "case") then return (state, true)
    skip
    if isDefault && hasDefault then fail .multipleDefaults
    let test ← if isDefault then pure .absent else expressionIn
    expect ":"
    let body ← collect do
      if (← atEnd) || (← seesAny ["case", "default", "\x7d"]) then return none
      else return some (← ask (.listItem false))
    let n ← nodeFrom start .switchCase [test, .group body]
    return ((n :: nodes, hasDefault || isDefault), false)) (← fuel) ([], false)
  return nodes.reverse

/-- Reads a switch statement. -/
def switchStmt : Parse Node := do
  let start ← here
  skip
  let e ← inParens
  expect "\x7b"
  let cases ← withMode (fun m => { m with canBreak := true }) switchCases
  expect "\x7d"
  nodeFrom start .switchStmt [e, .group cases]

/-- Reads the parameter of a catch clause, which may be missing. -/
def catchParam : Parse Node := do
  if !(← eat "(") then return .absent
  let pattern ← bindingPattern
  let t ← optionalTypeMark
  expect ")"
  return if t.isAbsent then pattern else pattern.withType t

/-- Reads a catch clause, which may be missing. -/
def catchClause : Parse Node := do
  let start ← here
  if !(← eat "catch") then return .absent
  let param ← catchParam
  let body ← ask .block
  nodeFrom start .catchClause [param, body]

/-- Reads a final block, which may be missing. -/
def finallyBlock : Parse Node := do
  if ← eat "finally" then ask .block else return .absent

/-- Reads a try statement. -/
def tryStmt : Parse Node := do
  let start ← here
  skip
  let body ← ask .block
  let place ← here
  let handler ← catchClause
  let finalizer ← finallyBlock
  if handler.isAbsent && finalizer.isAbsent then note place .expectedSemicolon
  nodeFrom start .tryStmt [body, handler, finalizer]

/-- Reads a catch clause or a final block that belongs to no try statement. -/
def strayClause : Parse Node := do
  let span ← currentSpan
  note span.lo .expectedSemicolon
  let attempt (step : Parse Node) : Parse Unit := do
    try
      let _ ← step
    catch _ => pure ()
  if ← sees "catch" then attempt catchClause
  attempt finallyBlock
  return .mk .exprStmt span [invalidAt span]

/-! ### Loops -/

/-- Reads a while statement. -/
def whileStmt : Parse Node := do
  let start ← here
  skip
  let test ← inParens
  let body ← loopBody
  nodeFrom start .whileStmt [test, body]

/-- Reads a do-while statement. -/
def doWhileStmt : Parse Node := do
  let start ← here
  skip
  let body ← loopBody
  expect "while"
  let test ← inParens
  let _ ← eatEnd
  nodeFrom start .doWhileStmt [test, body]

/-- Reads a with statement, which a module cannot have. -/
def withStmt : Parse Node := do
  let start ← here
  note start .withStatement
  skip
  let object ← inParens
  let body ← withMode (fun m => { m with inFunction := true }) nested
  nodeFrom start .withStmt [object, body]

/-- The head of a loop: the kind of the loop and what stands before its body. -/
abbrev LoopHead := Kind × List Node

/-- Reads the rest of the head of a loop that counts. -/
def countingHead (first : Node) : Parse LoopHead := do
  let test ←
    if ← eat ";" then pure .absent
    else do
      let e ← expressionIn
      expect ";"
      pure e
  let update ← if ← sees ")" then pure .absent else expressionIn
  return (.forStmt, [first, test, update])

/-- Reads the rest of the head of a loop over the parts of something. -/
def eachHead (left : Node) : Parse LoopHead := do
  let isOf ← sees "of"
  skip
  if isOf then return (.forOfStmt false, [left, ← allowingIn (ask .assignment)])
  else return (.forInStmt, [left, ← expressionIn])

/-- Notes what cannot be declared in the head of a loop over the parts of something. -/
def checkLoopVariables (declarators : List Node) : Parse Unit := do
  match declarators with
  | [d] =>
    let pattern := d.child 0
    if !(d.child 1).isAbsent then note pattern.lo .loopInitializer
    unless pattern.patternType.isAbsent do note pattern.lo .loopWithType
  | _ => for d in declarators.drop 1 do note d.lo .tooManyLoopBindings

/-- Whether a token can follow `let` in a declaration. -/
def followsLet : Token → Bool
  | .word w => isPlainWord w || ["let", "yield", "await"].contains w
  | .symbol s => s == "\x7b" || s == "["
  | _ => false

/-- The keyword of a declaration of variables that begins here. -/
def seesVarKeyword : Parse (Option VarKeyword) := do
  match (← current?).bind fun x => varKeyword? x.token with
  | some .let_ =>
    match ← following? with
    | some x => return if followsLet x.token then some .let_ else none
    | none => return none
  | found => return found

/-- Whether an expression is the word `using`, and whether that word is awaited. -/
def usingWord? (e : Node) : Option Bool :=
  match e.kind with
  | .ident "using" => some false
  | .awaitExpr => if (e.child 0).identName? == some "using" then some true else none
  | _ => none

/-- Reads a variable in the head of a loop behind the word `using`. -/
def usingHead (start : Nat) (isAwait : Bool) : Parse LoopHead := do
  let n ← bindingName
  let d ← nodeFrom start .declarator [n, .absent]
  let left ← nodeFrom start (.usingDecl isAwait) [d]
  if ← sees "in" then note start .usingPlacement
  eachHead left

/-- Reads the head of a loop that begins with an expression. -/
def expressionHead : Parse LoopHead := do
  let start ← here
  let first ← withMode (fun m => { m with allowIn := false }) (ask .expression)
  if let some isAwait := usingWord? first then
    if !(← sees "of") && ((← peeks "of") || (← peeks "in")) then return ← usingHead start isAwait
  if ← seesAny ["of", "in"] then
    let isIn ← sees "in"
    let left ← toPattern .target first
    if isIn then
      match left.kind with
      | .arrayPattern _ | .objectPattern _ | .assignPattern => note left.lo .loopPattern
      | _ => pure ()
    eachHead left
  else
    expect ";"
    countingHead first

/-- Reads the head of a loop. -/
def loopHead : Parse LoopHead := do
  match ← seesVarKeyword with
  | some keyword =>
    let left ← varDecl keyword true
    if ← seesAny ["of", "in"] then
      checkLoopVariables left.children
      eachHead left
    else
      expect ";"
      countingHead left
  | none => if ← eat ";" then countingHead .absent else expressionHead

/-- Reads a for statement. -/
def forStmt : Parse Node := do
  let start ← here
  skip
  let isAwait ← eat "await"
  let awaitPlace := (← lastSpan).lo
  expect "("
  let (kind, parts) ← withMode (fun m => { m with inLoopHead := true, inAwaitLoopHead := isAwait })
    loopHead
  expect ")"
  let body ← loopBody
  match kind with
  | .forOfStmt _ => nodeFrom start (.forOfStmt isAwait) (parts ++ [body])
  | _ =>
    if isAwait then failAt awaitPlace .awaitLoopNotOf
    nodeFrom start kind (parts ++ [body])

/-! ### Statements that begin with an expression -/

/-- Reads the statement behind a label. -/
def labeled (label : Node) (w : String) : Parse Node := withMode (fun m => { m with canBreak := true }) do
  let outer := (← get).labels
  modify fun s => { s with labels := w :: s.labels }
  let body ←
    if ← sees "function" then
      let f ← functionDecl (← here) [] false
      note f.lo .labelledFunction
      match (f.child 1).kind with
      | .function _ true => note f.lo .labelledGenerator
      | _ => pure ()
      pure f
    else nested
  if outer.contains w then note label.lo (.duplicateLabel w)
  modify fun s => { s with labels := outer }
  nodeFrom label.lo .labeledStmt [label.withKind (.name w false), body]

/-- Reads the end of a statement that is an expression. -/
def endExpression (start : Nat) (e : Node) : Parse Node := do
  if ← eatEnd then return ← nodeFrom start .exprStmt [e]
  if ((← look).map Token.isBinaryOperator).getD false then
    note (← here) .expectedSemicolon
    let e ← ask (.binary e 0)
    nodeFrom start .exprStmt [e]
  else fail .expectedStatementEnd

/-- Reads what follows a name at the beginning of a statement. -/
def afterName (start : Nat) (decorators : List Node) (e : Node) (w : String) : Parse Node := do
  if ← eat ":" then return ← labeled e w
  if w == "interface" && (← afterLineBreak) then
    noteStrict e.lo (.reservedInStrict w)
    let _ ← eatEnd
    return ← nodeFrom start .exprStmt [e]
  if let some n ← declAfterWord? e decorators then return n
  if w == "enum" || w == "interface" then noteStrict e.lo (.reservedInStrict w)
  if ["public", "static", "abstract"].contains w then
    if ← eat "interface" then
      note e.lo .interfaceName
      return ← interfaceDecl start
  endExpression start e

/-- Reads a statement that begins with an expression. -/
def expressionStmt (start : Nat) (decorators : List Node) : Parse Node := do
  let e ← expressionIn
  match e.identName? with
  | some w => afterName start decorators e w
  | none => endExpression start e

/-! ### Statements by their first word -/

/-- Reads a statement that begins with a word of its own, if it does. -/
def wordStmt? (start : Nat) (decorators : List Node) (includeDecl : Bool) (w : String) :
    Parse (Option Node) := do
  match w with
  | "break" => some <$> jump true
  | "continue" => some <$> jump false
  | "debugger" =>
    skip
    expectEnd
    some <$> nodeFrom start .debuggerStmt []
  | "do" => some <$> doWhileStmt
  | "for" => some <$> forStmt
  | "function" =>
    unless includeDecl do note (← here) .declarationNotAllowed
    some <$> functionDecl (← here) decorators false
  | "class" =>
    unless includeDecl do note (← here) .declarationNotAllowed
    some <$> classDecl start decorators false
  | "if" => some <$> ask .ifStatement
  | "return" => some <$> returnStmt
  | "switch" => some <$> switchStmt
  | "throw" => some <$> throwStmt
  | "catch" | "finally" => some <$> strayClause
  | "try" => some <$> tryStmt
  | "with" => some <$> withStmt
  | "while" => some <$> whileStmt
  | "var" | "let" | "const" =>
    if w != "var" && !includeDecl then return none
    match ← seesVarKeyword with
    | some keyword => some <$> varDecl keyword false
    | none => return none
  | "await" =>
    if includeDecl && (← peeks "using") then
      skip
      if let some n ← usingDecl? start true then return some n
      let e ← awaitOperand start
      let e ← allowingIn (ask (.binary e 0))
      let _ ← eatEnd
      some <$> nodeFrom start .exprStmt [e]
    else return none
  | "using" => if includeDecl then usingDecl? start false else return none
  | "async" =>
    if (← peeks "function") && !(← lineBreakInside) then
      let place ← here
      skip
      some <$> functionDecl place decorators true
    else return none
  | _ => return none

/-- Reads a statement behind its decorators. -/
def statementFrom (start : Nat) (decorators : List Node) (includeDecl : Bool) : Parse Node := do
  if (← sees "const") && (← peeks "enum") then
    skip
    skip
    return ← enumDecl start true
  match ← need with
  | .word w =>
    match ← wordStmt? start decorators includeDecl w with
    | some n => return n
    | none => expressionStmt start decorators
  | .symbol ";" =>
    skip
    nodeFrom start .emptyStmt []
  | .symbol "\x7b" => ask .block
  | _ => expressionStmt start decorators

/-- Reads a statement; `importOrExport` reads what begins with one of those words. -/
def statementLike (includeDecl : Bool) (importOrExport : List Node → Parse Node) : Parse Node := do
  let start ← here
  let ds ← decorators
  if ← seesAny ["import", "export"] then importOrExport ds
  else withoutColon (statementFrom start ds includeDecl)

/-- Reads an expression statement that begins with the word `import`. -/
def importStmt (start : Nat) : Parse Node := do
  let e ← ask .expression
  let _ ← eatEnd
  nodeFrom start .exprStmt [e]

/-- Reads a statement that is no item of a module. -/
def statement (includeDecl : Bool) : Parse Node := statementLike includeDecl fun _ => do
  let start ← here
  if (← sees "import") && ((← peeks "(") || (← peeks ".")) then importStmt start
  else fail .nestedImportExport

end PageRoutes.Syntax.Parse
