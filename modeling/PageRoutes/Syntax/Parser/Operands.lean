import PageRoutes.Syntax.Parser.Arrows
import PageRoutes.Syntax.Parser.Classes
/-!
# Reading operands

What stands between operators: names, literals, functions and classes, and the chain of calls,
properties and templates behind them. An angle bracket in such a chain begins type arguments if they
can be read to their end and something follows that can follow them; otherwise it is an operator.
-/

namespace PageRoutes.Syntax.Parse

/-! ### Single operands -/

/-- Whether an operand may be the head of an arrow function. -/
def atArrowStart (place : Nat) : Parse Bool := do return (← get).arrowStart == some place

/-- Whether a node is an arrow function. -/
def isArrow (n : Node) : Bool :=
  match n.kind with
  | .arrow _ => true
  | _ => false

/-- The flags that a regular expression can have. -/
def regExpFlags : List Char := ['d', 'g', 'i', 'm', 's', 'u', 'v', 'y']

/-- Notes faulty flags of a regular expression at a place. -/
def checkFlags (place : Nat) (flags : String) : Parse Unit := do
  let flags := flags.toList
  if flags.any fun c => !regExpFlags.contains c then note place .unknownRegExpFlags
  match regExpFlags.find? fun c => 1 < flags.count c with
  | some c => note place (.duplicateRegExpFlag c)
  | none => pure ()

/-- Reads a regular expression, if it can be read to its end. -/
def regExp? (start : Nat) : Parse (Option Node) := do
  let slash ← bump
  let setStart (place : Option (List Char × Nat)) : Parse Unit :=
    modify fun s => { s with following := none, lexer := { s.lexer with regExpAt := place } }
  setStart (some (slash.input, start))
  match ← current? with
  | some ⟨.regExp pattern flags, _, _, _, _⟩ =>
    setStart none
    skip
    checkFlags start flags
    return some (← nodeFrom start (.regExpLit pattern flags) [])
  | _ => return none

/-- Reads an arrow function behind the word `async` and in front of its parameter, or a type
assertion on a variable of that name. -/
def asyncWordArrow (start : Nat) (n : Node) : Parse Node := do
  let m ← mode
  if m.inLoopHead && (← sees "of") && !(← peeks "=>") then
    unless m.inAwaitLoopHead do note (← lastSpan).lo .asyncOfLoop
    return n
  let param ← bindingName
  if (param.child 0).nameText? == some "as" && !(← sees "=>") then
    let t ← inType type
    return ← nodeFrom start .asExpr [n, t]
  expect "=>"
  arrowFrom start true [param] .absent .absent

/-- Reads a name, or an arrow function that has the name as its parameter. -/
def nameOrArrow (start : Nat) (canBeArrow : Bool) : Parse Node := do
  let w ← identText ["enum", "interface"]
  let n ← leaf (.ident w)
  if !canBeArrow || (← afterLineBreak) then return n
  if w == "async" && (← seesIdentifier) then return ← asyncWordArrow start n
  if ← eat "=>" then
    if w == "eval" || w == "arguments" then noteStrict n.lo .evalOrArguments
    arrowFrom start false [patternOfIdent n w] .absent .absent
  else return n

/-- Reads what the word `async` begins, if it is a function or the head of an arrow function. -/
def asyncOperand? (start : Nat) (canBeArrow : Bool) : Parse (Option Node) := do
  if (← peeks "function") && !(← lineBreakInside) then
    skip
    return some (← functionExpr start true)
  if !canBeArrow then return none
  if ← peeks "<" then
    let arrow ← tried do
      skip
      genericAsyncArrow start
    if arrow.isSome then return arrow
  if (← peeks "(") && !(← lineBreakInside) then
    skip
    return some (← parenOrArrow canBeArrow (some (← lastSpan)))
  return none

/-- Reads an operand that begins with a word. -/
def wordOperand (start : Nat) (canBeArrow : Bool) (w : String) : Parse Node := do
  if w == "this" then
    skip
    return ← leaf .thisExpr
  if w == "function" then return ← functionExpr start false
  if w == "class" then return ← classExpr start []
  if w == "async" then
    if let some n ← asyncOperand? start canBeArrow then return n
  if let some n ← literal? then return n
  if isPlainWord w || w == "let" then nameOrArrow start canBeArrow
  else fail .expressionExpected

/-- Reads an operand that begins with decorators. -/
def decoratedOperand (start : Nat) : Parse Node := do
  let ds ← decorators
  if ds.isEmpty then fail .expressionExpected
  match ← current? with
  | some ⟨.word "class", _, _, _, _⟩ => classExpr start ds
  | some ⟨.word w, _, _, _, _⟩ =>
    if isPlainWord w || w == "let" then nameOrArrow start false else fail .expressionExpected
  | _ => fail .expressionExpected

/-- Reads a template. -/
def templateLiteral (isTagged : Bool) : Parse Node := withoutColon do
  templateOf .template isTagged (allowingIn (ask .expression))

/-- Reads an operand without what is chained to it. -/
def primary : Parse Node := do
  let token ← look
  let start ← here
  let canBeArrow ← atArrowStart start
  match token with
  | none => fail .expressionExpected
  | some (.word w) => wordOperand start canBeArrow w
  | some (.symbol s) =>
    if s == "/" || s == "/=" then
      match ← regExp? start with
      | some n => return n
      | none => fail .expressionExpected
    else if s == "\x60" then templateLiteral false
    else if s == "\x7b" then objectLiteral
    else if s == "[" then arrayLiteral
    else if s == "(" then parenOrArrow canBeArrow none
    else if s == "@" then decoratedOperand start
    else if s == "#" then privateName
    else fail .expressionExpected
  | some _ =>
    match ← literal? with
    | some n => return n
    | none => fail .expressionExpected

/-! ### Type arguments of an operand -/

/-- Whether an operand can begin at the next token. -/
def seesOperandStart : Parse Bool := do
  match ← current? with
  | none => return false
  | some x =>
    match x.token with
    | .number _ | .bigint _ | .string .. | .regExp .. => return true
    | .symbol "#" => peeksWord
    | .symbol s =>
      return ["\x60", "(", "[", "\x7b", "/", "/=", "+", "-", "~", "!", "++", "--", "<"].contains s
    | .word "import" => return (← peeks "(") || (← peeks "<") || (← peeks ".")
    | .word w =>
      return !isReserved w || ["this", "super", "null", "true", "false", "function", "class", "new",
        "delete", "typeof", "void", "await", "yield"].contains w
    | _ => return false

/-- Reads type arguments that belong to an operand as such, if there are any. -/
def operandTypeArgs : Parse (Option Node) := do
  if !(← sees "<") then return none
  tried do
    let args ← typeArgs
    if ← seesAny ["<", ">", "+", "-", "(", "\x60"] then return none
    if ← afterLineBreak then return some args
    match ← current? with
    | some x => if x.token.isBinaryOperator then return some args
    | none => pure ()
    if ← seesOperandStart then return none else return some args

/-- An operand with the type arguments that belong to it, if there are any. -/
def withOperandTypeArgs (start : Nat) (e : Node) : Parse Node := do
  match ← operandTypeArgs with
  | some args => nodeFrom start .instantiation [e, args]
  | none => return e

/-! ### Chains -/

/-- Whether an operand is part of an optional chain. -/
def isOptional : Node → Bool
  | .mk kind _ children =>
    match kind, children with
    | .optMember _, _ => true
    | .optCall _, _ => true
    | .nonNull, [e] => isOptional e
    | _, _ => false

/-- What stands where no chain can begin with it alone. -/
def isSuper (e : Node) : Bool :=
  match e.kind with
  | .superExpr => true
  | _ => false

/-- Whether an operand is the word `import`. -/
def isImport (e : Node) : Bool :=
  match e.kind with
  | .importCallee => true
  | _ => false

/-- Whether an operand is an expression of its own. -/
def isExpression (e : Node) : Bool := !isSuper e && !isImport e

/-- An operand with a property. -/
def memberOf (object property : Node) (isMarked noCall : Bool) : Parse Node := do
  let start := object.lo
  if isSuper object then
    if isMarked then failAt start (if noCall then .superCall else .superAccess)
    match property.kind with
    | .privateName => failAt property.lo .superPrivate
    | _ => nodeFrom start .superMember [object, property]
  else if isImport object then fail .importPlacement
  else if isMarked || isOptional object then
    nodeFrom start (.optMember isMarked) [object, property]
  else nodeFrom start .member [object, property]

/-- A call of an operand. -/
def callOf (callee : Node) (isMarked : Bool) (typeArgs : Node) : Parse Node := do
  let start := callee.lo
  let arguments ← callArguments
  if isMarked || isOptional callee then
    if isSuper callee then fail .superOptional
    if isImport callee then fail .importPlacement
    nodeFrom start (.optCall isMarked) [callee, arguments, typeArgs]
  else nodeFrom start .call [callee, arguments, typeArgs]

/-- Reads a template with a tag. -/
def taggedBy (tag typeArgs : Node) : Parse Node := do
  let template ← templateLiteral true
  match tag.kind with
  | .optMember _ | .optCall _ => note tag.lo .taggedOptional
  | _ => pure ()
  nodeFrom tag.lo .taggedTemplate [tag, typeArgs, template]

/-- Reads what follows an operand if it begins with type arguments: what has been read, and whether
the chain may go on. -/
def angleLink (object : Node) (noCall : Bool) : Parse (Option (Node × Bool)) :=
  withMode (fun m => { m with plainAngles := true }) do
    tried do
      let isAsync := object.identName? == some "async"
      if !noCall && isAsync && (← atArrowStart object.lo) then
        if let some arrow ← genericAsyncArrow object.lo then return some (arrow, true)
      let args ← typeArgs
      if !noCall && (← sees "(") then return some (← callOf object false args, true)
      if ← sees "\x60" then return some (← taggedBy object args, true)
      if ← seesAny ["=", "as", "satisfies"] then
        return some (← nodeFrom object.lo .instantiation [object, args], false)
      return none

/-- Reads one link of a chain: what has been read, and whether the chain may go on. -/
def link (object : Node) (noCall noComputed : Bool) : Parse (Node × Bool) := do
  let _ ← look
  if !(← afterLineBreak) && (← sees "!") then
    skip
    if isSuper object then fail (.nonNullAssertion "super")
    if isImport object then fail (.nonNullAssertion "import")
    return (← nodeFrom object.lo .nonNull [object], true)
  if isExpression object && (← sees "<") then
    if let some found ← angleLink object noCall then return found
  let args ← if isExpression object then operandTypeArgs else pure none
  let isMarked ← if ← sees "?" then peeks "." else pure false
  if isMarked then
    skip
    skip
  if (!noComputed || isMarked) && (← sees "[") then
    let bracket ← here
    skip
    let property ← allowingIn (ask .expression)
    expect "]"
    let key ← nodeFrom bracket .computedKey [property]
    return (← memberOf object key isMarked noCall, true)
  let args ← if isMarked && args.isNone && (← sees "<") then operandArgsOfCall else pure args
  if (!noCall || isMarked) && (← sees "(") then
    return (← callOf object isMarked (.ofOption args), true)
  if isMarked || (← eat ".") then
    let property ← if isImport object then anyName else memberName
    return (← memberOf object property isMarked noCall, true)
  if isSuper object then fail (if noCall then .superCall else .superAccess)
  if isImport object then fail .importPlacement
  let e ←
    match args with
    | some args => nodeFrom object.lo .instantiation [object, args]
    | none => pure object
  if ← sees "\x60" then return (← taggedBy e .absent, true)
  return (e, false)
where
  operandArgsOfCall : Parse (Option Node) := tried do
    let args ← typeArgs
    if ← sees "(" then return some args else return none

/-- Reads the chain behind an operand. -/
def subscripts (object : Node) (noCall noComputed : Bool) : Parse Node := do
  repeatStep (fun (object : Node) => do
    let (e, mayGoOn) ← link object noCall noComputed
    return (e, !mayGoOn)) (← fuel) object

/-- Reads what the word `import` begins inside an expression, behind that word. -/
def importOperand (start : Nat) (noCall : Bool) : Parse Node := do
  let callee ← leaf .importCallee
  if ← eat "." then
    let n ← anyName
    if n.nameText? != some "meta" then unexpected "meta"
    let e ← nodeFrom start .importMeta []
    ask (.subscripts e noCall false)
  else ask (.subscripts callee noCall false)

/-- Whether a constructor call cannot have an operand as its callee. -/
def refusesNew (callee : Node) : Bool :=
  match callee.kind with
  | .optMember _ | .optCall _ => true
  | .member =>
    match (callee.child 0).kind with
    | .optMember _ | .optCall _ => true
    | _ => false
  | _ => false

/-- Reads what the word `new` begins, behind that word. -/
def constructorCall (start : Nat) : Parse Node := do
  if ← eat "." then
    unless ← eat "target" do unexpected "target"
    let e ← nodeFrom start .newTarget []
    let m ← mode
    if !m.inPlainFunction && !m.inParameters && !m.inClass then note start .newTarget
    return ← ask (.subscripts e true false)
  let callee ← ask .newExpr
  if isArrow callee then return callee
  if refusesNew callee then failAt callee.lo .newOptional
  let args ←
    if ← seesAny ["<", "<<"] then
      tried do
        let args ← withMode (fun m => { m with plainAngles := false }) typeArgs
        if ← sees "(" then return some args else return none
    else pure none
  if ← sees "(" then
    let arguments ← callArguments
    let e ← nodeFrom start .newExpr [callee, arguments, .ofOption args]
    ask (.subscripts e true false)
  else nodeFrom start .newExpr [callee, .absent, .ofOption args]

/-- Reads an operand with its properties but without calls, or a constructor call. -/
def memberOrNew : Parse Node := withMode (fun m => { m with plainAngles := true }) do
  let start ← here
  if ← eat "new" then return ← constructorCall start
  if ← eat "super" then
    let e ← leaf .superExpr
    return ← ask (.subscripts e true false)
  if ← eat "import" then return ← importOperand start true
  let e ← primary
  if isArrow e then return e
  let e ← withOperandTypeArgs start e
  ask (.subscripts e true false)

/-- Whether an operand is a constructor call without arguments. -/
def isBareNew (e : Node) : Bool :=
  match e.kind with
  | .newExpr => (e.child 1).isAbsent
  | _ => false

/-- Reads an operand with all that is chained to it. -/
def leftHandSide : Parse Node := do
  let start ← here
  if ← eat "super" then
    let e ← leaf .superExpr
    return ← ask (.subscripts e false false)
  if ← eat "import" then return ← importOperand start false
  let callee ← ask .newExpr
  if isArrow callee then return callee
  let args ←
    if ← seesAny ["<", "<<"] then
      tried do
        let args ← typeArgs
        if ← sees "(" then return some args else return none
    else pure none
  if isBareNew callee then
    if args.isSome then expect "("
    return callee
  if ← sees "(" then
    let e ← callOf callee false (.ofOption args)
    ask (.subscripts e false false)
  else if args.isSome then do
    expect "("
    return callee
  else return callee

end PageRoutes.Syntax.Parse
