import PageRoutes.Syntax.Parser.Literals
/-!
# Reading round brackets

What stands in round brackets is an expression or the parameters of an arrow function, and which of
the two is seen only behind the closing bracket. The items are read as expressions as far as they
can be, and read again as patterns if an arrow follows.
-/

namespace PageRoutes.Syntax.Parse

/-! ### Assignments -/

/-- Reads an assignment operator and the value behind it, if an operator follows the target. -/
def assignmentRest (start : Nat) (target : Node) : Parse Node := do
  match ← look with
  | some (.symbol operator) =>
    if !assignOperators.contains operator then return target
    let left ←
      if operator == "=" then toPattern .target target
      else do
        unless isAssignable target do note target.lo .invalidAssignTarget
        pure target
    skip
    let right ← ask .assignment
    nodeFrom start (.assign operator) [left, right]
  | _ => return target

/-- Reads the two branches of a conditional expression, behind the question mark. -/
def conditionalRest (start : Nat) (test : Node) : Parse Node := do
  let yes ← withMode
    (fun m => { m with inConditional := true, expectsColon := true, allowIn := true })
    (ask .assignment)
  expect ":"
  let no ← withMode (fun m => { m with inConditional := true, expectsColon := false })
    (ask .assignment)
  return .mk .conditional ⟨start, no.hi⟩ [test, yes, no]

/-! ### Items -/

/-- An item in round brackets. -/
structure ParenItem where
  node : Node
  /-- Whether the item can only be a parameter. -/
  isPattern : Bool

/-- Marks a place where the head of an arrow function may begin. -/
def mayBeginArrow (place : Option Nat) : Parse Unit := modify fun s => { s with arrowStart := place }

/-- Reads the expression of an item. Behind a name a question mark may belong to a parameter, so the
branches of a conditional expression are not read here. -/
def itemExpression (start : Nat) : Parse Node := do
  let isRest ← sees "..."
  let isNamed ← if isRest then peeksIdentifier else seesIdentifier
  if !isNamed then return ← allowingIn spreadElement
  if isRest then
    let place ← here
    skip
    let e ← allowingIn (ask .operation)
    nodeFrom place .spread [e]
  else
    let e ← ask .operation
    match ← current? with
    | some x => if x.token.isAssignOperator then assignmentRest start e else return e
    | none => return e

/-- Whether a question mark that comes next makes a parameter optional. -/
def isOptionalMark : Parse Bool := do
  match ← following? with
  | some x => return [",", ":", ")", "="].any x.token.is
  | none => return false

/-- Reads the question mark of an item: the item with its branches, and whether it is an optional
parameter. -/
def itemQuestion (start : Nat) (e : Node) : Parse (Node × Bool) := do
  if !(← sees "?") then return (e, false)
  let isSpread := (spread? e).isSome
  if ← isOptionalMark then
    skip
    let _ ← look
    if isSpread then note (← lastSpan).lo .restOptional
    match ((spread? e).getD e).kind with
    | .ident _ => return (e, true)
    | _ => failAt e.lo .optionalPattern
  if isSpread then return (e, false)
  skip
  return (← conditionalRest start e, false)

/-- Reads type and initializer of an item that can only be a parameter. -/
def itemPattern (start : Nat) (e : Node) (isOptional : Bool) : Parse Node := do
  let pattern ← toPattern .binding ((spread? e).getD e)
  let pattern := if isOptional then pattern.asOptional else pattern
  let pattern ←
    if (spread? e).isSome then nodeFrom start .restPattern [pattern, .absent] else pure pattern
  let pattern ← typedPattern start pattern
  if ← eat "=" then
    let value ← ask .assignment
    nodeFrom start .assignPattern [pattern, value]
  else return pattern

/-- Reads an item. -/
def parenItem : Parse ParenItem := do
  let start ← here
  mayBeginArrow (some start)
  let hasModifier ← eatParameterModifier
  let patternStart ← here
  let e ← itemExpression start
  let (e, isOptional) ← itemQuestion start e
  let isPattern ← if isOptional then pure true else sees ":"
  let node ← if isPattern then itemPattern patternStart e isOptional else pure e
  if hasModifier then note start .parameterPropertyPlacement
  return ⟨node, isPattern⟩

/-! ### Parameters of arrow functions -/

/-- Reads an item that is not the last one as a parameter. -/
def innerParam (item : ParenItem) : Parse (Option Node) := do
  if isRest item.node || (spread? item.node).isSome then
    note item.node.lo .restParameterNotLast
    return none
  if item.isPattern then return some item.node
  return some (← toPattern .binding item.node)

/-- Reads the last item as a parameter. -/
def lastParam (item : ParenItem) (comma : Option Nat) : Parse Node := do
  let refuseComma : Parse Unit := do
    if let some place := comma then note place .trailingCommaAfterRest
  match spread? item.node with
  | some e =>
    match e.kind with
    | .assign _ => note item.node.lo .restInitializer
    | _ => pure ()
    refuseComma
    let pattern ← toPattern .binding e
    return .mk .restPattern e.span [pattern, .absent]
  | none =>
    if item.isPattern then
      if isRest item.node then refuseComma
      return item.node
    toPattern .binding item.node

/-- Reads items as parameters; `comma` is the place of a trailing comma. -/
def itemsAsParams (items : List ParenItem) (comma : Option Nat) : Parse (List Node) := do
  match items.getLast? with
  | none => return []
  | some last =>
    let inner ← items.dropLast.filterMapM innerParam
    let params := inner ++ [← lastParam last comma]
    checkStrictNames params
    return params

/-! ### Brackets -/

/-- Whether the first of some items is a name, so that an arrow may follow it without brackets. -/
def beginsWithName (items : List ParenItem) : Bool :=
  match items with
  | ⟨.mk (.ident _) _ _, _⟩ :: _ => true
  | ⟨.mk .bindingName _ _, _⟩ :: _ => true
  | _ => false

/-- Reads items with their brackets, and the place of a trailing comma. -/
def parenItems : Parse (List ParenItem × Option Nat) := withoutColon do
  expect "("
  let (items, comma) ← repeatStep (fun (state : List ParenItem × Option Nat) => do
    if (← atEnd) || (← sees ")") then return (state, true)
    let (items, comma) := state
    let start ← here
    let item ← parenItem
    let items := items ++ [item]
    let items ←
      if (← eat "=>") && beginsWithName items then
        let params ← itemsAsParams items none
        let body ← arrowBody false
        let arrow ← nodeFrom start (.arrow false) [.group params, body, .absent, .absent]
        pure (items ++ [⟨arrow, false⟩])
      else pure items
    if ← sees ")" then return ((items, comma), false)
    expect ","
    let place := (← lastSpan).lo
    let comma := if ← sees ")" then some place else comma
    return ((items, comma), false)) (← fuel) ([], none)
  expect ")"
  return (items, comma)

/-- Reads the body of an arrow function whose parameters are known. -/
def arrowFrom (start : Nat) (isAsync : Bool) (params : List Node) (typeParams result : Node) :
    Parse Node := do
  let body ← arrowBody isAsync
  nodeFrom start (.arrow isAsync) [.group params, body, typeParams, result]

/-- Tries to read an arrow function with a result type in a branch of a conditional expression,
where the colon can also belong to that expression. -/
def arrowInConditional (start : Nat) (isAsync : Bool) (items : List ParenItem) :
    Parse (Option Node) := do
  let expectsColon := (← mode).expectsColon
  tried do
    let result ← returnMark ":"
    expect "=>"
    let params ← itemsAsParams items none
    let arrow ← arrowFrom start isAsync params .absent result
    if expectsColon && !(← sees ":") then unexpected "fail"
    return some arrow

/-- Reads an operator behind an arrow function with a block, which may not stand there. -/
def afterArrow (arrow : Node) : Parse Node := do
  match (arrow.child 1).kind with
  | .block =>
    if ((← look).map Token.isBinaryOperator).getD false then
      note (← here) .expectedSemicolon
      ask (.binary arrow 0)
    else return arrow
  | _ => return arrow

/-- Notes default values in objects, which have a meaning in patterns only. -/
def refuseAssignProperties (item : ParenItem) : Parse Unit := do
  match item.node.kind with
  | .object =>
    for p in item.node.children do
      match p.kind with
      | .assignProperty => note p.lo .assignmentProperty
      | _ => pure ()
  | _ => pure ()

/-- The expressions in brackets as one expression. -/
def parenthesized (start : Nat) (items : List Node) : Parse Node := do
  for e in items do
    if let some inner := spread? e then failAt inner.lo .spreadInParens
  match items with
  | [] => failAt start .emptyParens
  | [e] => nodeFrom start .paren [e]
  | first :: rest =>
    let last := rest.getLastD first
    nodeFrom start .paren [.mk .sequence ⟨first.lo, last.hi⟩ items]

/-- Reads brackets and what belongs to them: an expression, the parameters of an arrow function with
its body, or, behind the word `async`, the arguments of a call. -/
def parenOrArrow (canBeArrow : Bool) (asyncSpan : Option Span) : Parse Node := do
  let start := (asyncSpan.map Span.lo).getD (← here)
  let isAsync := asyncSpan.isSome
  let (items, comma) ← withoutColon (allowingIn parenItems)
  if (← mode).inConditional && (← sees ":") then
    if let some arrow ← arrowInConditional start isAsync items then return arrow
  let result ←
    if !(← mode).expectsColon && (← sees ":") then
      tried do
        let result ← returnMark ":"
        unless ← sees "=>" do unexpected "fail"
        return some result
    else pure none
  if items.any ParenItem.isPattern || result.isSome || (← sees "=>") then
    if ← afterLineBreak then failAt start .lineBreakBeforeArrow
    unless canBeArrow do failAt start .arrowPlacement
    expect "=>"
    let params ← itemsAsParams items comma
    let arrow ← arrowFrom start isAsync params .absent (.ofOption result)
    return ← afterArrow arrow
  items.forM refuseAssignProperties
  let nodes := items.map ParenItem.node
  match asyncSpan with
  | some span =>
    nodeFrom start .call [.mk (.ident "async") span [], .group nodes, .absent]
  | none => parenthesized start nodes

/-- Tries to read an arrow function with type parameters, behind the word `async`. -/
def genericAsyncArrow (start : Nat) : Parse (Option Node) := do
  if !(← sees "<") then return none
  let head ← tried do
    let typeParams ← typeParams false false
    expect "("
    let params ← formalParams
    expect ")"
    let result ← if ← sees ":" then returnMark ":" else pure .absent
    expect "=>"
    return some (typeParams, params.map fun p => p.child 1, result)
  match head with
  | none => return none
  | some (typeParams, params, result) =>
    withMode (fun m => { m with inAsync := true, inGenerator := false }) do
      return some (← arrowFrom start true params typeParams result)

end PageRoutes.Syntax.Parse
