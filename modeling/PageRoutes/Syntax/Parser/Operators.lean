import PageRoutes.Syntax.Parser.Operands
/-!
# Reading operators

Expressions from operands up: operators before and behind one operand, operators between operands by
their precedence, conditional expressions, assignments and sequences.
-/

namespace PageRoutes.Syntax.Parse

/-! ### Operators on one operand -/

/-- Whether an operand in any number of brackets is a property. -/
def isProperty : Node → Bool
  | .mk kind _ children =>
    match kind, children with
    | .paren, [e] => isProperty e
    | .member, _ => true
    | .optMember _, _ => true
    | _, _ => false

/-- Notes what is wrong with the operand of `delete`. -/
def checkDelete (e : Node) : Parse Unit := do
  if e.identName?.isSome then noteStrict e.lo .deleteIdentifier
  unless isProperty e do note e.lo .deleteOperand

/-- Reads an operator before an operand. -/
def prefixed (start : Nat) (operator : String) : Parse Node := do
  skip
  let place := (← here) - 1
  let e ←
    try ask .unary
    catch fault =>
      noteFault fault
      pure (invalidAt ⟨place, place⟩)
  if operator == "delete" then checkDelete e
  return .mk (.unary operator) ⟨start, e.hi⟩ [e]

/-- Reads an awaited operand. -/
def awaitOperand (start : Nat) : Parse Node := do
  if ← sees "*" then fail .awaitStar
  let m ← mode
  let isBare ←
    if ← seesAny [")", "]"] then pure !m.inAsync
    else if ← seesEnd then pure true
    else sees ","
  if isBare then
    note start .awaitAsIdentifier
    return ← nodeFrom start (.ident "await") []
  if m.inFunction && !m.inAsync then note start .awaitOutside
  if m.inParameters && !m.inFunction then note start .awaitInParameter
  let e ← ask .unary
  nodeFrom start .awaitExpr [e]

/-- Reads an operand, and an operator behind it that changes its value. -/
def postfixed : Parse Node := do
  let e ← ask .leftHandSide
  if isArrow e || (← afterLineBreak) then return e
  if ← seesAny ["++", "--"] then
    checkTarget e false
    let operator ← shown
    skip
    nodeFrom e.lo (.update operator false) [e]
  else return e

/-- Reads an operand with the operators that belong to it alone. -/
def unary : Parse Node := do
  let start ← here
  if ← eat "<" then
    if ← eat "const" then
      expect ">"
      let e ← ask .unary
      return ← nodeFrom start .constAssertion [e]
    return ← angleAssertion start
  if ← seesAny ["++", "--"] then
    let operator ← shown
    skip
    let e ← ask .unary
    checkTarget e false
    return .mk (.update operator true) ⟨start, e.hi⟩ [e]
  if ← seesAny ["delete", "void", "typeof", "+", "-", "~", "!"] then
    return ← prefixed start (← shown)
  if ← eat "await" then return ← awaitOperand start
  postfixed

/-! ### Operators between operands -/

/-- How closely an operator binds its operands. -/
def precedence (operator : String) : Nat :=
  if ["||", "??"].contains operator then 1
  else if operator == "&&" then 2
  else if operator == "|" then 3
  else if operator == "^" then 4
  else if operator == "&" then 5
  else if ["==", "!=", "===", "!=="].contains operator then 6
  else if ["<", "<=", ">", ">=", "in", "instanceof"].contains operator then 7
  else if ["<<", ">>", ">>>"].contains operator then 8
  else if ["+", "-"].contains operator then 9
  else if ["*", "/", "%"].contains operator then 10
  else 11

/-- The operator between operands that a token stands for. -/
def operator? (token : Token) (allowIn : Bool) : Option String :=
  match token with
  | .word "in" => if allowIn then some "in" else none
  | .word "instanceof" => some "instanceof"
  | .symbol s => if token.isBinaryOperator then some s else none
  | _ => none

/-- Whether a node is an operation with one of some operators. -/
def isOperation (operators : List String) (e : Node) : Bool :=
  match e.kind with
  | .binary operator => operators.contains operator
  | _ => false

/-- Whether an operand cannot stand before `**`. -/
def isUnary (e : Node) : Bool :=
  match e.kind with
  | .unary _ | .awaitExpr => true
  | _ => false

/-- Reads a type assertion behind an operand, if there is one. -/
def typeAssertion? (left : Node) (minPrecedence : Nat) : Parse (Option Node) := do
  if 7 ≤ minPrecedence || (← afterLineBreak) then return none
  if ← sees "as" then
    if ← peeks "const" then
      skip
      let _ ← look
      skip
      let _ ← look
      return some (← nodeFrom left.lo .constAssertion [left])
    skip
    let t ← inType type
    return some (← nodeFrom left.lo .asExpr [left, t])
  if ← sees "satisfies" then
    skip
    let t ← inType type
    return some (← nodeFrom left.lo .satisfiesExpr [left, t])
  return none

/-- Reads an operator and its right operand, if an operator that binds closer than a precedence
follows. -/
def operation? (left : Node) (minPrecedence : Nat) : Parse (Option Node) := do
  match (← look).bind fun t => operator? t true with
  | none => return none
  | some operator =>
    if operator == "in" && !(← mode).allowIn then return none
    let level := precedence operator
    if level ≤ minPrecedence then return none
    skip
    if operator == "**" && isUnary left then fail .unaryInPower
    let right ← ask .unary
    let right ← ask (.binary right (if operator == "**" then level - 1 else level))
    if operator == "??" then
      if isOperation ["&&", "||"] left then note left.lo .mixedNullish
      if isOperation ["&&", "||"] right then note right.lo .mixedNullish
    return some (.mk (.binary operator) ⟨left.lo, right.hi⟩ [left, right])

/-- Notes `??` on the left of another logical operator. -/
def checkMixed (e : Node) : Parse Unit := do
  if isOperation ["&&", "||"] e && isOperation ["??"] (e.child 0) then note e.lo .mixedNullish

/-- Reads the operators behind an operand that bind closer than a precedence. -/
def binary (left : Node) (minPrecedence : Nat) : Parse Node := do
  repeatStep (fun (left : Node) => do
    match ← typeAssertion? left minPrecedence with
    | some e => return (e, false)
    | none =>
      match ← operation? left minPrecedence with
      | some e =>
        checkMixed e
        return (e, false)
      | none => return (left, true)) (← fuel) left

/-- Reads an operand and the operators behind it. A missing operand before an operator is noted. -/
def operation : Parse Node := do
  let left ←
    try ask .unary
    catch fault =>
      let token ← need
      if (operator? token (← mode).allowIn).isSome then
        note (← here) .expressionExpected
        pure (invalidAt ⟨fault.place, fault.place⟩)
      else stop fault
  if isArrow left then return left
  binary left 0

/-! ### Whole expressions -/

/-- Reads an operation, or a conditional expression. -/
def conditional : Parse Node := do
  let start ← here
  let test ← operation
  if isArrow test then return test
  if ← eat "?" then conditionalRest start test else return test

/-- Whether an expression can begin at a token. -/
def beginsExpression : Token → Bool
  | .number _ | .bigint _ | .string .. | .regExp .. | .template .. => true
  | .word w =>
    isPlainWord w || literalWords.contains w || ["await", "function", "throw", "new", "this",
      "super", "class", "import", "yield", "typeof", "void", "delete", "let"].contains w
  | .symbol s =>
    ["~", "!", "+", "-", "(", "\x7b", "[", "$\x7b", "++", "--", "\x60", "#", "@"].contains s
  | _ => false

/-- Reads what the word `yield` begins inside a generator. -/
def yieldExpression : Parse Node := do
  let start ← here
  skip
  let m ← mode
  if m.inParameters && !m.inFunction then failAt start .yieldInParameter
  let isBare ←
    if ← seesEnd then pure true
    else if ← seesAny ["*", "/", "/="] then pure false
    else
      let next ← look
      pure ((next.map fun t => !beginsExpression t).getD false)
  if isBare then nodeFrom start (.yieldExpr false) [.absent]
  else
    let isDelegate ← eat "*"
    let e ← ask .assignment
    nodeFrom start (.yieldExpr isDelegate) [e]

/-- Tries to read an arrow function with type parameters. -/
def genericArrow (start : Nat) : Parse (Option Node) := withoutColon do
  tried do
    let params ← typeParams false true
    let e ← ask .assignment
    match e.kind, e.children with
    | .arrow isAsync, [ps, body, _, result] =>
      return some (.mk (.arrow isAsync) ⟨start, e.hi⟩ [ps, body, params, result])
    | _, _ => unexpected "("

/-- Whether an expression cannot be the target of an assignment by its form. -/
def endsAssignment (e : Node) : Bool :=
  match e.kind with
  | .conditional | .binary _ | .unary _ | .update .. => true
  | _ => isArrow e

/-- Reads an expression that is no sequence. -/
def assignment : Parse Node := do
  let start ← here
  if ← sees "<" then
    if ← peeksWord then
      if let some arrow ← genericArrow start then
        if (← read).dialect.refuseAngles then note start .reservedTypeParameters
        return arrow
  if (← mode).inGenerator && (← sees "yield") then return ← yieldExpression
  match ← need with
  | .word w => mayBeginArrow (if isPlainWord w || w == "yield" then some start else none)
  | .symbol "(" => mayBeginArrow (some start)
  | _ => mayBeginArrow none
  let e ← conditional
  if endsAssignment e then return e else assignmentRest start e

/-- Reads an expression. -/
def expression : Parse Node := do
  let first ← ask .assignment
  if ← sees "," then
    let more ← collect do
      if ← eat "," then return some (← ask .assignment) else return none
    let last := more.getLastD first
    return .mk .sequence ⟨first.lo, last.hi⟩ (first :: more)
  else return first

end PageRoutes.Syntax.Parse
