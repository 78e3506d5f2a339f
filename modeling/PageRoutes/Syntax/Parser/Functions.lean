import PageRoutes.Syntax.Parser.Patterns
/-!
# Reading functions

Parameters, result and body of functions, methods and arrow functions. A body is a place of its own:
labels, loops and the properties of the surrounding function do not reach into it, except that an
arrow function leaves `new.target` as it is around it.
-/

namespace PageRoutes.Syntax.Parse

/-- Runs a step that does not see labels and open forms around it. -/
def inFreshScope {α : Type} (step : Parse α) : Parse α := do
  let before ← get
  let restore : Parse Unit := modify fun s =>
    { s with
      labels := before.labels
      arrowStart := before.arrowStart
      trailingCommas := before.trailingCommas }
  set { before with labels := [], arrowStart := none, trailingCommas := [] }
  try
    let a ← step
    restore
    return a
  catch fault =>
    restore
    throw fault

/-- What a function is besides its parts. -/
structure FunctionForm where
  isAsync : Bool := false
  isGenerator : Bool := false
  isArrow : Bool := false

/-- The mode inside a body. -/
def FunctionForm.bodyMode (form : FunctionForm) (m : Mode) : Mode :=
  { m with
    inAsync := form.isAsync
    inGenerator := form.isGenerator
    inFunction := true
    inPlainFunction := m.inPlainFunction || !form.isArrow
    inStaticBlock := false
    canBreak := false
    canContinue := false }

/-- Runs a step inside a body. -/
def inBody {α : Type} (form : FunctionForm) (step : Parse α) : Parse α := do
  if (← mode).inDeclare && (← sees "\x7b") then note (← here) .ambientBody
  withMode form.bodyMode (inFreshScope step)

/-- Whether a statement is a directive. -/
def isDirective (statement : Node) (isOne : String → Bool) : Bool :=
  match statement.kind, (statement.child 0).kind with
  | .exprStmt, .stringLit _ raw => isOne raw
  | _, _ => false

/-- The place of the directive that asks for strict code, if a body begins with one. -/
def useStrict? (body : Node) : Option Nat :=
  let directives := body.children.takeWhile fun s => isDirective s fun _ => true
  let isStrict (raw : String) : Bool := raw == "\x22use strict\x22" || raw == "'use strict'"
  (directives.find? fun s => isDirective s isStrict).map Node.lo

/-- Whether a parameter is just a name. -/
def isSimpleParam (param : Node) : Bool :=
  match param.kind with
  | .bindingName => true
  | .param | .paramProperty _ =>
    match (param.child 1).kind with
    | .bindingName => true
    | _ => false
  | _ => false

/-- Reads the body of a function, which may be missing. -/
def functionBody (form : FunctionForm) (params : List Node) : Parse Node := inBody form do
  if !(← sees "\x7b") && (← eatEnd) then return .absent
  let body ← allowingIn (ask .block)
  unless params.all isSimpleParam do
    if let some place := useStrict? body then note place .useStrictWithPatterns
  return body

/-- Reads the body of an arrow function. -/
def arrowBody (isAsync : Bool) : Parse Node := inBody { isAsync, isArrow := true } do
  if ← sees "\x7b" then ask .block else ask .assignment

/-- Notes the initializers of parameters of a function without a body. -/
def refuseInitializers (params : List Node) : Parse Unit :=
  params.forM fun (param : Node) => do
    match (param.child 1).kind with
    | .assignPattern => note (param.child 1).lo .initializerInSignature
    | _ => pure ()

/-- Runs a step inside the brackets of parameters. -/
def inParams {α : Type} (step : Parse α) : Parse α :=
  withMode (fun m => { m with inParameters := true, inFunction := false }) step

/-- Reads type parameters, parameters, result and body of a function that begins at a place;
`readParams` reads the parameters between the brackets. -/
def functionRest (start : Nat) (decorators : List Node) (form : FunctionForm)
    (readParams : Parse (List Node)) : Parse Node :=
  withMode (fun m =>
      { m with
        inAsync := form.isAsync
        inGenerator := form.isGenerator
        inClassField := false }) do
    let typeParams ← optionalTypeParams false true
    expect "("
    let params ← inParams readParams
    expect ")"
    let result ← if ← sees ":" then returnMark ":" else pure .absent
    let body ← functionBody form params
    if body.isAbsent then refuseInitializers params
    nodeFrom start (.function form.isAsync form.isGenerator)
      [.group params, .group decorators, body, typeParams, result]

/-- Reads a function from its keyword on, with its name if it has one. -/
def functionParts (start : Nat) (decorators : List Node) (isAsync isNamed isExpression : Bool) :
    Parse (Node × Node) := do
  skip
  let form : FunctionForm := { isAsync, isGenerator := ← eat "*" }
  let ownName (m : Mode) : Mode :=
    if isExpression then { m with inAsync := form.isAsync, inGenerator := form.isGenerator } else m
  let n ← withMode ownName (if isNamed then bindingWord else optionalBindingWord)
  let f ← functionRest start decorators form formalParams
  if isExpression && (f.child 2).isAbsent then unexpected "\x7b"
  return (n, f)

/-- Reads a function expression. -/
def functionExpr (start : Nat) (isAsync : Bool) : Parse Node := do
  let (n, f) ← functionParts start [] isAsync false true
  nodeFrom start .fnExpr [n, f]

/-- Reads a function declaration. -/
def functionDecl (start : Nat) (decorators : List Node) (isAsync : Bool) : Parse Node := do
  let (n, f) ← functionParts start decorators isAsync true false
  nodeFrom start (.fnDecl false) [n, f]

/-! ### Accessors -/

/-- Whether a parameter is the pseudo-parameter `this`. -/
def isThisParam (param : Node) : Bool :=
  match (param.child 1).kind with
  | .bindingName => ((param.child 1).child 0).nameText? == some "this"
  | _ => false

/-- Reads the parameters of a getter, whose name stands at a place. -/
def getterParams (place : Nat) : Parse (List Node) := do
  let params ← formalParams
  unless params.all isThisParam do note place .getterParameters
  return params

/-- Reads the parameters of a setter, whose name stands at a place. -/
def setterParams (place : Nat) : Parse (List Node) := do
  let params ← formalParams
  if (params.filter fun p => !isThisParam p).length != 1 then note place .setterParameters
  if let some first := params.head? then
    if isRest (first.child 1) then note (first.child 1).lo .restInSetter
  return params

end PageRoutes.Syntax.Parse
