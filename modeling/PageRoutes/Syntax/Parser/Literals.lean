import PageRoutes.Syntax.Parser.Functions
/-!
# Reading arrays, objects and arguments

Lists of expressions in brackets, and objects with their methods. An array or object may turn out to
be a pattern; the place of a trailing comma is kept for that case.
-/

namespace PageRoutes.Syntax.Parse

/-- Reads an expression that is no sequence, where `in` is an operator. -/
def assignmentIn : Parse Node := allowingIn (ask .assignment)

/-- Reads an element of a list, which may be spread. -/
def spreadElement : Parse Node := do
  let start ← here
  if ← eat "..." then
    let e ← assignmentIn
    nodeFrom start .spread [e]
  else assignmentIn

/-- Runs a step where no colon is expected behind an expression. -/
def withoutColon {α : Type} (step : Parse α) : Parse α :=
  withMode (fun m => { m with expectsColon := false }) step

/-- Keeps the place of the trailing comma of a literal that begins at a place. -/
def keepTrailingComma (start comma : Nat) : Parse Unit :=
  modify fun s => { s with trailingCommas := (start, comma) :: s.trailingCommas }

/-- Reads the arguments of a call with their brackets. -/
def callArguments : Parse Node := withoutColon do
  expect "("
  let arguments ← repeatStep (fun (arguments : List Node) => do
    if (← atEnd) || (← sees ")") then return (arguments, true)
    unless arguments.isEmpty do
      expect ","
      if ← sees ")" then return (arguments, true)
    return ((← spreadElement) :: arguments, false)) (← fuel) []
  expect ")"
  return .group arguments.reverse

/-- Reads an array. -/
def arrayLiteral : Parse Node := withoutColon do
  let start ← here
  skip
  let elements ← repeatStep (fun (elements : List Node) => do
    if (← atEnd) || (← sees "]") then return (elements, true)
    if ← eat "," then return (.absent :: elements, false)
    let e ← spreadElement
    unless ← sees "]" do
      expect ","
      if ← sees "]" then keepTrailingComma start (← lastSpan).lo
    return (e :: elements, false)) (← fuel) []
  expect "]"
  nodeFrom start .array elements.reverse

/-! ### Objects -/

/-- Whether the next token can follow the name of a property. -/
def canFollowKey (key : Node) : Parse Bool := do
  match ← current? with
  | none => return false
  | some x =>
    return match x.token with
      | .word _ | .string .. | .number _ => true
      | .symbol "\x7d" => key.nameText?.isSome
      | .symbol s => ["(", "[", ":", ",", "?", "=", "*", "<"].contains s
      | _ => false

/-- Reads a method of an object behind its name. -/
def methodRest (start : Nat) (key : Node) (form : FunctionForm) : Parse Node := do
  let f ← functionRest start [] form formalParams
  nodeFrom start .methodProperty [key, f]

/-- Reads a property that is written without a value, or with a default value. -/
def shorthand (start : Nat) (key : Node) (w : String) : Parse Node := do
  if isReservedName w then note key.lo .reservedShorthand
  if ← eat "=" then
    let value ← assignmentIn
    nodeFrom start .assignProperty [key, value]
  else return key.withKind (.ident w)

/-- Reads a getter, a setter or an asynchronous method, behind the word that says which. -/
def specialMethod (start : Nat) (role : String) : Parse Node := do
  let isGenerator ← if role == "async" then eat "*" else pure false
  let key ← propertyName
  if role == "get" then
    let f ← functionRest start [] {} (getterParams key.lo)
    nodeFrom start .getter [key, f.child 4, f.child 2]
  else if role == "set" then
    let f ← functionRest start [] {} (setterParams key.lo)
    let param := ((f.child 0).child 0).child 1
    nodeFrom start .setter [key, param, f.child 2]
  else methodRest start key { isAsync := true, isGenerator }

/-- Reads a property of an object behind its name. -/
def propertyRest (start : Nat) (key : Node) (hasModifier : Bool) (modifierPlace : Nat) :
    Parse Node := do
  unless ← canFollowKey key do
    note (← here) .expectedSemicolon
    return .mk .keyValue (← spanFrom start) [key, invalidAt (← spanFrom start)]
  if ← eat ":" then
    let value ← assignmentIn
    return ← nodeFrom start .keyValue [key, value]
  if ← seesAny ["<", "("] then return ← methodRest start key {}
  match key.nameText? with
  | none => unexpected "identifier"
  | some w =>
    if ← eat "?" then note (← lastSpan).lo .optionalMember
    if ← seesAny ["=", ",", "\x7d"] then return ← shorthand start key w
    if ["get", "set", "async"].contains w then
      if hasModifier then note modifierPlace .asyncPlacement
      specialMethod start w
    else
      unexpected
        "... , *,  (, [, :, , ?, =, an identifier, public, protected, private, readonly, <."

/-- Reads a property of an object. -/
def property : Parse Node := do
  let start ← here
  if ← eat "..." then
    let e ← assignmentIn
    return ← nodeFrom start .spread [e]
  if ← eat "*" then
    let key ← propertyName
    return ← methodRest start key { isGenerator := true }
  let hasModifier ← eatParameterModifier
  let modifierPlace := (← lastSpan).lo
  let key ← propertyName
  propertyRest start key hasModifier modifierPlace

/-- Reads an object. -/
def objectLiteral : Parse Node := withoutColon do
  let start ← here
  let (nodes, comma) ← properties property
  if let some place := comma then keepTrailingComma start place
  nodeFrom start .object nodes

end PageRoutes.Syntax.Parse
