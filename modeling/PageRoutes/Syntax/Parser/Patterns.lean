import PageRoutes.Syntax.Parser.Types
/-!
# Reading patterns

What is bound by a declaration or a parameter, and what is assigned to. The target of an assignment
is first read as an expression, as is the head of an arrow function; `toPattern` then reads the
expression as a pattern and notes what cannot stand there.
-/

namespace PageRoutes.Syntax

/-- A pattern with a type. -/
def Node.withType (pattern t : Node) : Node :=
  .mk pattern.kind pattern.span (pattern.children.take 1 ++ [t])

/-- A pattern that may be left out by the caller. -/
def Node.asOptional (pattern : Node) : Node :=
  match pattern.kind, pattern.children with
  | .bindingName, n :: rest =>
    .mk .bindingName pattern.span (n.withKind (.name ((n.nameText?).getD "") true) :: rest)
  | .arrayPattern _, cs => .mk (.arrayPattern true) pattern.span cs
  | .objectPattern _, cs => .mk (.objectPattern true) pattern.span cs
  | _, _ => pattern

/-- The type of a pattern. -/
def Node.patternType (pattern : Node) : Node := pattern.child 1

namespace Parse

/-! ### Decorators -/

/-- Reads the arguments of a decorator, if there are any. -/
def decoratorCall (e : Node) : Parse Node := do
  let args ← if ← sees "<" then typeArgs else pure .absent
  if args.isAbsent && !(← sees "(") then return e
  let arguments ← ask .arguments
  nodeFrom e.lo .call [e, arguments, args]

/-- Reads a decorator. -/
def decorator : Parse Node := do
  let start ← here
  skip
  if ← eat "(" then
    let e ← ask .expression
    expect ")"
    return ← nodeFrom start .decorator [e]
  let w ← identText []
  let n ← leaf (.ident w)
  let e ← ask (.subscripts n true true)
  let e ← decoratorCall e
  nodeFrom start .decorator [e]

/-- Reads decorators, if there are any and the dialect has them. -/
def decorators : Parse (List Node) := do
  if (← read).dialect.decorators then
    collect do
      if ← sees "@" then return some (← decorator) else return none
  else return []

/-! ### Binding patterns -/

/-- Reads a pattern, inside an array or object pattern or a declaration. -/
def bindingPattern : Parse Node := ask .bindingPattern

/-- Reads a pattern with an initializer behind it, if there is one. -/
def bindingElement : Parse Node := do
  let start ← here
  let pattern ← bindingPattern
  if ← eat "=" then
    let value ← allowingIn (ask .assignment)
    if (← mode).inDeclare then note start .initializerInSignature
    nodeFrom start .assignPattern [pattern, value]
  else return pattern

/-- Whether a node is a rest pattern. -/
def isRest (n : Node) : Bool :=
  match n.kind with
  | .restPattern => true
  | _ => false

/-- Reads an element of an array pattern. -/
def arrayElement : Parse Node := do
  let start ← here
  if ← eat "..." then
    let pattern ← bindingPattern
    nodeFrom start .restPattern [pattern, .absent]
  else bindingElement

/-- Reads an array pattern. -/
def arrayPattern : Parse Node := do
  let start ← here
  skip
  let elements ← repeatStep (fun (elements : List Node) => do
    if (← atEnd) || (← sees "]") then return (elements, true)
    if ← eat "," then return (.absent :: elements, false)
    if let some rest := elements.find? isRest then note rest.lo .restNotLast
    let e ← arrayElement
    unless ← sees "]" do
      expect ","
      if isRest e && (← sees "]") then note (← lastSpan).lo .trailingCommaAfterRest
    return (e :: elements, false)) (← fuel) []
  expect "]"
  let isOptional ← if (← mode).inDeclare then eat "?" else pure false
  nodeFrom start (.arrayPattern isOptional) [.group elements.reverse, .absent]

/-- Whether a word cannot stand for a variable. -/
def isReservedName (w : String) : Bool := isReserved w

/-- Reads a property of an object pattern. -/
def propertyPattern : Parse Node := do
  let start ← here
  if ← eat "..." then
    let pattern ← bindingPattern
    return ← nodeFrom start .restPattern [pattern, .absent]
  let key ← propertyName
  if ← eat ":" then
    let pattern ← bindingElement
    return ← nodeFrom start .keyValuePattern [key, pattern]
  match key.nameText? with
  | none => unexpected "an identifier"
  | some w =>
    let value ←
      if ← eat "=" then allowingIn (ask .assignment)
      else do
        if isReservedName w then note key.lo .reservedShorthand
        pure .absent
    nodeFrom start .shorthandPattern [key, value]

/-- Checks the rest patterns among the properties of an object pattern. -/
def checkRestProperties (trailingComma : Option Nat) : List Node → Parse Unit
  | [] => pure ()
  | [p] => do
    if isRest p then
      match (p.child 0).kind with
      | .bindingName =>
        if let some place := trailingComma then note place .trailingCommaAfterRest
      | _ => failAt p.lo .dotsWithoutIdentifier
  | p :: rest => do
    if isRest p then note p.lo .restNotLast
    checkRestProperties trailingComma rest

/-- Reads properties between braces, and the place of a trailing comma. -/
def properties (property : Parse Node) : Parse (List Node × Option Nat) := do
  skip
  let (nodes, comma) ← repeatStep (fun (state : List Node × Option Nat) => do
    if ← eat "\x7d" then return (state, true)
    let p ← property
    let nodes := p :: state.1
    if ← sees "\x7d" then return ((nodes, none), false)
    expect ","
    if ← sees "\x7d" then return ((nodes, some (← lastSpan).lo), false)
    return ((nodes, none), false)) (← fuel) ([], none)
  return (nodes.reverse, comma)

/-- Reads an object pattern. -/
def objectPattern : Parse Node := withMode (fun m => { m with expectsColon := false }) do
  let start ← here
  let (nodes, comma) ← properties propertyPattern
  let span ← spanFrom start
  checkRestProperties comma nodes
  let isOptional ← if (← mode).inDeclare then eat "?" else pure false
  return .mk (.objectPattern isOptional) span [.group nodes, .absent]

/-- Reads a pattern. -/
def anyPattern : Parse Node := do
  match ← need with
  | .word _ => bindingName
  | .symbol "[" => arrayPattern
  | .symbol "\x7b" => objectPattern
  | _ => unexpected "yield, an identifier, [ or \x7b"

/-! ### Parameters -/

/-- Reads the type of a parameter's pattern. -/
def typedPattern (start : Nat) (pattern : Node) : Parse Node := do
  let t ← optionalTypeMark
  if t.isAbsent then return pattern
  match pattern.kind with
  | .assignPattern =>
    note start .annotationAfterDefault
    return pattern.withSpan (← spanFrom start)
  | .bindingName => return pattern.withType t
  | _ => return (pattern.withType t).withSpan (← spanFrom start)

/-- Reads a parameter without its decorators. -/
def paramPattern : Parse Node := do
  let start ← here
  let hasModifier ← eatParameterModifier
  let patternStart ← here
  let pattern ← bindingPattern
  let isOptional ← eat "?"
  let pattern := if isOptional then pattern.asOptional else pattern
  let pattern ← typedPattern patternStart pattern
  let pattern ←
    if ← eat "=" then
      if isOptional then note pattern.lo .optionalWithInitializer
      let value ← ask .assignment
      nodeFrom start .assignPattern [pattern, value]
    else pure pattern
  if hasModifier then note start .parameterPropertyPlacement
  return pattern

/-- Reads a rest parameter behind its dots. -/
def restParam (start : Nat) : Parse Node := do
  let pattern ← bindingPattern
  let pattern ←
    if ← eat "=" then
      let value ← ask .assignment
      note pattern.lo .restInitializer
      nodeFrom start .assignPattern [pattern, value]
    else pure pattern
  let t ← optionalTypeMark
  let rest ← nodeFrom start .restPattern [pattern, t]
  if ← eat "?" then note (← lastSpan).lo .restOptional
  return rest

/-- Reads parameters up to the closing bracket; `param` reads one that is no rest parameter, from
its start and behind its decorators. -/
def params (param : Nat → List Node → Parse Node) : Parse (List Node) := do
  let nodes ← repeatStep (fun (state : List Node × Option Nat) => do
    let (nodes, rest) := state
    if (← atEnd) || (← sees ")") then return ((nodes, rest), true)
    if let some place := rest then note place .restParameterNotLast
    let start ← here
    let ds ← decorators
    let patternStart ← here
    let isRest ← eat "..."
    let p ←
      if isRest then
        let pattern ← restParam patternStart
        nodeFrom start .param [.group ds, pattern]
      else param start ds
    unless ← sees ")" do
      expect ","
      if isRest && (← sees ")") then note (← lastSpan).lo .trailingCommaAfterRest
    return ((p :: nodes, if isRest then some patternStart else rest), false)) (← fuel) ([], none)
  return nodes.1.reverse

/-- Reads the parameters of a function. -/
def formalParams : Parse (List Node) := params fun start ds => do
  let pattern ← paramPattern
  nodeFrom start .param [.group ds, pattern]

/-- Reads a parameter of a constructor, which may declare a property. -/
def constructorParam (start : Nat) (ds : List Node) : Parse Node := do
  let accessibility ← accessModifier
  let isOverride := (← modifier? ["override"] false).isSome
  let isReadonly := (← modifier? ["readonly"] false).isSome
  let pattern ← paramPattern
  if accessibility.isNone && !isOverride && !isReadonly then
    nodeFrom start .param [.group ds, pattern]
  else
    match pattern.kind with
    | .bindingName | .assignPattern =>
      nodeFrom start (.paramProperty { accessibility, isOverride, isReadonly }) [.group ds, pattern]
    | _ => failAt pattern.lo .parameterPropertyPattern

/-- Reads the parameters of a constructor. -/
def constructorParams : Parse (List Node) := params constructorParam

/-! ### Expressions as patterns -/

/-- What an expression is to be read as. -/
inductive PatternRole where
  /-- The whole target of an assignment. -/
  | target
  /-- A part of the target of an assignment. -/
  | targetPart
  /-- A parameter. -/
  | binding
  deriving DecidableEq

/-- The role of the parts of a pattern. -/
def PatternRole.part : PatternRole → PatternRole
  | .binding => .binding
  | _ => .targetPart

/-- An expression without brackets and type assertions that do not change what it stands for. -/
def isAssignable : Node → Bool
  | .mk kind _ children =>
    match kind, children with
    | .ident w, _ => w != "eval" && w != "arguments"
    | .paren, [e] => isAssignable e
    | .nonNull, [e] => isAssignable e
    | .typeAssertion, [e, _] => isAssignable e
    | .asExpr, [e, _] => isAssignable e
    | .satisfiesExpr, [e, _] => isAssignable e
    | .instantiation, [e, _] => isAssignable e
    | .member, [o, _] =>
      match o with
      | .mk .member span cs => isAssignable (.mk .member span cs)
      | .mk (.optMember _) _ _ => false
      | .mk (.optCall _) _ _ => false
      | _ => true
    | .superMember, _ => true
    | _, _ => false

/-- Whether an expression that cannot be assigned to is refused as a target. Calls are refused only
where `refuseCalls` says so. -/
def isRefused (refuseCalls : Bool) : Node → Bool
  | .mk kind _ children =>
    match kind, children with
    | .call, _ => refuseCalls
    | .binary _, _ => false
    | .paren, [e] => isRefused refuseCalls e
    | _, _ => true

/-- Notes a fault where an expression cannot be assigned to. -/
def checkTarget (e : Node) (refuseCalls : Bool) : Parse Unit := do
  match e.kind with
  | .ident w =>
    if w == "eval" || w == "arguments" then note e.lo .invalidArgumentsUse
  | _ => if !isAssignable e && isRefused refuseCalls e then note e.lo .invalidAssignTarget

/-- A node in place of what could not be read. -/
def invalidAt (span : Span) : Node := .mk .invalid span []

/-- A pattern that binds a name or assigns to it. -/
def patternOfIdent (n : Node) (w : String) : Node :=
  .mk .bindingName n.span [.mk (.name w false) n.span [], .absent]

/-- Whether an expression that is a part of a target may stand there as it is. -/
def isPlainTarget : Kind → Bool
  | .member | .superMember | .call | .newExpr | .nullLit | .boolLit _ | .numberLit .. | .bigintLit _
  | .stringLit .. | .regExpLit .. | .ident _ | .fnExpr | .classExpr | .paren | .template
  | .asExpr => true
  | _ => false

/-- The elements of an array without the holes at its end. -/
def dropTrailingHoles (elements : List Node) : List Node :=
  (elements.reverse.dropWhile Node.isAbsent).reverse

/-- A node of an array or object that is spread, with the spread expression. -/
def spread? (n : Node) : Option Node :=
  match n.kind, n.children with
  | .spread, [e] => some e
  | _, _ => none

/-- Whether an expression is an assignment with `=`, written as such or as a pattern. -/
def isAssignment (e : Node) : Bool :=
  match e.kind with
  | .assign "=" | .assignPattern => true
  | _ => false

mutual

/-- Reads an expression as a pattern; `depth` bounds the nesting. -/
def toPatternInner (role : PatternRole) : (depth : Nat) → Node → Parse Node
  | 0, e => return invalidAt e.span
  | depth + 1, e => do
    let refuse : Parse Node := do
      note e.lo .invalidPattern
      return invalidAt e.span
    let isCollection :=
      match e.kind with
      | .array | .object => true
      | _ => false
    if role = .target && !isCollection then
      match e.kind with
      | .ident w => return patternOfIdent e w
      | _ => return e
    if role = .targetPart && isPlainTarget e.kind then
      unless isAssignable e do note e.lo .cannotAssign
      match e.kind with
      | .ident w => return patternOfIdent e w
      | _ => return e
    if role = .targetPart && !isCollection && !isAssignment e then
      match e.kind with
      | .assign _ => pure ()
      | _ => note e.lo .invalidPattern
    match e.kind, e.children with
    | .ident w, _ => return patternOfIdent e w
    | .assign "=", [left, right] =>
      return .mk .assignPattern e.span [left, right]
    | .object, props =>
      let trailing := (← get).trailingCommas.lookup e.lo
      let props ← propertiesToPattern role trailing depth props
      return .mk (.objectPattern false) e.span [.group props, .absent]
    | .array, elements =>
      let trailing := (← get).trailingCommas.lookup e.lo
      let kept := dropTrailingHoles elements
      let hasHoles := kept.length < elements.length
      let elements ← elementsToPattern role trailing hasHoles depth kept
      return .mk (.arrayPattern false) e.span [.group elements, .absent]
    | _, _ => refuse

/-- Reads the properties of an object as those of a pattern. -/
def propertiesToPattern (role : PatternRole) (trailing : Option Nat) :
    (depth : Nat) → List Node → Parse (List Node)
  | 0, _ => return []
  | _, [] => return []
  | depth + 1, p :: rest => do
    let pattern ←
      match p.kind, p.children with
      | .ident w, _ =>
        pure (Node.mk .shorthandPattern p.span [.mk (.name w false) p.span [], .absent])
      | .keyValue, [key, value] =>
        let value ← toPatternInner role.part depth value
        pure (Node.mk .keyValuePattern p.span [key, value])
      | .assignProperty, [key, value] => pure (Node.mk .shorthandPattern p.span [key, value])
      | .spread, [e] =>
        if !rest.isEmpty then note p.lo .restNotLast
        else if let some place := trailing then note place .trailingCommaAfterRest
        let pattern ←
          match role, e.kind with
          | .binding, .ident w => pure (patternOfIdent e w)
          | .binding, _ => do
            note p.lo .dotsWithoutIdentifier
            pure (invalidAt p.span)
          | _, _ => toPatternInner role.part depth e
        if isAssignment pattern then note p.lo .restInitializer
        pure (Node.mk .restPattern p.span [pattern, .absent])
      | _, _ => failAt p.lo .invalidPattern
    return pattern :: (← propertiesToPattern role trailing depth rest)

/-- Reads the elements of an array as those of a pattern. -/
def elementsToPattern (role : PatternRole) (trailing : Option Nat) (hasHoles : Bool) :
    (depth : Nat) → List Node → Parse (List Node)
  | 0, _ => return []
  | _, [] => return []
  | depth + 1, e :: rest => do
    let pattern ←
      if e.isAbsent then pure e
      else
        match spread? e with
        | none => toPatternInner role.part depth e
        | some inner =>
          if !rest.isEmpty || hasHoles then
            note inner.lo .restNotLast
          else
            if isAssignment inner then note e.lo .restInitializer
            if let some place := trailing then note place .trailingCommaAfterRest
          let pattern ← toPatternInner role.part depth inner
          pure (Node.mk .restPattern inner.span [pattern, .absent])
    return pattern :: (← elementsToPattern role trailing hasHoles depth rest)

end

/-- Reads an expression as a pattern. -/
def toPattern (role : PatternRole) (e : Node) : Parse Node := do
  match e.kind with
  | .invalid => return e
  | .array | .object => toPatternInner role (← fuel) e
  | _ =>
    if role = .target then checkTarget e true
    toPatternInner role (← fuel) e

mutual

/-- The places of names in a pattern that strict code does not allow. -/
def strictPlaces : Node → List Nat
  | .mk kind span children =>
    match kind, children with
    | .bindingName, .mk (.name w _) _ _ :: _ => ofWord w span.lo
    | .assignPattern, pattern :: _ => strictPlaces pattern
    | .restPattern, pattern :: _ => strictPlaces pattern
    | .arrayPattern _, .mk .group _ elements :: _ => strictPlacesOf elements
    | .objectPattern _, .mk .group _ properties :: _ => strictPlacesOf properties
    | .keyValuePattern, [_, pattern] => strictPlaces pattern
    | .shorthandPattern, .mk (.name w _) _ _ :: _ => ofWord w span.lo
    | _, _ => []
where
  ofWord (w : String) (place : Nat) : List Nat :=
    if w == "eval" || w == "arguments" then [place] else []

/-- The places of names in some patterns that strict code does not allow. -/
def strictPlacesOf : List Node → List Nat
  | [] => []
  | n :: rest => strictPlaces n ++ strictPlacesOf rest

end

/-- Notes names in parameters that strict code does not allow. -/
def checkStrictNames (params : List Node) : Parse Unit :=
  (strictPlacesOf params).forM fun place => noteStrict place .evalOrArguments

end Parse

end PageRoutes.Syntax
