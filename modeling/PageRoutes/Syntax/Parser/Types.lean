import PageRoutes.Syntax.Parser.Names
/-!
# Reading types

The rules for types, from the loosest to the tightest: conditional types, function types, unions,
intersections, operators such as `keyof`, arrays and indexed types, and what stands for itself. Some
forms can only be told apart by looking ahead over several tokens.
-/

namespace PageRoutes.Syntax.Parse

/-- Reads a type. -/
def type : Parse Node := ask .type

/-! ### Lists -/

/-- Reads elements between commas up to a token that ends the list. A comma may stand behind the
last element. -/
def delimited (atListEnd : Parse Bool) (element : Parse Node) : Parse (List Node) := do
  let nodes ← repeatStep (fun (nodes : List Node) => do
    if ← atListEnd then return (nodes, true)
    let n ← element
    if ← eat "," then return (n :: nodes, false)
    if ← atListEnd then return (n :: nodes, true)
    fail (.expected "," (← shown))) (← fuel) []
  return nodes.reverse

/-- Takes the first bracket of a left shift. -/
def cutShift : Parse Unit :=
  modify fun s =>
    { s with
      current := s.current.map fun x => { x with token := .symbol "<", lo := x.lo + 1 } }

/-- Reads type arguments, from their opening bracket on. -/
def typeArgs : Parse Node := do
  let start ← here
  let params ← inType do
    if ← sees "<<" then cutShift else expect "<"
    delimited (sees ">") type
  expect ">"
  nodeFrom start .typeArgs params

/-- Reads a type behind a symbol or word, if that comes next. -/
def typeAfter (mark : String) : Parse Node := do
  if ← sees mark then
    inType do
      skip
      type
  else return .absent

/-- Reads a type behind a symbol or word, which must come next. -/
def requiredTypeAfter (mark : String) : Parse Node := inType do
  unless ← eat mark do
    let got :=
      match ← look with
      | some t => "Some(" ++ t.shown ++ ")"
      | none => "None"
    fail (.unexpected got mark)
  type

/-- Reads a type annotation that belongs to a place. -/
def typeMark (start : Nat) : Parse Node := inType do
  let t ← type
  nodeFrom start .typeMark [t]

/-- Reads a type annotation from its colon on, if there is one. -/
def optionalTypeMark : Parse Node := do
  if ← sees ":" then
    let start ← here
    inType do
      skip
      typeMark start
  else return .absent

/-! ### Type parameters -/

/-- The modifiers of a type parameter that have been read. -/
structure ParameterModifiers where
  isIn : Bool := false
  isOut : Bool := false
  isConst : Bool := false

/-- Takes a modifier of a type parameter. -/
def takeParameterModifier (allowVariance allowConst : Bool) (word : String)
    (m : ParameterModifiers) : Parse ParameterModifiers := do
  let place := (← lastSpan).lo
  match word with
  | "const" =>
    unless allowConst do note place .constTypeParameterPlacement
    return { m with isConst := true }
  | "in" =>
    if !allowVariance then note place (.variancePlacement word)
    else if m.isIn then note place (.modifierTwice word)
    else if m.isOut then note place (.modifierOrder "in" "out")
    return { m with isIn := true }
  | "out" =>
    if !allowVariance then note place (.variancePlacement word)
    else if m.isOut then note place (.modifierTwice word)
    return { m with isOut := true }
  | _ =>
    note place (.typeParameterModifier word)
    return m

/-- Reads a type parameter. -/
def typeParam (allowVariance allowConst : Bool) : Parse Node := do
  let start ← here
  let words := ["public", "private", "protected", "readonly", "abstract", "const", "override", "in",
    "out"]
  let m ← repeatStep (fun (m : ParameterModifiers) => do
    match ← modifier? words false with
    | some word => return (← takeParameterModifier allowVariance allowConst word m, false)
    | none => return (m, true)) (← fuel) {}
  let n ← inType anyName
  let bound ← typeAfter "extends"
  let default ← typeAfter "="
  nodeFrom start (.typeParam m.isIn m.isOut m.isConst) [n, bound, default]

/-- Reads type parameters, from their opening bracket on. -/
def typeParams (allowVariance allowConst : Bool) : Parse Node := inType do
  let start ← here
  unless ← sees "<" do unexpected "< (jsx tag start)"
  skip
  let params ← delimited (sees ">") (typeParam allowVariance allowConst)
  expect ">"
  nodeFrom start .typeParams params

/-- Reads type parameters, if there are any. -/
def optionalTypeParams (allowVariance allowConst : Bool) : Parse Node := do
  if ← sees "<" then typeParams allowVariance allowConst else return .absent

/-! ### Names of types -/

/-- Reads names with dots between them. -/
def entityName (allowReserved : Bool) : Parse Node := do
  let first ← anyName
  repeatStep (fun (left : Node) => do
    if !(← eat ".") then return (left, true)
    let place ← here
    if !(← sees "#") && !(← seesWord) then
      note place .expectedTsIdentifier
      return (left, true)
    let right ← if allowReserved then anyName else name
    return (.mk .qualifiedName ⟨left.lo, right.hi⟩ [left, right], false)) (← fuel) first

/-- Type arguments on the same line, if there are any. -/
def typeArgsOnLine : Parse Node := do
  if !(← afterLineBreak) && (← seesAny ["<", "<<"]) then
    withMode (fun m => { m with plainAngles := false }) typeArgs
  else return .absent

/-- Reads a reference to a type by its name. -/
def typeReference : Parse Node := do
  let start ← here
  let hasModifier ← eatParameterModifier
  let n ← entityName true
  let args ← typeArgsOnLine
  if hasModifier then note start .parameterPropertyPlacement
  nodeFrom start .typeReference [n, args]

/-- Reads a type that stands in another module. -/
def importType : Parse Node := do
  let start ← here
  expect "import"
  expect "("
  let span ← currentSpan
  let source ←
    match ← need with
    | .string value raw =>
      skip
      leaf (.stringLit value raw)
    | _ =>
      skip
      note span.lo .stringExpected
      pure (.mk (.stringLit "" "\x22\x22") span [])
  expect ")"
  let qualifier ← if ← eat "." then entityName false else pure .absent
  let args ←
    if ← sees "<" then withMode (fun m => { m with plainAngles := false }) typeArgs
    else pure .absent
  nodeFrom start .importType [source, qualifier, args]

/-- Reads the type of a value. -/
def typeQuery : Parse Node := do
  let start ← here
  expect "typeof"
  let n ← if ← sees "import" then importType else entityName true
  let args ← typeArgsOnLine
  nodeFrom start .typeQuery [n, args]

/-! ### Signatures -/

/-- Reads the parameters of a signature, behind their opening bracket. -/
def signatureParams : Parse Node := do
  let params ← ask .formalParams
  let patterns ← params.children.mapM fun (param : Node) => do
    let pattern := param.child 1
    match pattern.kind with
    | .assignPattern =>
      unexpected "an identifier, [ for an array pattern, \x7b for an object patter or ... for a rest pattern"
    | _ => return pattern
  expect ")"
  return .group patterns

/-- Reads what a function returns, behind a mark: a type, or what the result says about a
parameter. -/
def returnMark (mark : String) : Parse Node := inType do
  let start ← here
  unless ← eat mark do fail (.expected mark (← shown))
  let predicateStart ← here
  let isAsserts := (← sees "asserts") && ((← peeksIdentifier) || (← peeks "this"))
  if isAsserts then skip
  let isPredicate :=
    ((← seesIdentifier) || (← sees "this")) && (← peeks "is") && !(← lineBreakInside)
  if isAsserts || isPredicate then
    let parameter ← if ← sees "this" then do
        skip
        leaf .thisType
      else anyName
    let t ←
      if isPredicate then do
        skip
        typeMark (← here)
      else pure .absent
    let predicate ← nodeFrom predicateStart (.typePredicate isAsserts) [parameter, t]
    nodeFrom start .typeMark [predicate]
  else typeMark start

/-- Reads a function type or a constructor type. -/
def functionType (isConstructor : Bool) : Parse Node := do
  let start ← here
  let isAbstract ← if isConstructor then eat "abstract" else pure false
  if isConstructor then expect "new"
  let typeParams ← optionalTypeParams false true
  expect "("
  let params ← signatureParams
  let result ← returnMark "=>"
  let kind : Kind := if isConstructor then .constructorType isAbstract else .functionType
  nodeFrom start kind [params, typeParams, result]

/-- Passes over the beginning of a parameter. -/
def skipParameterStart : Parse Bool := do
  let _ ← eatParameterModifier
  if ← seesWord then
    skip
    return true
  if (← sees "[") || (← sees "\x7b") then
    try
      let _ ← ask .bindingPattern
      return true
    catch _ => return false
  return false

/-- Whether a bracket begins the parameters of a function type. -/
def beginsFunctionType : Parse Bool := do
  if ← sees "<" then return true
  if !(← sees "(") then return false
  lookAhead do
    skip
    if ← seesAny [")", "..."] then return true
    if ← skipParameterStart then
      if ← seesAny [":", ",", "?", "="] then return true
      if ← eat ")" then return ← sees "=>"
    return false

/-! ### Members of an object type -/

/-- Reads the end of a member. -/
def endMember : Parse Unit := do
  unless ← eat "," do expectEnd

/-- Reads the name of a property in a type. The flag says whether it stands in brackets. -/
def memberKey : Parse (Bool × Node) := do
  if ← eat "[" then
    let key ← ask .assignment
    expect "]"
    return (true, key)
  match ← need with
  | .number _ | .string .. =>
    match ← literal? with
    | some n => return (false, n)
    | none => return (false, .absent)
  | .symbol "#" =>
    let place ← here
    let n ← privateName
    note place .privateInInterface
    return (false, n)
  | _ =>
    let n ← anyName
    return (false, n.withKind (.ident ((n.nameText?).getD "")))

/-- Reads a call signature or a construct signature. -/
def callSignature (isConstruct : Bool) : Parse Node := do
  let start ← here
  if isConstruct then expect "new"
  let typeParams ← optionalTypeParams false true
  expect "("
  let params ← signatureParams
  let result ← if ← sees ":" then returnMark ":" else pure .absent
  endMember
  let kind : Kind := if isConstruct then .constructSignature else .callSignature
  nodeFrom start kind [params, result, typeParams]

/-- Whether a bracket begins an index signature. -/
def beginsIndexSignature : Parse Bool := do
  if !(← sees "[") then return false
  lookAhead do
    skip
    if !(← seesIdentifier) then return false
    skip
    seesAny [":", ","]

/-- Reads the parameter and the type of an index signature. -/
def indexSignatureRest : Parse (Node × Node) := do
  expect "["
  let start ← here
  let key ← anyName
  let markStart ← here
  if ← eat "," then note key.lo .indexSignatureParameters else expect ":"
  let mark ← typeMark markStart
  let param ← nodeFrom start .bindingName [key, mark]
  expect "]"
  let result ← optionalTypeMark
  endMember
  return (.group [param], result)

/-- Reads a getter or setter signature. -/
def accessorSignature (isReadonly : Bool) : Parse Node := do
  let start ← here
  if isReadonly then fail .readonlyAccessor
  let isGetter ← eat "get"
  unless isGetter do expect "set"
  let (isComputed, key) ← memberKey
  expect "("
  if isGetter then
    expect ")"
    let result ← optionalTypeMark
    endMember
    nodeFrom start (.getterSignature isComputed) [key, result]
  else
    let params ← signatureParams
    match params.children with
    | [] => fail .setterParameters
    | param :: _ =>
      endMember
      nodeFrom start (.setterSignature isComputed) [key, param]

/-- Reads a property or a method of an object type. -/
def namedSignature (start : Nat) (isReadonly : Bool) : Parse Node := do
  let (isComputed, key) ← memberKey
  let isOptional ← eat "?"
  if ← seesAny ["(", "<"] then
    if isReadonly then fail .readonlyMethod
    let typeParams ← optionalTypeParams false true
    expect "("
    let params ← signatureParams
    let result ← if ← sees ":" then returnMark ":" else pure .absent
    endMember
    nodeFrom start (.methodSignature isComputed isOptional) [key, params, result, typeParams]
  else
    let t ← optionalTypeMark
    endMember
    nodeFrom start (.propertySignature isReadonly isComputed isOptional) [key, t]

/-- Reads a member of an object type. -/
def typeMember : Parse Node := do
  if ← seesAny ["(", "<"] then return ← callSignature false
  if ← sees "new" then
    if ← lookAhead (do skip; seesAny ["(", "<"]) then return ← callSignature true
  let start ← here
  let isReadonly := (← modifier? ["readonly"] false).isSome
  if ← beginsIndexSignature then
    let (params, result) ← indexSignatureRest
    return ← nodeFrom start (.indexSignature isReadonly) [params, result]
  match ← tried (some <$> accessorSignature isReadonly) with
  | some n => return n
  | none => namedSignature start isReadonly

/-- Reads the members of an object type with their braces. -/
def typeMembers : Parse (List Node) := do
  expect "\x7b"
  let members ← collect do
    if ← sees "\x7d" then return none else return some (← typeMember)
  expect "\x7d"
  return members

/-! ### Mapped types, tuples and templates -/

/-- Whether a brace begins a mapped type. -/
def beginsMappedType : Parse Bool := lookAhead do
  skip
  if (← eat "+") || (← eat "-") then return ← sees "readonly"
  let _ ← eat "readonly"
  if !(← eat "[") then return false
  if !(← seesIdentifier) then return false
  skip
  sees "in"

/-- Reads a modifier with an optional sign before it. -/
def mappedModifier (mark : String) : Parse (Option MappedModifier) := do
  if ← eat "+" then
    expect mark
    return some .plus
  if ← eat "-" then
    expect mark
    return some .minus
  return if ← eat mark then some .plain else none

/-- Reads a mapped type. -/
def mappedType : Parse Node := do
  let start ← here
  expect "\x7b"
  let readonlyMod ← mappedModifier "readonly"
  expect "["
  let paramStart ← here
  let n ← anyName
  let bound ← requiredTypeAfter "in"
  let param ← nodeFrom paramStart (.typeParam false false false) [n, bound, .absent]
  let nameType ← if ← eat "as" then type else pure .absent
  expect "]"
  let optionalMod ← mappedModifier "?"
  let t ← typeAfter ":"
  expectEnd
  expect "\x7d"
  nodeFrom start (.mappedType readonlyMod optionalMod) [param, nameType, t]

/-- Reads the label of a tuple element with its colon. -/
def tupleLabel : Parse (Option Node) := do
  let start ← here
  let isRest ← eat "..."
  let n ← anyName
  let isOptional ← eat "?"
  let n ←
    if isOptional then pure (Node.mk (.name ((n.nameText?).getD "") true) (← spanFrom n.lo) [])
    else pure n
  expect ":"
  let label : Node := .mk .bindingName n.span [n, .absent]
  if isRest then return some (← nodeFrom start .restPattern [label, .absent]) else return some label

/-- Reads an element of a tuple type. -/
def tupleElement : Parse Node := do
  let start ← here
  let label := Node.ofOption (← tried tupleLabel)
  if ← eat "..." then
    let t ← type
    let rest ← nodeFrom start .restType [t]
    return ← nodeFrom start .tupleElement [label, rest]
  let t ← type
  if ← eat "?" then
    let optional ← nodeFrom start .optionalType [t]
    return ← nodeFrom start .tupleElement [label, optional]
  nodeFrom start .tupleElement [label, t]

/-- Whether a required element follows an optional one. -/
def requiredAfterOptional : (seenOptional : Bool) → List Node → Bool
  | _, [] => false
  | seen, e :: rest =>
    match (e.child 1).kind with
    | .restType => requiredAfterOptional seen rest
    | .optionalType => requiredAfterOptional true rest
    | _ => seen || requiredAfterOptional seen rest

/-- Reads a tuple type. -/
def tupleType : Parse Node := do
  let start ← here
  expect "["
  let elements ← delimited (sees "]") tupleElement
  expect "]"
  if requiredAfterOptional false elements then failAt start .requiredAfterOptional
  nodeFrom start .tupleType elements

/-- Reads a piece of the text of a template. -/
def templatePiece (isTagged : Bool) : Parse Node := do
  match ← need with
  | .template raw fault =>
    skip
    if let some fault := fault then
      unless isTagged do stop fault
    leaf (.quasi raw)
  | _ => unexpected "template token"

/-- Reads a template with something in its holes. -/
def templateOf (kind : Kind) (isTagged : Bool) (hole : Parse Node) : Parse Node := do
  let start ← here
  expect "\x60"
  let first ← templatePiece isTagged
  let parts ← repeatStep (fun (parts : List Node) => do
    if ← sees "\x60" then return (parts, true)
    expect "$\x7b"
    let inner ← hole
    expect "\x7d"
    let piece ← templatePiece isTagged
    return (piece :: inner :: parts, false)) (← fuel) [first]
  expect "\x60"
  nodeFrom start kind parts.reverse

/-! ### Single types -/

/-- The words that are types by themselves. -/
def keywordTypes : List String :=
  ["void", "null", "any", "boolean", "bigint", "never", "number", "object", "string", "symbol",
    "unknown", "undefined", "intrinsic"]

/-- Reads a negative number as a type. -/
def negativeLiteral : Parse Node := do
  let start ← here
  skip
  match ← need with
  | .number raw =>
    skip
    let n ← leaf (.numberLit ("-" ++ raw) (numberValue raw).isNone)
    nodeFrom start .literalType [n]
  | .bigint raw =>
    skip
    let n ← leaf (.bigintLit ("-" ++ raw))
    nodeFrom start .literalType [n]
  | _ => unexpected "numeric literal or bigint literal"

/-- Reads what the result of a method says about `this`, behind that word. -/
def thisPredicate (start : Nat) (isAsserts : Bool) (this : Node) : Parse Node := do
  let t ←
    if ← eat "is" then typeMark (← here)
    else pure .absent
  nodeFrom start (.typePredicate isAsserts) [this, t]

/-- The words with which a reference to a type may begin although they are reserved. -/
def typeWords : List String := ["void", "yield", "null", "await", "break"]

/-- Reads a type that stands for itself. -/
def singleType : Parse Node := do
  let start ← here
  match ← need with
  | .word w =>
    if w == "true" || w == "false" then
      match ← literal? with
      | some n => nodeFrom start .literalType [n]
      | none => unexpected "a literal"
    else if w == "import" then importType
    else if w == "typeof" then typeQuery
    else if w == "this" then
      skip
      let this ← leaf .thisType
      if !(← afterLineBreak) && (← sees "is") then thisPredicate start false this else return this
    else if isPlainWord w || typeWords.contains w then
      if w == "asserts" && (← peeks "this") then
        skip
        skip
        let this ← leaf .thisType
        thisPredicate start true this
      else if keywordTypes.contains w && !(← peeks ".") then
        skip
        leaf (.keywordType w)
      else typeReference
    else unexpectedType
  | .bigint _ | .string .. | .number _ =>
    match ← literal? with
    | some n => nodeFrom start .literalType [n]
    | none => unexpectedType
  | .symbol s =>
    match s with
    | "\x60" =>
      let t ← templateOf .templateType false type
      nodeFrom start .literalType [t]
    | "-" => negativeLiteral
    | "\x7b" =>
      if ← beginsMappedType then mappedType
      else
        let members ← typeMembers
        nodeFrom start .typeLiteral members
    | "[" => tupleType
    | "(" =>
      skip
      let t ← type
      expect ")"
      nodeFrom start .parenType [t]
    | _ => unexpectedType
  | _ => unexpectedType
where
  unexpectedType : Parse Node :=
    unexpected
      "an identifier, void, yield, null, await, break, a string literal, a numeric literal, true, false, \x60, -, import, this, typeof, \x7b, [, ("

/-! ### Composed types -/

/-- Reads a type with array marks and indices behind it. -/
def arrayOrHigher : Parse Node := do
  let first ← singleType
  repeatStep (fun (t : Node) => do
    if (← afterLineBreak) || !(← eat "[") then return (t, true)
    if ← eat "]" then return (← nodeFrom t.lo .arrayType [t], false)
    let index ← type
    expect "]"
    return (← nodeFrom t.lo .indexedAccess [t, index], false)) (← fuel) first

/-- Reads a type parameter that a conditional type infers. -/
def inferType : Parse Node := do
  let start ← here
  skip
  let n ← anyName
  let bound ← tried do
    expect "extends"
    let bound ← ask .nonConditionalType
    if (← mode).noConditionalType || !(← sees "?") then return some bound else return none
  let param : Node := .mk (.typeParam false false false) n.span [n, .ofOption bound, .absent]
  nodeFrom start .inferType [param]

/-- Reads a type with operators before it. -/
def typeOperator : Parse Node := do
  let start ← here
  match ← current? with
  | some ⟨.word w, _, _, _, _⟩ =>
    if w == "keyof" || w == "unique" || w == "readonly" then
      skip
      let t ← ask .typeOperator
      nodeFrom start (.typeOperator w) [t]
    else if w == "infer" then inferType
    else arrayOrHigher
  | _ => arrayOrHigher

/-- Reads types with an operator between them. The operator may also stand before the first. -/
def joinedTypes (operator : String) (kind : Kind) (part : Parse Node) : Parse Node := do
  let start ← here
  let _ ← eat operator
  let first ← part
  if ← sees operator then
    let more ← collect do
      if ← eat operator then return some (← part) else return none
    nodeFrom start kind (first :: more)
  else return first

/-- Reads a type that is no conditional type. -/
def nonConditionalType : Parse Node := do
  if ← beginsFunctionType then functionType false
  else if ((← sees "abstract") && (← peeks "new")) || (← sees "new") then functionType true
  else joinedTypes "|" .unionType (joinedTypes "&" .intersectionType typeOperator)

/-- Reads a type of any form. -/
def anyType : Parse Node := withMode (fun m => { m with noConditionalType := false }) do
  let start ← here
  let checked ← nonConditionalType
  if ← afterLineBreak then return checked
  if !(← eat "extends") then return checked
  let bound ← withMode (fun m => { m with noConditionalType := true }) nonConditionalType
  expect "?"
  let yes ← type
  expect ":"
  let no ← type
  nodeFrom start .conditionalType [checked, bound, yes, no]

/-- Reads a type assertion in angle brackets, behind the first of them. -/
def angleAssertion (start : Nat) : Parse Node := do
  if (← read).dialect.refuseAngles then note start .reservedTypeAssertion
  let t ← inType type
  expect ">"
  let e ← ask .unary
  nodeFrom start .typeAssertion [e, t]

end PageRoutes.Syntax.Parse
