import PageRoutes.Syntax.Parser.Functions
/-!
# Reading classes

A class with what it extends and implements, and its members. Most words that can stand before the
name of a member can also be its name, so each is read as a modifier only if a member follows.
-/

namespace PageRoutes.Syntax.Parse

/-! ### What a class builds on -/

/-- Reads the type arguments of an expression that names a class, unless it has taken them already.
-/
def withTypeArgs (e : Node) : Parse (Node × Node) := do
  match e.kind, e.children with
  | .instantiation, [inner, args] => return (inner, args)
  | _, _ =>
    let args ← if ← sees "<" then typeArgs else pure .absent
    return (e, args)

/-- Reads the name of an interface or class with its type arguments. -/
def heritageElement : Parse Node := do
  let start ← here
  let first ← anyName
  let w := (first.nameText?).getD ""
  let e ← ask (.subscripts (first.withKind (.ident w)) true true)
  match e.kind with
  | .ident _ | .member | .instantiation => pure ()
  | _ => note start .interfaceBase
  let (e, args) ← withTypeArgs e
  nodeFrom start .heritage [e, args]

/-- Reads names between commas up to the next clause or the body. -/
def heritage : Parse (List Node) := delimited (seesAny ["\x7b", "implements", "extends"]) heritageElement

/-- Reads the expression behind `extends`, with its type arguments. -/
def baseClass : Parse (Node × Node) := do withTypeArgs (← ask .leftHandSide)

/-- Reads what a class extends and implements. -/
def heritageClauses : Parse (Node × Node × List Node) := do
  let (base, args) ←
    if ← eat "extends" then do
      let found ← baseClass
      if ← eat "," then
        for e in ← heritage do note e.lo .singleBaseClass
      pure found
    else pure (.absent, .absent)
  if ← eat "extends" then
    note (← lastSpan).lo .extendsTwice
    let _ ← baseClass
  let interfaces ← if ← eat "implements" then heritage else pure []
  if ← eat "implements" then
    note (← lastSpan).lo .implementsTwice
    let _ ← heritage
  if ← eat "extends" then
    note (← lastSpan).lo .extendsAfterImplements
    let _ ← baseClass
  return (base, args, interfaces)

/-! ### Members -/

/-- What stands before the name of a member. -/
structure MemberHead where
  start : Nat
  decorators : List Node
  modifiers : Modifiers := {}
  staticPlace : Option Nat := none
  declarePlace : Option Nat := none
  /-- The place of the last modifier that belongs to members only. -/
  modifierAt : Option Nat := none

/-- Reads the name of a member, which may be private. -/
def memberKeyName : Parse Node := do
  if ← sees "#" then
    let key ← privateName
    if (key.child 0).nameText? == some "constructor" then note key.lo .privateConstructor
    return key
  else propertyName

/-- Whether a name is that of the constructor. -/
def isConstructorKey (key : Node) : Bool :=
  match key.kind with
  | .name w _ => w == "constructor"
  | .stringLit value _ => value == "constructor"
  | _ => false

/-- Whether a name is private. -/
def isPrivateKey (key : Node) : Bool :=
  match key.kind with
  | .privateName => true
  | _ => false

/-- Whether a method follows a name. -/
def seesMethod : Parse Bool := seesAny ["(", "<"]

/-- Whether a field ends or goes on behind its name. The flag says whether the end of a line counts.
-/
def seesField (lineEndCounts : Bool) : Parse Bool := do
  if ← seesAny ["!", ":", "=", "\x7d"] then return true
  if lineEndCounts then seesEnd else sees ";"

/-- Reads a method behind its name. -/
def method (head : MemberHead) (key : Node) (role : MethodKind) (form : FunctionForm)
    (readParams : Parse (List Node)) : Parse Node := do
  let f ← functionRest head.start head.decorators form readParams
  let m := head.modifiers
  if isPrivateKey key then
    if m.accessibility.isSome then note head.start .privateAccessibility
  else if m.isAbstract && !(f.child 2).isAbsent then note head.start .abstractBody
  nodeFrom head.start (.classMethod role m) [key, f]

/-- Reads a field behind its name. -/
def field (head : MemberHead) (key : Node) : Parse Node := do
  let m := head.modifiers
  if isConstructorKey key then failAt key.lo .fieldNamedConstructor
  if isPrivateKey key then
    if m.isDeclare then note key.lo (.privateModifier "declare")
    if m.isAbstract then note key.lo (.privateModifier "abstract")
  let isDefinite ← if m.isOptional then pure false else eat "!"
  let t ← optionalTypeMark
  withMode (fun mode => { mode with allowIn := true, inClassField := true }) do
    let value ← if ← eat "=" then ask .assignment else pure .absent
    unless ← eatEnd do note (← here) .expectedSemicolon
    if isPrivateKey key then
      if m.accessibility.isSome && !m.isAccessor then note head.start .privateAccessibility
    else if m.isAbstract && !value.isAbsent && !m.isAccessor then
      note head.start .abstractInitializer
    nodeFrom head.start (.classField { m with isDefinite }) [key, value, t, .group head.decorators]

/-- Reads a member whose name is a word that could have been a modifier, behind that word, if it is
one. -/
def wordMember? (head : MemberHead) (word : String) (lineEndCounts : Bool) :
    Parse (Option Node) := do
  let key ← leaf (.name word false)
  if ← seesMethod then return some (← method head key .method {} formalParams)
  if (← seesField lineEndCounts) || (← sees "?") then
    let isOptional ← eat "?"
    return some (← field { head with modifiers := { head.modifiers with isOptional } } key)
  return none

/-- Reads the block of a static initializer. -/
def staticBlock (start : Nat) : Parse Node := do
  let body ← withMode (fun m => { m with inStaticBlock := true, inClassField := true })
    (ask .block)
  nodeFrom start .staticBlock [body]

/-- Takes a modifier that belongs to members only. -/
def takeMemberModifier (head : MemberHead) (word : String) : Parse MemberHead := do
  let place := (← lastSpan).lo
  let m := head.modifiers
  match word with
  | "abstract" =>
    if m.isAbstract then note place (.modifierTwice word)
    else if m.isOverride then note place (.modifierOrder word "override")
    return { head with modifiers := { m with isAbstract := true }, modifierAt := some place }
  | "override" =>
    if m.isOverride then note place (.modifierTwice word)
    else if m.isReadonly then note place (.modifierOrder word "readonly")
    else if m.isDeclare then note place (.modifierConflict word "declare")
    else if !(← mode).hasBase then note place .overrideWithoutBase
    return { head with modifiers := { m with isOverride := true }, modifierAt := some place }
  | "readonly" =>
    if m.isReadonly then note place (.modifierTwice word)
    return { head with modifiers := { m with isReadonly := true }, modifierAt := some place }
  | _ =>
    if m.isOverride then note place (.modifierOrder "static" "override")
    let kept : Modifiers := { m with
      isStatic := true, isAbstract := false, isOverride := false, isReadonly := false }
    return { head with modifiers := kept, staticPlace := some place, modifierAt := none }

/-- Reads the modifiers that belong to members only. -/
def memberModifiers (head : MemberHead) : Parse MemberHead := do
  repeatStep (fun (head : MemberHead) => do
    match ← modifier? ["abstract", "readonly", "override", "static"] true with
    | some word => return (← takeMemberModifier head word, false)
    | none => return (head, true)) (← fuel) head

/-- Notes the type parameters of a constructor. -/
def refuseConstructorTypeParams : Parse Unit := do
  if ← sees "<" then
    let start ← here
    if ← peeks ">" then
      skip
      skip
      note start .emptyTypeParameters
      note start .constructorTypeParameters
    else
      for p in (← typeParams false true).children do note p.lo .constructorTypeParameters

/-- Reads a constructor behind its name. -/
def constructorRest (head : MemberHead) (key : Node) : Parse Node := do
  let m := head.modifiers
  if m.isOptional then note head.start .optionalMember
  if m.isOverride then note head.start (.constructorModifier "override")
  if let some place := head.staticPlace then note place (.constructorModifier "static")
  refuseConstructorTypeParams
  expect "("
  let params ← inParams constructorParams
  expect ")"
  if ← sees ":" then
    let t ← optionalTypeMark
    note t.lo .constructorResult
  let body ← functionBody {} params
  if body.isAbsent then
    for p in params do
      match p.kind with
      | .paramProperty _ => note p.lo .parameterPropertyPlacement
      | _ => pure ()
    refuseInitializers params
  nodeFrom head.start (.classConstructor m) [key, .group params, body]

/-- Reads a getter or setter behind its first word; `role` is that word, which stands at a place. -/
def accessor (head : MemberHead) (role : String) (place : Nat) : Parse Node := do
  let key ← memberKeyName
  if head.modifiers.isReadonly then note place .readonlyAccessor
  if isConstructorKey key then note place .constructorAccessor
  if role == "get" then method head key .getter {} (getterParams place)
  else method head key .setter {} (setterParams place)

/-- Reads an asynchronous method behind its first word. -/
def asyncMethod (head : MemberHead) : Parse Node := do
  let isLate := (← modifier? ["override"] false).isSome
  if isLate then note (← lastSpan).lo (.modifierOrder "override" "async")
  let isGenerator ← eat "*"
  let key ← memberKeyName
  if isConstructorKey key then note key.lo .constructorAsync
  let m := head.modifiers
  if m.isReadonly then note head.start .readonlyMethod
  let isOptional ← if m.isOptional then pure true else eat "?"
  let head := { head with modifiers := { m with isOptional, isOverride := m.isOverride || isLate } }
  method head key .method { isAsync := true, isGenerator } formalParams

/-- Reads a member from its name on. -/
def namedMember (head : MemberHead) : Parse Node := do
  let key ← memberKeyName
  let isOptional ← eat "?"
  let head := { head with modifiers := { head.modifiers with isOptional } }
  if ← seesMethod then
    if head.modifiers.isReadonly then failAt head.start .readonlyMethod
    if isConstructorKey key then return ← constructorRest head key
    return ← method head key .method {} formalParams
  let word :=
    match key.kind with
    | .name w _ => w
    | _ => ""
  let isAccessor := (word == "get" || word == "set") && !(← seesField false)
    && !((← afterLineBreak) && (← sees "*"))
  if !isAccessor && (← seesField true) then return ← field head key
  if word == "async" && !(← afterLineBreak) then return ← asyncMethod head
  if isAccessor then return ← accessor head word key.lo
  unexpected "* for generator, private key, identifier or async"

/-- Reads a member behind the modifiers that other things can have too. -/
def memberRest (head : MemberHead) : Parse Node := do
  let head ← memberModifiers head
  let m := head.modifiers
  if m.isStatic && (← sees "\x7b") then
    if let some place := head.declarePlace then note place .modifierPlacement
    if m.accessibility.isSome then note (← here) .modifierPlacement
    return ← staticBlock head.start
  if (← sees "static") && (← peeks "\x7b") then
    if let some place := head.modifierAt then note place .modifierPlacement
    if let some place := head.staticPlace then note place .modifierPlacement
    skip
    return ← staticBlock head.start
  if !m.isAbstract && !m.isOverride && m.accessibility.isNone then
    if ← beginsIndexSignature then
      let (params, t) ← indexSignatureRest
      return ← nodeFrom head.start (.classIndex m) [params, t]
  if ← eat "*" then
    let key ← memberKeyName
    if m.isReadonly then note key.lo .readonlyMethod
    if isConstructorKey key then note key.lo .constructorGenerator
    return ← method head key .method { isGenerator := true } formalParams
  namedMember head

/-- Reads a member of a class. -/
def member : Parse Node := do
  let start ← here
  let ds ← decorators
  let isDeclare ← eat "declare"
  let accessibility ← accessModifier
  let isDeclare ← if isDeclare then pure true else eat "declare"
  let head : MemberHead := { start, decorators := ds, modifiers := { accessibility } }
  if isDeclare then
    if let some n ← wordMember? head "declare" true then return n
  let last ← lastSpan
  let declarePlace := if isDeclare then some last.lo else none
  let head := { head with declarePlace, modifiers := { head.modifiers with isDeclare } }
  let isStatic ← eat "static"
  let last ← lastSpan
  let staticPlace := if isStatic then some last.lo else none
  let isAccessor ← eat "accessor"
  if isStatic && !isAccessor then
    if let some n ← wordMember? head "static" false then return n
  let head := { head with staticPlace, modifiers := { head.modifiers with isStatic } }
  if isAccessor then
    if let some n ← wordMember? head "accessor" true then return n
  memberRest { head with modifiers := { head.modifiers with isAccessor } }

/-- Whether a member is a constructor with a body. -/
def isConstructorWithBody (n : Node) : Bool :=
  match n.kind with
  | .classConstructor _ => !(n.child 2).isAbsent
  | _ => false

/-- Reads the members of a class. -/
def members : Parse (List Node) := do
  let nodes ← repeatStep (fun (nodes : List Node) => do
    if (← atEnd) || (← sees "\x7d") then return (nodes, true)
    if ← eat ";" then return ((← leaf .emptyMember) :: nodes, false)
    let n ← member
    if isConstructorWithBody n && nodes.any isConstructorWithBody && !(← mode).inDeclare then
      note n.lo .duplicateConstructor
    return (n :: nodes, false)) (← fuel) []
  return nodes.reverse

/-! ### Whole classes -/

/-- The names of types that no class can have. -/
def typeNames : List String :=
  ["string", "null", "number", "object", "any", "unknown", "boolean", "bigint", "symbol", "void",
    "never", "intrinsic"]

/-- Whether a member is abstract. -/
def isAbstractMember (n : Node) : Bool :=
  match n.kind with
  | .classMethod _ m | .classField m =>
    m.isAbstract && !m.isAccessor && !isPrivateKey (n.child 0)
  | _ => false

/-- Reads a class from its keyword on, with its name if it has one. -/
def classParts (start : Nat) (decorators : List Node) (isAbstract isNamed : Bool) :
    Parse (Node × Node) := do
  let (n, c) ← withMode (fun m => { m with inClass := true }) do
    expect "class"
    let n ← if isNamed then bindingWord else optionalBindingWord
    if typeNames.contains ((n.nameText?).getD "") then note n.lo .className
    let typeParams ← optionalTypeParams true true
    let (base, args, interfaces) ← heritageClauses
    expect "\x7b"
    let body ← withMode (fun m => { m with hasBase := !base.isAbsent }) members
    if ← atEnd then note (← here) (.expected "\x7d" "<eof>") else expect "\x7d"
    let c ← nodeFrom start (.classBody isAbstract)
      [.group decorators, .group body, base, typeParams, args, .group interfaces]
    return (n, c)
  unless isAbstract do
    for m in (c.child 1).children do
      if isAbstractMember m then note m.lo .abstractOutside
  return (n, c)

/-- Reads a class expression. -/
def classExpr (start : Nat) (decorators : List Node) : Parse Node := do
  let (n, c) ← classParts start decorators false false
  nodeFrom start .classExpr [n, c]

/-- Reads a class declaration. -/
def classDecl (start : Nat) (decorators : List Node) (isAbstract : Bool) : Parse Node := do
  let (n, c) ← classParts start decorators isAbstract true
  nodeFrom start (.classDecl false) [n, c]

end PageRoutes.Syntax.Parse
