import PageRoutes.Syntax.Parser.Operators
/-!
# Reading declarations

Variables, and what declares types: enumerations, interfaces, aliases, and modules inside a file.
The words that begin such a declaration are names everywhere else.
-/

namespace PageRoutes.Syntax.Parse

/-! ### Variables -/

/-- Whether a node is just a name. -/
def isBindingName (n : Node) : Bool :=
  match n.kind with
  | .bindingName => true
  | _ => false

/-- Reads the initializer of a variable, which may be missing. -/
def initializer (start : Nat) (pattern : Node) (isConst inLoop : Bool) : Parse Node := do
  if inLoop && (← seesAny ["in", "of"]) then return .absent
  if ← eat "=" then return ← ask .assignment
  if (← mode).inDeclare then return .absent
  if isConst then note start .constWithoutInitializer
  else unless isBindingName pattern do failAt start .patternWithoutInitializer
  return .absent

/-- Reads a variable with its type and its initializer. -/
def declarator (isConst inLoop : Bool) : Parse Node := do
  let start ← here
  let pattern ← bindingPattern
  if isBindingName pattern then
    let _ ← eat "!"
  let t ← optionalTypeMark
  let pattern := if t.isAbsent then pattern else pattern.withType t
  let value ← initializer start pattern isConst inLoop
  nodeFrom start .declarator [pattern, value]

/-- Reads variables between commas. -/
def declarators (one : Parse Node) : Parse (List Node) := do
  let nodes ← repeatStep (fun (nodes : List Node) => do
    if (← sees ";") || (← atEnd) then
      note (← lastSpan).lo .trailingComma
      return (nodes, true)
    let nodes := (← one) :: nodes
    return (nodes, !(← eat ","))) (← fuel) []
  return nodes.reverse

/-- Whether the head of a loop goes on without any variable. -/
def seesEmptyLoopHead : Parse Bool := do
  if !(← seesAny ["in", "of"]) then return false
  lookAhead do
    try
      skip
      let _ ← ask .assignment
      expect ")"
      return true
    catch _ => return false

/-- Passes over what cannot end a declaration, up to where a statement may end. -/
def skipToEnd : Parse Unit :=
  do repeatStep (fun (_ : Unit) => do
    if ← eatEnd then return ((), true)
    skip
    match ← current? with
    | some ⟨.faulty _, _, _, _, _⟩ => return ((), true)
    | _ => return ((), false)) (← fuel) ()

/-- The keyword of a variable declaration that a word stands for. -/
def varKeyword? : Token → Option VarKeyword
  | .word "var" => some .var
  | .word "let" => some .let_
  | .word "const" => some .const
  | _ => none

/-- Reads a declaration of variables from its keyword on. -/
def varDecl (keyword : VarKeyword) (inLoop : Bool) : Parse Node := do
  let start ← here
  skip
  if inLoop then
    if ← seesEmptyLoopHead then
      note (← lastPlace) .emptyDeclarationList
      return ← nodeFrom start (.varDecl keyword false) []
  let one := declarator (keyword = .const) inLoop
  let nodes ← declarators (if keyword = .var && inLoop then one else allowingIn one)
  unless inLoop do
    unless ← eatEnd do
      note (← here) .expectedSemicolon
      try
        let _ ← ask .expression
      catch _ => pure ()
      skipToEnd
  nodeFrom start (.varDecl keyword false) nodes

/-- Reads a declaration of variables whose values are disposed of at the end of their block, from
the word `using` on, if it is one. -/
def usingDecl? (start : Nat) (isAwait : Bool) : Parse (Option Node) := do
  let _ ← look
  if !(← sees "using") || (← lineBreakInside) || !(← peeksIdentifier) then return none
  skip
  let nodes ← declarators (declarator false false)
  for n in nodes do
    unless isBindingName (n.child 0) do note start .usingName
    if (n.child 1).isAbsent then note start .usingInitializer
  unless ← eatEnd do note (← here) .expectedSemicolon
  return some (← nodeFrom start (.usingDecl isAwait) nodes)

/-! ### Enumerations -/

/-- Reads the name of a member of an enumeration. -/
def enumKey : Parse Node := do
  let start ← here
  match ← need with
  | .string value raw =>
    skip
    leaf (.stringLit value raw)
  | .number raw =>
    skip
    note start .numericEnumMember
    leaf (.stringLit raw ("\x22" ++ raw ++ "\x22"))
  | .symbol "[" =>
    skip
    let _ ← ask .expression
    note start .computedEnumMember
    expect "]"
    nodeFrom start (.name "" false) []
  | _ => anyName

/-- Puts a comma in place of the next token. -/
def replaceByComma : Parse Unit := do
  skip
  let last ← lastSpan
  modify fun s =>
    { s with current := some ⟨.symbol ",", last.lo, last.hi, false, s.lexer.rest⟩ }

/-- Reads a member of an enumeration. -/
def enumMember : Parse Node := do
  let start ← here
  let key ← enumKey
  let value ←
    if ← eat "=" then ask .assignment
    else do
      unless ← seesAny [",", "\x7d"] do
        let place ← here
        replaceByComma
        note place .expectedSemicolon
      pure .absent
  nodeFrom start .enumMember [key, value]

/-- Reads an enumeration behind its keyword. -/
def enumDecl (start : Nat) (isConst : Bool) : Parse Node := do
  let n ← anyName
  expect "\x7b"
  let nodes ← delimited (sees "\x7d") enumMember
  expect "\x7d"
  nodeFrom start (.enumDecl false isConst) [n, .group nodes]

/-! ### Interfaces and aliases -/

/-- Passes over what stands between the name of an interface and its body. -/
def skipToBody : Parse Unit :=
  do repeatStep (fun (_ : Unit) => do
    if (← atEnd) || (← sees "\x7b") then return ((), true)
    skip
    return ((), false)) (← fuel) ()

/-- Reads an interface behind its keyword. -/
def interfaceDecl (start : Nat) : Parse Node := do
  let n ← anyName
  if typeNames.contains ((n.nameText?).getD "") then note n.lo .interfaceName
  let params ← optionalTypeParams true false
  let bases ← if ← eat "extends" then heritage else pure []
  if ← sees "extends" then
    note (← here) .extendsTwice
    skipToBody
  let bodyStart ← here
  let nodes ← inType typeMembers
  let body ← nodeFrom bodyStart .interfaceBody nodes
  nodeFrom start (.interfaceDecl false) [n, params, .group bases, body]

/-- Reads a type alias behind its keyword. -/
def typeAlias (start : Nat) : Parse Node := do
  let n ← anyName
  let params ← optionalTypeParams true false
  let t ← requiredTypeAfter "="
  expectEnd
  nodeFrom start (.typeAlias false) [n, params, t]

/-! ### Modules inside a file -/

/-- Reads statements or items up to the closing brace of their block. -/
def blockItems (isModule : Bool) : Parse (List Node) := do
  let nodes ← repeatStep (fun (nodes : List Node) => do
    if ← atEnd then
      note (← here) (.expected "\x7d" "<eof>")
      return (nodes, true)
    if ← eat "\x7d" then return (nodes, true)
    return ((← ask (.listItem isModule)) :: nodes, false)) (← fuel) []
  return nodes.reverse

/-- Reads a block. -/
def block : Parse Node := do
  let start ← here
  expect "\x7b"
  let nodes ← blockItems false
  nodeFrom start .block nodes

/-- Reads the body of a module inside a file. -/
def moduleBlock : Parse Node := do
  let start ← here
  expect "\x7b"
  let nodes ← blockItems true
  nodeFrom start .moduleBlock nodes

/-- Reads a module with a name behind its keyword. A name with dots stands for nested modules. -/
def namespaceDecl (start : Nat) : Parse Node := do
  let n ← anyName
  let body ←
    if ← eat "." then
      let inner ← ask (.namespaceDecl (← here))
      pure (inner.withKind .nestedModule)
    else moduleBlock
  nodeFrom start (.moduleDecl false false) [n, body]

/-- Reads what is declared about a module outside of this file, or about the global scope. -/
def ambientModule (start : Nat) : Parse Node := do
  let isGlobal ← sees "global"
  let n ← if isGlobal then anyName else stringLiteral "global or a string literal"
  let body ←
    if ← sees "\x7b" then moduleBlock
    else do
      expectEnd
      pure .absent
  nodeFrom start (.moduleDecl false isGlobal) [n, body]

/-! ### Declarations by their first word -/

/-- Whether the next token is a string. -/
def seesString : Parse Bool := do
  match ← current? with
  | some ⟨.string .., _, _, _, _⟩ => return true
  | _ => return false

/-- Reads a declaration that begins with a word, if it does. With `isAhead` the word comes next and
a declaration must follow it; otherwise the word has been read already. -/
def wordDecl? (start : Nat) (decorators : List Node) (word : String) (isAhead : Bool) :
    Parse (Option Node) := do
  let pass : Parse Unit := if isAhead then skip else pure ()
  let named ← if isAhead then pure true else seesIdentifier
  let afterBreak ← afterLineBreak
  let onLine := isAhead || !afterBreak
  match word with
  | "abstract" =>
    if isAhead || (onLine && (← sees "class")) then
      pass
      return some (← classDecl start decorators true)
    return none
  | "enum" =>
    if !named then return none
    pass
    return some (← enumDecl start false)
  | "interface" =>
    if !named then return none
    pass
    return some (← interfaceDecl start)
  | "module" =>
    if afterBreak then return none
    pass
    if ← seesString then return some (← ambientModule start)
    if !named then return none
    return some (← namespaceDecl start)
  | "namespace" =>
    if !named then return none
    pass
    return some (← namespaceDecl start)
  | "type" =>
    if !named || !onLine then return none
    pass
    return some (← typeAlias start)
  | _ => return none

/-- A declaration that only says that something exists elsewhere. -/
def asDeclared (n : Node) : Node :=
  match n.kind with
  | .classDecl _ => n.withKind (.classDecl true)
  | .fnDecl _ => n.withKind (.fnDecl true)
  | .varDecl keyword _ => n.withKind (.varDecl keyword true)
  | .enumDecl _ isConst => n.withKind (.enumDecl true isConst)
  | .interfaceDecl _ => n.withKind (.interfaceDecl true)
  | .typeAlias _ => n.withKind (.typeAlias true)
  | .moduleDecl _ isGlobal => n.withKind (.moduleDecl true isGlobal)
  | _ => n

/-- A declaration that begins at a place before it. -/
def startingAt (start : Nat) (n : Node) : Node := n.withSpan ⟨start, n.hi⟩

/-- Reads a declaration behind the word `declare`, if there is one. -/
def declared? (start : Nat) (decorators : List Node) : Parse (Option Node) := do
  if (← mode).inDeclare then note start .ambientTwice
  withMode (fun m => { m with inDeclare := true }) do
    if ← sees "function" then
      let n ← functionDecl (← here) decorators false
      return some (startingAt start (asDeclared n))
    if ← sees "class" then
      return some (asDeclared (← classDecl start decorators false))
    if (← sees "const") && (← peeks "enum") then
      skip
      let _ ← need
      skip
      return some (asDeclared (← enumDecl start true))
    if let some keyword := (← current?).bind fun x => varKeyword? x.token then
      let n ← varDecl keyword false
      return some (startingAt start (asDeclared n))
    if ← sees "global" then return some (asDeclared (← ambientModule start))
    match ← current? with
    | some ⟨.word w, _, _, _, _⟩ =>
      return (← wordDecl? start decorators w true).map asDeclared
    | _ => return none

/-- Reads a declaration whose first word has been read as a name, if it is one. -/
def declAfterWord? (n : Node) (decorators : List Node) : Parse (Option Node) := do
  match n.identName? with
  | some "declare" => declared? n.lo decorators
  | some "global" =>
    if !(← sees "\x7b") then return none
    let body ← moduleBlock
    return some (← nodeFrom n.lo (.moduleDecl false true) [n.withKind (.name "global" false), body])
  | some w => wordDecl? n.lo decorators w false
  | none => return none

end PageRoutes.Syntax.Parse
