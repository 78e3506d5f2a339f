import PageRoutes.Syntax.Parser.Statements
/-!
# Reading imports and exports

The items of a module that connect it with others. The word `type` marks an import or export of a
type but can also be the name of what is imported, so it is read as a mark only where a name follows
it.
-/

namespace PageRoutes.Syntax.Parse

/-! ### Names in braces -/

/-- What stands in braces: a name, the name that it is given, and whether it is only a type. -/
structure Specifier where
  name : Node
  newName : Node := .absent
  isType : Bool := false

/-- Reads the rest of a name in braces behind `type as`, where each of the two words can be a name.
`readNewName` reads the name that is given. -/
def afterTypeAs (typeWord asWord : Node) (readNewName : Parse Node) : Parse Specifier := do
  if !(← seesWord) then return { name := asWord, isType := true }
  let second ← anyName
  if second.nameText? == some "as" && (← seesWord) then
    return { name := asWord, newName := ← readNewName, isType := true }
  return { name := typeWord, newName := second }

/-- Reads the rest of a name in braces, behind its first word. -/
def specifierRest (isTypeList : Bool) (fault : Cause) (first : Node) (readNewName : Parse Node) :
    Parse Specifier := do
  let plain (name : Node) (isType : Bool) : Parse Specifier := do
    let newName ← if ← eat "as" then readNewName else pure .absent
    return { name, newName, isType }
  if first.nameText? != some "type" || !(← seesWord) then return ← plain first false
  let next ← anyName
  if next.nameText? != some "as" then
    if isTypeList then note first.lo fault
    return ← plain next true
  let s ← afterTypeAs first next readNewName
  if s.isType && isTypeList then note first.lo fault
  return s

/-- Reads names in braces. -/
def specifiers (one : Parse Node) : Parse (List Node) := do
  expect "\x7b"
  let nodes ← repeatStep (fun (nodes : List Node) => do
    if (← atEnd) || (← sees "\x7d") then return (nodes, true)
    let n ← one
    if ← sees "\x7d" then return (n :: nodes, true)
    expect ","
    return (n :: nodes, false)) (← fuel) []
  expect "\x7d"
  return nodes.reverse

/-! ### Sources -/

/-- Reads what is said about a source behind it, as an object. -/
def attributes : Parse Node := do
  let _ ← look
  if ← afterLineBreak then return .absent
  if (← eat "assert") || (← eat "with") then objectLiteral else return .absent

/-- Reads a source with its attributes, to the end of the item. -/
def sourceRest : Parse (Node × Node) := do
  let source ← stringLiteral "a string literal"
  let attrs ← attributes
  expectEnd
  return (source, attrs)

/-- Reads the reference of an import with an equals sign. -/
def importEquals (start : Nat) (isExport isType : Bool) : Parse Node := do
  let n ← anyName
  expect "="
  let reference ←
    if (← sees "require") && (← peeks "(") then
      let place ← here
      skip
      skip
      let source ← stringLiteral "a string literal"
      expect ")"
      nodeFrom place .requireCall [source]
    else entityName false
  expectEnd
  nodeFrom start (.importEquals isExport isType) [n, reference]

/-! ### Imports -/

/-- Reads the local name of an import. -/
def importedName : Parse Node :=
  withMode (fun m => { m with inAsync := false, inGenerator := false }) bindingWord

/-- Reads a name in the braces of an import. -/
def importSpecifier (isTypeList : Bool) : Parse Node := do
  let start ← here
  let first ← exportName
  match first.kind with
  | .stringLit value _ =>
    unless ← eat "as" do failAt first.lo (.importNameString value)
    let n ← bindingWord
    nodeFrom start (.importNamed false) [first, n]
  | _ =>
    let s ← specifierRest isTypeList .typeOnImportAndName first bindingWord
    if s.newName.isAbsent then
      if isReservedName ((s.name.nameText?).getD "") then failAt s.name.lo .reservedImportName
      nodeFrom start (.importNamed s.isType) [.absent, s.name]
    else nodeFrom start (.importNamed s.isType) [s.name, s.newName]

/-- Reads the default name of an import, if there is one. -/
def defaultSpecifier : Parse (List Node) := do
  if !(← seesIdentifier) then return []
  let n ← importedName
  unless ← sees "from" do expect ","
  return [.mk .importDefault n.span [n]]

/-- Reads all names of an import, or names in braces, if there are any. -/
def listedSpecifiers (isType : Bool) : Parse (List Node) := do
  let start ← here
  if ← eat "*" then
    expect "as"
    let n ← importedName
    return [← nodeFrom start .importNamespace [n]]
  if ← sees "\x7b" then specifiers (importSpecifier isType) else return []

/-- Reads an import declaration. -/
def importDecl : Parse Node := do
  let start ← here
  expect "import"
  let _ ← look
  if ← seesString then
    let (source, attrs) ← sourceRest
    return ← nodeFrom start (.importDecl false) [.group [], source, attrs]
  let isType ←
    if ← sees "type" then
      if ← peeks "\x7b" then pure true
      else pure (!(← peeks "from") && !(← peeks ","))
    else pure false
  if isType then skip
  if (← seesIdentifier) && (← peeks "=") then return ← importEquals start false isType
  let default ← defaultSpecifier
  let listed ← listedSpecifiers isType
  expect "from"
  let (source, attrs) ← sourceRest
  nodeFrom start (.importDecl isType) [.group (default ++ listed), source, attrs]

/-! ### Exports -/

/-- Reads a name in the braces of an export. -/
def exportSpecifier (isTypeList : Bool) : Parse Node := do
  let start ← here
  let first ← exportName
  let s ←
    match first.kind with
    | .stringLit .. => do
      let newName ← if ← eat "as" then exportName else pure .absent
      pure { name := first, newName : Specifier }
    | _ => specifierRest isTypeList .typeOnExportAndName first exportName
  nodeFrom start (.exportSpecifier s.isType) [s.name, s.newName]

/-- Notes names that cannot be exported without a source. -/
def checkLocalExports (nodes : List Node) : Parse Unit :=
  nodes.forM fun (n : Node) => do
    let exported := n.child 0
    match exported.kind with
    | .stringLit .. => note exported.lo .exportNameString
    | .name w _ => if isReservedName w then note exported.lo (.exportExpectsFrom w)
    | _ => pure ()

/-- Reads an export of names, with or without a source. -/
def namedExport (start : Nat) (isType : Bool) : Parse Node := do
  let nodes ← specifiers (exportSpecifier isType)
  if ← eat "from" then
    let (source, attrs) ← sourceRest
    nodeFrom start (.exportNamed isType) [.group nodes, source, attrs]
  else
    checkLocalExports nodes
    let _ ← eatEnd
    nodeFrom start (.exportNamed isType) [.group nodes, .absent, .absent]

/-- Reads an export of all that another module exports. -/
def starExport (start nameStart : Nat) (isType : Bool) : Parse Node := do
  skip
  if ← eat "as" then
    let n ← exportName
    let n ← nodeFrom nameStart .exportNamespace [n]
    expect "from"
    let (source, attrs) ← sourceRest
    nodeFrom start (.exportNamed isType) [.group [n], source, attrs]
  else
    expect "from"
    let (source, attrs) ← sourceRest
    nodeFrom start (.exportAll isType) [source, attrs]

/-- Reads decorators that stand behind other words of an export. -/
def lateDecorators (earlier : List Node) : Parse (List Node) := do
  if !(← sees "@") then return earlier
  let place ← here
  let ds ← decorators
  unless earlier.isEmpty do failAt place .decoratorsBothSides
  return ds

/-- Reads a class that is exported as the default, whose name may be missing. -/
def defaultClass (start : Nat) (decorators : List Node) (isAbstract : Bool) : Parse Node := do
  let place ← here
  if isAbstract then
    skip
    let _ ← need
  let (n, c) ← classParts place decorators isAbstract false
  let decl ← nodeFrom place .classExpr [n, c]
  nodeFrom start .exportDefaultDecl [decl]

/-- Reads a function that is exported as the default, whose name may be missing. -/
def defaultFunction (start : Nat) (decorators : List Node) (isAsync : Bool) : Parse Node := do
  let place ← here
  if isAsync then skip
  let (n, f) ← functionParts place decorators isAsync false false
  let decl ← nodeFrom place .fnExpr [n, f]
  nodeFrom start .exportDefaultDecl [decl]

/-- Whether two words come next on one line. -/
def seesPair (first second : String) : Parse Bool := do
  return (← sees first) && (← peeks second) && !(← lineBreakInside)

/-- Reads what is exported as the default. -/
def defaultExport (start : Nat) (decorators : List Node) : Parse Node := do
  let ds ← lateDecorators decorators
  if ← seesPair "abstract" "class" then return ← defaultClass start ds true
  if ← sees "interface" then
    let place ← here
    skip
    let decl ← interfaceDecl place
    return ← nodeFrom start .exportDefaultDecl [decl]
  if ← sees "class" then return ← defaultClass start ds false
  if ← seesPair "async" "function" then return ← defaultFunction start ds true
  if ← sees "function" then return ← defaultFunction start ds false
  let e ← allowingIn (ask .assignment)
  expectEnd
  nodeFrom start .exportDefaultExpr [e]

/-- Reads a declaration that is exported, if there is one. -/
def exportedDecl? (decorators : List Node) : Parse (Option Node) := do
  let place ← here
  if ← sees "class" then return some (← classDecl place decorators false)
  if ← seesPair "async" "function" then
    skip
    return some (← functionDecl place decorators true)
  if ← sees "function" then return some (← functionDecl place decorators false)
  if (← sees "const") && (← peeks "enum") then
    skip
    let _ ← need
    skip
    return some (← enumDecl place true)
  match ← seesVarKeyword with
  | some keyword => return some (← varDecl keyword false)
  | none => return none

/-- Reads an export with a form of its own, if there is one. -/
def specialExport? (start : Nat) : Parse (Option Node) := do
  if ← eat "import" then
    let isType := (← sees "type") && (← peeksIdentifier)
    if isType then skip
    return some (← importEquals start true isType)
  if ← eat "=" then
    let e ← ask .expression
    expectEnd
    return some (← nodeFrom start .exportAssignment [e])
  if ← eat "as" then
    expect "namespace"
    let n ← name
    expectEnd
    return some (← nodeFrom start .exportAsNamespace [n])
  return none

/-- Reads a declaration of a type that is exported, if there is one. -/
def exportedType? (decorators : List Node) : Parse (Option Node) := do
  let place ← here
  if ← eat "declare" then
    if let some n ← declared? place decorators then return some n
  match ← current? with
  | some ⟨.word w, _, _, _, _⟩ =>
    let start ← here
    tried (wordDecl? start decorators w true)
  | _ => return none

/-- Reads an export. -/
def exportDecl (decorators : List Node) : Parse Node := do
  let start ← here
  skip
  let _ ← need
  if let some n ← exportedType? decorators then return ← nodeFrom start .exportDecl [n]
  if let some n ← specialExport? start then return n
  let nameStart ← here
  if ← eat "type" then
    if ← sees "*" then return ← starExport start nameStart true
    return ← namedExport start true
  if ← eat "default" then return ← defaultExport start decorators
  let ds ← lateDecorators decorators
  if let some n ← exportedDecl? ds then return ← nodeFrom start .exportDecl [n]
  if ← sees "*" then starExport start nameStart false else namedExport start false

/-- Reads an item of a module. -/
def moduleItem : Parse Node := statementLike true fun ds => do
  let start ← here
  if ← sees "import" then
    if (← peeks ".") || (← peeks "(") then importStmt start else importDecl
  else exportDecl ds

end PageRoutes.Syntax.Parse
