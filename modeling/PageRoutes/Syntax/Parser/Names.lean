import PageRoutes.Syntax.Parser.Basic
/-!
# Names and literals

A word is read as an identifier where it names something in scope, and as a plain name where any
word may stand, as behind a dot. A module is strict code: the words that strict code reserves are
noted as faults where they stand as identifiers.
-/

namespace PageRoutes.Syntax.Parse

/-- Reads any word as a name. -/
def anyName : Parse Node := do
  match ← look with
  | none => stop ⟨← lastPlace, .endOfInput⟩
  | some (.word w) =>
    skip
    leaf (.name w false)
  | some _ => fail .expectedIdentifier

/-- The words that strict code does not allow as identifiers. -/
def strictWords : List String :=
  ["enum", "yield", "let", "static", "implements", "interface", "package", "private", "protected",
    "public"]

/-- Reads an identifier; `spared` are reserved words that are let through here. -/
def identText (spared : List String) : Parse String := do
  match ← need with
  | .word w =>
    skip
    let place := (← lastSpan).lo
    if strictWords.contains w && !spared.contains w then noteStrict place (.reservedInStrict w)
    if w == "await" then
      note place .awaitAsIdentifier
      return w
    if w == "this" || w == "let" || w == "yield" then return w
    if !isPlainWord w then fail .expectedIdentifier
    if w == "arguments" && (← mode).inClassField then note place .argumentsInField
    return w
  | _ => fail .expectedIdentifier

/-- Reads an identifier as a name. -/
def name : Parse Node := do
  let w ← identText []
  leaf (.name w false)

/-- Reads an identifier that is being bound. -/
def bindingWord : Parse Node := do
  let node ← name
  let text := (node.nameText?).getD ""
  let m ← mode
  if text == "eval" || text == "arguments" then noteStrict node.lo .evalOrArguments
  if (m.inAsync || m.inStaticBlock) && text == "await" then note node.lo .expectedIdentifier
  if m.inStaticBlock && text == "arguments" then note node.lo .expectedIdentifier
  return node

/-- Reads an identifier that is being bound, as a pattern without a type. -/
def bindingName : Parse Node := do
  let node ← bindingWord
  return .mk Kind.bindingName node.span [node, .absent]

/-- Reads an identifier that is being bound, if there is one. -/
def optionalBindingWord : Parse Node := do
  if (← seesIdentifier) || (← sees "this") then bindingWord else return .absent

/-- Reads a private name, from its mark on. -/
def privateName : Parse Node := do
  let start ← here
  expect "#"
  if (← here) != (← lastPlace) then failAt start .privateNameSpace
  let n ← anyName
  nodeFrom start .privateName [n]

/-- Reads a name or a private name. -/
def memberName : Parse Node := do
  if ← sees "#" then privateName else anyName

/-- The node of a literal token, if the token is one. -/
def literalKind? : Token → Option Kind
  | .word "null" => some .nullLit
  | .word "true" => some (.boolLit true)
  | .word "false" => some (.boolLit false)
  | .number raw => some (.numberLit raw (numberValue raw).isNone)
  | .bigint raw => some (.bigintLit raw)
  | .string value raw => some (.stringLit value raw)
  | _ => none

/-- Reads a literal, if there is one. -/
def literal? : Parse (Option Node) := do
  match (← current?).bind fun x => literalKind? x.token with
  | some kind =>
    skip
    return some (← leaf kind)
  | none => return none

/-- Reads a string. -/
def stringLiteral (wanted : String) : Parse Node := do
  match ← need with
  | .string value raw =>
    skip
    leaf (.stringLit value raw)
  | _ => unexpected wanted

/-- Reads a name or string in a list of imports or exports. -/
def exportName : Parse Node := do
  match ← look with
  | some (.string value raw) =>
    skip
    leaf (.stringLit value raw)
  | some (.word _) => anyName
  | _ => unexpected "identifier or string"

/-- Reads the name of a property: a word, a string, a number or an expression in brackets. -/
def propertyName : Parse Node := do
  let start ← here
  match ← need with
  | .word w =>
    skip
    leaf (.name w false)
  | .symbol "[" =>
    skip
    let inner ← here
    let first ← allowingIn (ask .assignment)
    let key ←
      if ← sees "," then
        let more ← collect do
          if ← eat "," then return some (← allowingIn (ask .assignment)) else return none
        note inner .commaInComputedName
        nodeFrom inner .sequence (first :: more)
      else pure first
    expect "]"
    nodeFrom start .computedKey [key]
  | .symbol "#" =>
    note start .privateInInterface
    privateName
  | _ =>
    match ← literal? with
    | some n => return n
    | none => unexpected "identifier, string literal, numeric literal or [ for the computed key"

/-- Whether a modifier can stand before the next tokens. -/
def canFollowModifier : Parse Bool := do
  skip
  if ← afterLineBreak then return false
  match ← current? with
  | some x =>
    return match x.token with
      | .word _ | .string .. | .number _ | .bigint _ => true
      | .symbol s => ["[", "\x7b", "*", "...", "#"].contains s
      | _ => false
  | none => return false

/-- Reads one of some modifiers, if it stands as a modifier here. -/
def modifier? (allowed : List String) (stopAtBlock : Bool) : Parse (Option String) := do
  match ← need with
  | .word w =>
    let isCandidate := (isPlainWord w || w == "in" || w == "const") && allowed.contains w
    if !isCandidate then return none
    if stopAtBlock && w == "static" && (← peeks "\x7b") then return none
    return if ← triedIf canFollowModifier then some w else none
  | _ => return none

/-- Reads a modifier of a parameter property, if there is one. -/
def eatParameterModifier : Parse Bool := do
  let words := ["public", "protected", "private", "readonly"]
  match ← look with
  | some (.word w) =>
    if !words.contains w then return false
    if !((← peeksWord) || (← peeks "\x7b") || (← peeks "[")) then return false
    let _ ← modifier? words false
    return true
  | _ => return false

/-- The access modifier of a word. -/
def accessibility? : String → Option Accessibility
  | "public" => some .public_
  | "protected" => some .protected_
  | "private" => some .private_
  | _ => none

/-- Reads an access modifier, if there is one. -/
def accessModifier : Parse (Option Accessibility) := do
  return (← modifier? ["public", "protected", "private"] false).bind accessibility?

end PageRoutes.Syntax.Parse
