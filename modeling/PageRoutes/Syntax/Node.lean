/-!
# Syntax trees

The tree of a TypeScript module. A node has a kind, the range of the text that it was read from and
the nodes below it, in the order in which a search through the tree visits them. The order is that
of the text with few exceptions: a class lists its decorators and members before its base class, and
a `do` loop its condition before its body. A part that is left out is a node of the kind `absent`,
and a list of parts is a node of the kind `group`.

Nodes that were not read from a text have the range `Span.none`.
-/

namespace PageRoutes.Syntax

/-- A range of a text, by the places of its first byte and of the byte behind it. Places are counted
from one. -/
structure Span where
  lo : Nat
  hi : Nat
  deriving DecidableEq, Repr

/-- The range of a node that was not read from a text. -/
def Span.none : Span := ⟨0, 0⟩

/-- The keyword of a variable declaration. -/
inductive VarKeyword where
  | var
  | let_
  | const
  deriving DecidableEq, Repr

/-- The keyword as it is written. -/
def VarKeyword.text : VarKeyword → String
  | .var => "var"
  | .let_ => "let"
  | .const => "const"

/-- Who may use a class member. -/
inductive Accessibility where
  | public_
  | protected_
  | private_
  deriving DecidableEq, Repr

/-- The modifier as it is written. -/
def Accessibility.text : Accessibility → String
  | .public_ => "public"
  | .protected_ => "protected"
  | .private_ => "private"

/-- What a method stands for. -/
inductive MethodKind where
  | method
  | getter
  | setter
  deriving DecidableEq, Repr

/-- The modifiers of a class member. -/
structure Modifiers where
  accessibility : Option Accessibility := none
  isStatic : Bool := false
  isAbstract : Bool := false
  isOverride : Bool := false
  isReadonly : Bool := false
  isDeclare : Bool := false
  isOptional : Bool := false
  isDefinite : Bool := false
  isAccessor : Bool := false
  deriving DecidableEq, Repr

/-- A modifier of a mapped type: present, added or removed. -/
inductive MappedModifier where
  | plain
  | plus
  | minus
  deriving DecidableEq, Repr

/-- The kind of a node. The comment behind a kind names the nodes below it; a question mark stands
after a part that may be absent, and a star after a group. -/
inductive Kind where
  | absent
  | group
  | invalid
  -- modules
  | module (shebang : Option String) -- items
  | importDecl (isType : Bool) -- specifiers*, source, attributes?
  | importDefault -- local name
  | importNamespace -- local name
  | importNamed (isType : Bool) -- imported name?, local name
  | exportDecl -- declaration
  | exportNamed (isType : Bool) -- specifiers*, source?, attributes?
  | exportSpecifier (isType : Bool) -- name, exported name?
  | exportNamespace -- name
  | exportAll (isType : Bool) -- source, attributes?
  | exportDefaultDecl -- declaration
  | exportDefaultExpr -- expression
  | exportAssignment -- expression
  | exportAsNamespace -- name
  | importEquals (isExport isType : Bool) -- name, reference
  | requireCall -- source
  -- statements
  | block -- statements
  | emptyStmt
  | debuggerStmt
  | exprStmt -- expression
  | returnStmt -- argument?
  | throwStmt -- argument
  | breakStmt -- label?
  | continueStmt -- label?
  | labeledStmt -- label, body
  | ifStmt -- test, consequent, alternative?
  | switchStmt -- discriminant, cases*
  | switchCase -- test?, statements*
  | tryStmt -- block, handler?, finalizer?
  | catchClause -- parameter?, body
  | whileStmt -- test, body
  | withStmt -- object, body
  | doWhileStmt -- test, body
  | forStmt -- initializer?, test?, update?, body
  | forInStmt -- left, right, body
  | forOfStmt (isAwait : Bool) -- left, right, body
  | varDecl (keyword : VarKeyword) (isDeclare : Bool) -- declarators
  | usingDecl (isAwait : Bool) -- declarators
  | declarator -- pattern, initializer?
  -- functions and classes
  | function (isAsync isGenerator : Bool) -- parameters*, decorators*, body?, type parameters?, result?
  | fnDecl (isDeclare : Bool) -- name, function
  | fnExpr -- name?, function
  | arrow (isAsync : Bool) -- parameters*, body, type parameters?, result?
  | param -- decorators*, pattern
  | paramProperty (modifiers : Modifiers) -- decorators*, pattern
  | decorator -- expression
  | classBody (isAbstract : Bool) -- decorators*, members*, base?, type parameters?, arguments?, implements*
  | classDecl (isDeclare : Bool) -- name, class
  | classExpr -- name?, class
  | classConstructor (modifiers : Modifiers) -- key, parameters*, body?
  | classMethod (role : MethodKind) (modifiers : Modifiers) -- key, function
  | classField (modifiers : Modifiers) -- key, value?, type?, decorators*
  | classIndex (modifiers : Modifiers) -- parameters*, type?
  | staticBlock -- block
  | emptyMember
  -- expressions
  | ident (name : String)
  | name (text : String) (isOptional : Bool)
  | privateName -- name
  | thisExpr
  | superExpr
  | importCallee
  | nullLit
  | boolLit (value : Bool)
  | numberLit (raw : String) (isInfinite : Bool)
  | bigintLit (raw : String)
  | stringLit (value raw : String)
  | regExpLit (pattern flags : String)
  | template -- quasi, expression, quasi, ...
  | quasi (raw : String)
  | taggedTemplate -- tag, type arguments?, template
  | array -- elements, holes absent
  | object -- properties
  | spread -- expression
  | keyValue -- key, value
  | assignProperty -- name, value
  | getter -- key, type?, body
  | setter -- key, parameter, body
  | methodProperty -- key, function
  | computedKey -- expression
  | unary (operator : String) -- argument
  | update (operator : String) (isPrefixed : Bool) -- argument
  | binary (operator : String) -- left, right
  | assign (operator : String) -- left, right
  | conditional -- test, consequent, alternative
  | call -- callee, arguments*, type arguments?
  | newExpr -- callee, arguments*?, type arguments?
  | member -- object, property
  | superMember -- super, property
  | optMember (isOptional : Bool) -- object, property
  | optCall (isOptional : Bool) -- callee, arguments*, type arguments?
  | sequence -- expressions
  | paren -- expression
  | yieldExpr (isDelegate : Bool) -- argument?
  | awaitExpr -- argument
  | importMeta
  | newTarget
  | asExpr -- expression, type
  | satisfiesExpr -- expression, type
  | constAssertion -- expression
  | nonNull -- expression
  | typeAssertion -- expression, type
  | instantiation -- expression, type arguments
  -- patterns
  | bindingName -- name, type?
  | arrayPattern (isOptional : Bool) -- elements*, type?
  | objectPattern (isOptional : Bool) -- properties*, type?
  | restPattern -- pattern, type?
  | assignPattern -- pattern, value
  | keyValuePattern -- key, pattern
  | shorthandPattern -- name, value?
  -- types
  | typeMark -- type
  | keywordType (text : String)
  | thisType
  | typeReference -- name, type arguments?
  | qualifiedName -- left, right
  | typeQuery -- name, type arguments?
  | importType -- source, qualifier?, type arguments?
  | typeLiteral -- members
  | arrayType -- type
  | tupleType -- elements
  | tupleElement -- label?, type
  | optionalType -- type
  | restType -- type
  | unionType -- types
  | intersectionType -- types
  | conditionalType -- checked, bound, then, else
  | inferType -- type parameter
  | parenType -- type
  | typeOperator (operator : String) -- type
  | indexedAccess -- object, index
  | mappedType (readonlyMod optionalMod : Option MappedModifier) -- type parameter, name type?, type?
  | literalType -- literal
  | templateType -- quasi, type, quasi, ...
  | typePredicate (isAsserts : Bool) -- parameter, type?
  | functionType -- parameters*, type parameters?, result
  | constructorType (isAbstract : Bool) -- parameters*, type parameters?, result
  | typeParams -- parameters
  | typeParam (isIn isOut isConst : Bool) -- name, constraint?, default?
  | typeArgs -- types
  | heritage -- expression, type arguments?
  | callSignature -- parameters*, type?, type parameters?
  | constructSignature -- parameters*, type?, type parameters?
  | propertySignature (isReadonly isComputed isOptional : Bool) -- key, type?
  | methodSignature (isComputed isOptional : Bool) -- key, parameters*, type?, type parameters?
  | getterSignature (isComputed : Bool) -- key, type?
  | setterSignature (isComputed : Bool) -- key, parameter
  | indexSignature (isReadonly : Bool) -- parameters*, type?
  -- declarations of types
  | interfaceDecl (isDeclare : Bool) -- name, type parameters?, bases*, body
  | interfaceBody -- members
  | typeAlias (isDeclare : Bool) -- name, type parameters?, type
  | enumDecl (isDeclare isConst : Bool) -- name, members*
  | enumMember -- name, value?
  | moduleDecl (isDeclare isGlobal : Bool) -- name, body?
  | moduleBlock -- items
  | nestedModule -- name, body
  deriving Repr

/-- A node of a syntax tree. -/
inductive Node where
  | mk (kind : Kind) (span : Span) (children : List Node)

namespace Node

/-- The kind of a node. -/
def kind : Node → Kind
  | .mk k _ _ => k

/-- The range that a node was read from. -/
def span : Node → Span
  | .mk _ s _ => s

/-- The nodes below a node. -/
def children : Node → List Node
  | .mk _ _ cs => cs

/-- A part that is left out. -/
def absent : Node := .mk .absent .none []

/-- A list of parts. -/
def group (nodes : List Node) : Node := .mk .group .none nodes

/-- A part that may be left out. -/
def ofOption : Option Node → Node
  | some n => n
  | none => absent

/-- Whether a part is left out. -/
def isAbsent (n : Node) : Bool :=
  match n.kind with
  | .absent => true
  | _ => false

/-- A node with another range. -/
def withSpan (n : Node) (span : Span) : Node := .mk n.kind span n.children

/-- A node of another kind. -/
def withKind (n : Node) (kind : Kind) : Node := .mk kind n.span n.children

/-- The place where a node begins. -/
def lo (n : Node) : Nat := n.span.lo

/-- The place where a node ends. -/
def hi (n : Node) : Nat := n.span.hi

/-- The part of a node at an index; it is absent where there is none. -/
def child (n : Node) (index : Nat) : Node := (n.children[index]?).getD absent

/-- The text of an identifier that stands as an expression. -/
def identName? (n : Node) : Option String :=
  match n.kind with
  | .ident s => some s
  | _ => none

/-- The text of a name, wherever it stands. -/
def nameText? (n : Node) : Option String :=
  match n.kind with
  | .ident s => some s
  | .name s _ => some s
  | _ => none

end Node

end PageRoutes.Syntax
