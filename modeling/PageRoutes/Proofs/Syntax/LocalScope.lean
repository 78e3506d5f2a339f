import PageRoutes.Proofs.Syntax.ModuleScope
import PageRoutes.Proofs.Syntax.Position
/-!
# Scopes inside a module

A name that stands somewhere in a module refers to the innermost declaration of it on the way up to
the top of the module. Functions, methods and accessors declare their parameters and, for what is in
their bodies, the names of `var` statements; blocks, the cases of a switch and the heads of loops
what is declared in them by another keyword, and functions, classes and enums; a catch clause its
parameter; a class, or a function that is an expression, its own name; a namespace its items; an
enum its members. Decorators are outside the scope of the class or function that they decorate.

An enum or a namespace may be declared in several parts, which stand in the same block, or in parts
of the same namespace and are exported there. In each part of an enum the members of all parts are
in scope, and in each part of a namespace, besides its own items, what the others export. What is
declared inside a `declare` is exported also without the word `export`, unless there is a list of
exports beside it.

Names of types are no names of values, and a namespace with nothing but types in it has none.
An import with an equals sign counts as a declaration, whatever it stands for.

## Main definitions

* `Node.key?`, `Part.exports` : the parts of one enum or one namespace, and what they export.
* `Context` : what is known of the surroundings on the way down a tree.
* `Node.scopeNames` : the names that a node declares for what stands inside it.
* `Node.localNames` : the names that are declared between an address and the top of the module.
* `Node.RefersToModule` : names at an address that refer to the scope of the module.
-/

namespace PageRoutes.Syntax.Node

/-! ### Names in scope -/

/-- The texts of names. -/
def texts (names : List Node) : List String := names.filterMap nameText?

/-- The parts of a group. -/
def listed (n : Node) : List Node :=
  match n.kind with
  | .group => n.children
  | _ => []

/-- The names that a parameter binds. Its decorators stand in front of its pattern. -/
def paramNames (param : Node) : List Node :=
  match param.kind with
  | .param | .paramProperty _ => patternNames (param.child 1)
  | _ => []

/-- Whether nodes of a kind are namespaces, or parts of them with items inside. -/
def hasItems : Kind → Bool
  | .moduleDecl _ _ | .nestedModule | .moduleBlock | .exportDecl => true
  | _ => false

/-- Whether items of a kind give a value to the namespace in which they stand. Types do not, nor do
imports that are not exported, nor the name of the namespace. -/
def isValue : Kind → Bool
  | .importEquals isExport _ => isExport
  | .importDecl _ | .interfaceDecl _ | .typeAlias _ => false
  | .ident _ | .name _ _ | .stringLit _ _ => false
  | _ => true

mutual

/-- Whether an item gives a value to the namespace in which it stands. A namespace gives one if it
has such an item itself. -/
def isInstantiated : Node → Bool
  | .mk kind _ parts => if hasItems kind then anyInstantiated parts else isValue kind

/-- Whether one of some items gives a value to the namespace in which they stand. -/
def anyInstantiated : List Node → Bool
  | [] => false
  | n :: rest => isInstantiated n || anyInstantiated rest

end

/-- The names that a statement declares in the block that it stands in. -/
def lexicalNames (n : Node) : List Node :=
  match n.kind with
  | .varDecl .let_ _ | .varDecl .const _ | .usingDecl _ => declaredNames n.children
  | .fnDecl _ | .classDecl _ | .enumDecl _ _ => [n.child 0]
  | .moduleDecl _ false => if n.isInstantiated then [n.child 0] else []
  | _ => []

/-- The statements of a case of a switch. -/
def caseStatements (n : Node) : List Node :=
  match n.kind with
  | .switchCase => (n.child 1).listed
  | _ => []

/-- The text of the name of an enum member, which may be written as a string. -/
def memberText? (n : Node) : Option String :=
  match n.kind, (n.child 0).kind with
  | .enumMember, .stringLit value _ => some value
  | .enumMember, _ => (n.child 0).nameText?
  | _, _ => none

/-- The local name of a specifier of an import. -/
def specifierName? (n : Node) : Option Node :=
  match n.kind with
  | .importDefault | .importNamespace | .importNamed _ => n.children.getLast?
  | _ => none

/-- What an item declares, exported or not. -/
def declaration (n : Node) : Node :=
  match n.kind with
  | .exportDecl => n.child 0
  | _ => n

/-- The names that an item binds in its namespace. -/
def itemNames (n : Node) : List Node :=
  match n.kind with
  | .importDecl _ => (n.child 0).listed.filterMap specifierName?
  | _ =>
    match n.declaration.kind with
    | .moduleDecl _ false | .nestedModule =>
      if n.declaration.isInstantiated then [n.declaration.child 0] else []
    | _ => n.bindings.map Binding.name

/-- Whether an address in the parameters of a function leads into the decorators of one of them. -/
def isInDecorators (params : Node) (p : Address) : Bool :=
  match params.kind with
  | .group => p[1]? == some 0
  | _ => false

/-- The name of a function that stands as an expression, for what is inside the function. The name
of a function that is exported as the default belongs to the module. -/
def functionName (outer : Kind) (n : Node) (p : Address) : List String :=
  match outer, n.kind with
  | .exportDefaultDecl, _ => []
  | _, .fnExpr => if p.head? = some 1 then texts [n.child 0] else []
  | _, _ => []

end Node

/-! ### Declarations in parts -/

/-- What the parts of an enum, or of a namespace, have in common. -/
inductive Key where
  | enum (name : String)
  | namespace_ (name : String)
  /-- A module outside of the file. -/
  | module_ (source : String)
  | global
  deriving DecidableEq

namespace Node

/-- What a declaration has in common with the other parts of the same enum or namespace. -/
def key? (n : Node) : Option Key :=
  match n.kind with
  | .enumDecl _ _ => (n.child 0).nameText?.map .enum
  | .moduleDecl _ true => some .global
  | .moduleDecl _ false | .nestedModule =>
    match (n.child 0).kind with
    | .stringLit source _ => some (.module_ source)
    | _ => (n.child 0).nameText?.map .namespace_
  | _ => none

/-- The names of the members that a part of an enum declares. -/
def memberNames (n : Node) : List String :=
  match n.kind with
  | .enumDecl _ _ => (n.child 1).listed.filterMap memberText?
  | _ => []

/-- Whether a declaration says that what is in it is elsewhere. -/
def isDeclared (n : Node) : Bool :=
  match n.kind with
  | .moduleDecl isDeclare _ => isDeclare
  | _ => false

/-- Whether an item says what is exported by a list or by an expression. -/
def isExportList (n : Node) : Bool :=
  match n.kind with
  | .exportNamed _ | .exportAll _ | .exportAssignment | .exportDefaultExpr => true
  | _ => false

/-- What an item of a namespace exports. Where exports are implicit, declarations are exported also
without the word. -/
def exported? (isImplicit : Bool) (n : Node) : Option Node :=
  match n.kind with
  | .exportDecl => some (n.child 0)
  | .importEquals isExport _ => if isExport then some n else none
  | .importDecl _ => none
  | _ => if isImplicit then some n else none

/-- Whether the body of a namespace exports its declarations without being told to. -/
def exportsAll (isAmbient : Bool) (body : Node) : Bool :=
  isAmbient && !body.children.any isExportList

/-- What the body of a namespace exports. In `namespace A.B` the body of `A` is the namespace `B`.
-/
def exportedItems (isAmbient : Bool) (body : Node) : List Node :=
  match body.kind with
  | .nestedModule => [body]
  | .moduleBlock => body.children.filterMap (exported? (body.exportsAll isAmbient))
  | _ => []

end Node

/-- A declaration that may be a part of an enum or a namespace, and whether it is inside a
`declare`. -/
structure Part where
  isAmbient : Bool
  declaration : Node

/-- The declarations that a part of a namespace exports. -/
def Part.exports (part : Part) : List Part :=
  let isAmbient := part.isAmbient || part.declaration.isDeclared
  match part.declaration.kind with
  | .moduleDecl _ _ | .nestedModule =>
    (Node.exportedItems isAmbient (part.declaration.child 1)).map fun n ↦ ⟨isAmbient, n⟩
  | _ => []

/-- What is known of the surroundings on the way down a tree. -/
structure Context where
  /-- Whether the way leads through a `declare`. -/
  isAmbient : Bool := false
  /-- The declarations among which are the other parts of what is declared next on the way; in front
  of the body of a namespace, what all its parts export. -/
  parts : List Part := []

namespace Context

open Node

/-- The parts among statements or items that stand together. -/
def partsOf (isAmbient : Bool) (items : List Node) : List Part :=
  ((items.map declaration).filter fun n ↦ n.key?.isSome).map fun n ↦ ⟨isAmbient, n⟩

/-- All parts of an enum or a namespace, given one of them. -/
def allParts (c : Context) (n : Node) : List Part :=
  ⟨c.isAmbient, n⟩ :: c.parts.filter fun part ↦ part.declaration.key? = n.key?

/-- The surroundings of what is inside one of the parts of a node. Declarations in a block, or in
the cases of a switch, are together with those beside them, and in the body of a namespace, if they
are exported, with those that are exported by its other parts. -/
def enter (c : Context) (n : Node) (i : Nat) : Context :=
  match n.kind, i with
  | .module _, _ | .block, _ => { c with parts := partsOf c.isAmbient n.children }
  | .switchStmt, 1 =>
    { c with parts := partsOf c.isAmbient ((n.child 1).listed.flatMap caseStatements) }
  | .moduleBlock, i =>
    let shared := if (exported? (n.exportsAll c.isAmbient) (n.child i)).isSome then c.parts else []
    { c with parts := partsOf c.isAmbient n.children ++ shared }
  | .moduleDecl _ _, 1 | .nestedModule, 1 =>
    ⟨c.isAmbient || n.isDeclared, (c.allParts n).flatMap Part.exports⟩
  | .exportDecl, _ | .group, _ | .switchCase, _ => c
  | _, _ => { c with parts := [] }

end Context

/-! ### Names on the way down a tree -/

namespace Node

/-- The names that a node declares for what stands at an address in one of its parts. -/
def scopeNames (c : Context) (n : Node) (i : Nat) (p : Address) : List String :=
  match n.kind, i with
  -- functions and methods
  | .function _ _, 1 => []
  | .function _ _, 2 =>
    texts ((n.child 0).listed.flatMap paramNames) ++ texts (varNames (n.child 2))
  | .function _ _, _ =>
    if isInDecorators (n.child i) p then [] else texts ((n.child 0).listed.flatMap paramNames)
  | .arrow _, 1 => texts (patternNames (n.child 0)) ++ texts (varNames (n.child 1))
  | .arrow _, _ => texts (patternNames (n.child 0))
  | .classConstructor _, 1 =>
    if isInDecorators (n.child i) p then [] else texts ((n.child 1).listed.flatMap paramNames)
  | .classConstructor _, 2 =>
    texts ((n.child 1).listed.flatMap paramNames) ++ texts (varNames (n.child 2))
  | .getter, 2 => texts (varNames (n.child 2))
  | .setter, 1 => texts (patternNames (n.child 1))
  | .setter, 2 => texts (patternNames (n.child 1)) ++ texts (varNames (n.child 2))
  | .staticBlock, _ => texts (varNames (n.child 0))
  -- classes
  | .classDecl _, 1 | .classExpr, 1 => if p.head? = some 0 then [] else texts [n.child 0]
  -- statements
  | .block, _ => texts (n.children.flatMap lexicalNames)
  | .switchStmt, 1 => texts (((n.child 1).listed.flatMap caseStatements).flatMap lexicalNames)
  | .forStmt, _ | .forInStmt, _ | .forOfStmt _, _ => texts (lexicalNames (n.child 0))
  | .catchClause, _ => texts (patternNames (n.child 0))
  -- namespaces and enums
  | .moduleBlock, _ => texts (n.children.flatMap itemNames)
  | .moduleDecl _ _, 1 | .nestedModule, 1 =>
    texts ((c.enter n 1).parts.flatMap fun part ↦ itemNames part.declaration)
  | .enumDecl _ _, 1 => (c.allParts n).flatMap fun part ↦ memberNames part.declaration
  | _, _ => []

/-- The names that are declared between an address and a node in its surroundings, those of the
outermost scope first. -/
def localNamesIn (c : Context) (n : Node) : Address → List String
  | [] => []
  | i :: p =>
    functionName n.kind (n.child i) p ++ scopeNames c n i p ++
      localNamesIn (c.enter n i) (n.child i) p

/-- The names that are declared between an address and the top of the tree, those of the outermost
scope first. -/
def localNames (n : Node) (p : Address) : List String := localNamesIn {} n p

/-- Whether a name at an address refers to the scope of the module: no scope on the way to the top
declares it. -/
def RefersToModule (tree : Node) (name : String) (p : Address) : Prop := name ∉ tree.localNames p

instance (tree : Node) (name : String) (p : Address) : Decidable (tree.RefersToModule name p) :=
  inferInstanceAs (Decidable (name ∉ tree.localNames p))

end PageRoutes.Syntax.Node
