import PageRoutes.Syntax.Printer.Statements
/-!
# Printing modules

The layout of imports, exports and modules inside a module. Each item stands on lines of its own,
except that what follows a block at the top of a module stands behind its brace.
-/

namespace PageRoutes.Syntax.View

/-- An item of a module, with the comments behind it. -/
def item (v : View) : Doc := statement v ++ v.trailing

/-- The items of a module inside a module. The last one ends its line only if it does so by itself.
-/
def nestedItems (views : List View) : Doc := .line ++ Doc.separated .line (views.map item)

/-- The mark of an import or export that concerns types only. -/
def typeWord (isType : Bool) : Doc := Doc.when isType "type "

/-! ### Imports and exports -/

/-- The attributes behind a source, if there are any. -/
def attributes (attrs : View) : Doc := attrs.ifPresent (" with " ++ attrs.bare)

/-- A source behind what is taken from it. -/
def source (source attrs : View) : Doc := source.bare ++ attributes attrs ++ ";"

/-- Names in braces. -/
def nameBraces (span : Span) (specifiers : List View) : Doc :=
  "\x7b " ++ listed span bare specifiers ++ Doc.when (!specifiers.isEmpty) " " ++ "\x7d"

/-- Whether a specifier stands in braces. -/
def isNamed (v : View) : Bool :=
  match v.kind with
  | .importNamed _ | .exportSpecifier _ => true
  | _ => false

/-- The specifiers of an import or export: first those that stand alone, then those in braces. -/
def specifierList (span : Span) (specifiers : List View) : Doc :=
  let named := specifiers.filter isNamed
  let lone := (specifiers.filter fun v => !v.isNamed).map bare
  Doc.separated ", " (if named.isEmpty then lone else lone ++ [nameBraces span named])

/-- A name with the name that it gets, if that is another. -/
def renamed (name newName : View) : Doc := name.bare ++ newName.ifPresent (" as " ++ newName.bare)

/-- An export of a declaration. Decorators stand before the word. -/
def exportDecl (decl : View) : Doc :=
  match decl.kind, decl.parts with
  | .classDecl isDeclare, [name, body] =>
    classDecorators body ++ "export " ++ .comments .leading decl.span.lo ++ declareWord isDeclare
      ++ namedClass name body
  | _, _ => "export " ++ declaration decl

/-- The layout of an import or a part of one. -/
def importDoc (kind : Kind) (span : Span) (parts : List View) : Doc :=
  match kind, parts with
  | .importDecl isType, [specifiers, source, attrs] =>
    "import " ++ typeWord isType
      ++ Doc.when (!specifiers.parts.isEmpty) (specifierList span specifiers.parts ++ " from ")
      ++ View.source source attrs
  | .importDefault, [name] => name.bare
  | .importNamespace, [name] => "* as " ++ name.bare
  | .importNamed isType, [imported, name] =>
    typeWord isType ++ imported.ifPresent (imported.bare ++ " as ") ++ name.bare
  | .importEquals isExport isType, [name, reference] =>
    Doc.when isExport "export " ++ "import " ++ typeWord isType ++ name.bare ++ " = "
      ++ reference.bare ++ ";"
  | .requireCall, [source] => "require(" ++ source.bare ++ ")"
  | _, _ => statementDoc kind span parts

/-- The layout of an export or a part of one. -/
def exportDoc (kind : Kind) (span : Span) (parts : List View) : Doc :=
  match kind, parts with
  | .exportDecl, [decl] => exportDecl decl
  | .exportNamed isType, [specifiers, source, attrs] =>
    "export " ++ typeWord isType
      ++ (if specifiers.parts.isEmpty then nameBraces span []
        else specifierList span specifiers.parts)
      ++ (if source.isAbsent then .text ";" else " from " ++ View.source source attrs)
  | .exportSpecifier isType, [name, newName] => typeWord isType ++ renamed name newName
  | .exportNamespace, [name] => "* as " ++ name.bare
  | .exportAll isType, [source, attrs] =>
    "export " ++ typeWord isType ++ "* from " ++ View.source source attrs
  | .exportDefaultDecl, [decl] => "export default " ++ decl.bare
  | .exportDefaultExpr, [value] => "export default " ++ value.shown ++ ";"
  | .exportAssignment, [value] => "export = " ++ value.shown
  | .exportAsNamespace, [name] => "export as namespace " ++ name.bare
  | _, _ => importDoc kind span parts

/-! ### Modules -/

/-- What follows the name of a module: a dot and the name of a nested one, or its body. -/
def moduleRest (body : View) : Doc :=
  match body.kind with
  | .nestedModule => "." ++ body.bare
  | _ => body.ifPresent (" " ++ body.bare)

/-- The layout of a module and of its items. -/
def moduleDoc (kind : Kind) (span : Span) (parts : List View) : Doc :=
  match kind, parts with
  | .module shebang, views =>
    (match shebang with
      | some text => "#!" ++ Doc.text text ++ .line
      | none => .empty) ++ Doc.concat (views.map item) ++ .comments .trailing span.hi
  | .moduleDecl isDeclare isGlobal, [name, body] =>
    declareWord isDeclare ++ (if isGlobal then .text "global" else "module " ++ name.bare)
      ++ moduleRest body
  | .nestedModule, [name, body] => name.bare ++ moduleRest body
  | .moduleBlock, views => "\x7b" ++ .indented (nestedItems views) ++ "\x7d"
  | _, _ => exportDoc kind span parts

end PageRoutes.Syntax.View
