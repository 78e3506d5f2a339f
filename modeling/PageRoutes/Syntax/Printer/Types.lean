import PageRoutes.Syntax.Printer.Leaves
/-!
# Printing types

The layout of types and of the members of type literals and interfaces. Types stand on one line,
except for literals of members and mapped types. Nothing is printed behind a type: comments that
trail it are left to the statement or the expression that ends there.
-/

namespace PageRoutes.Syntax.View

/-- A list of members between braces, each ended by a semicolon. -/
def memberBraces (members : List View) : Doc :=
  "\x7b" ++ Doc.lines (members.map fun m => m.bare ++ ";") ++ "\x7d"

/-- The type parameters, parameters and result of a signature. -/
def signature (span : Span) (params typeParams type : View) : Doc :=
  typeParams.bare ++ "(" ++ listed span bare params.parts ++ ")" ++ annotation type

/-- The type parameters, parameters and result of a function type. -/
def functionType (span : Span) (params typeParams result : View) : Doc :=
  typeParams.bare ++ "(" ++ listed span bare params.parts ++ ") => " ++ result.bare

/-- The key of a member, in brackets if it is computed. -/
def memberKey (isComputed : Bool) (key : View) : Doc :=
  if isComputed then "[" ++ key.shown ++ "]" else key.shown

/-- A modifier of a mapped type, with its sign. -/
def mappedModifier (modifier : Option MappedModifier) (word : Doc) : Doc :=
  match modifier with
  | none => .empty
  | some .plain => word
  | some .plus => "+" ++ word
  | some .minus => "-" ++ word

/-- A mapped type. -/
def mappedType (readonlyMod optionalMod : Option MappedModifier) (typeParam nameType type : View) :
    Doc :=
  let key :=
    match typeParam.parts with
    | name :: bound :: _ => name.bare ++ bound.ifPresent (" in " ++ bound.bare)
    | _ => .empty
  let member := mappedModifier readonlyMod "readonly " ++ "[" ++ key
    ++ nameType.ifPresent (" as " ++ nameType.bare) ++ "]" ++ mappedModifier optionalMod "?"
    ++ annotation type ++ ";"
  "\x7b" ++ Doc.lines [member] ++ "\x7d"

/-- A type parameter. -/
def typeParam (isIn isOut isConst : Bool) (name bound default : View) : Doc :=
  Doc.when isConst "const " ++ Doc.when isIn "in " ++ Doc.when isOut "out " ++ name.bare
    ++ bound.ifPresent (" extends " ++ bound.bare) ++ default.ifPresent (" = " ++ default.bare)

/-- The pieces of a template: texts, and between them what is filled in. -/
def templatePieces (print : View → Doc) : List View → Doc
  | quasi :: filling :: rest =>
    quasi.bare ++ "$\x7b" ++ print filling ++ "\x7d" ++ templatePieces print rest
  | [quasi] => quasi.bare
  | [] => .empty

/-- A template whose pieces are given. -/
def templateOf (print : View → Doc) (pieces : List View) : Doc :=
  "\x60" ++ templatePieces print pieces ++ "\x60"

/-- The layout of a member of a type, or of a leaf. -/
def typeMemberDoc (kind : Kind) (span : Span) (parts : List View) : Doc :=
  match kind, parts with
  | .callSignature, [params, type, typeParams] => signature span params typeParams type
  | .constructSignature, [params, type, typeParams] =>
    "new" ++ typeParams.ifPresent " " ++ signature span params typeParams type
  | .propertySignature isReadonly isComputed isOptional, [key, type] =>
    Doc.when isReadonly "readonly " ++ memberKey isComputed key ++ optionalMark isOptional
      ++ annotation type
  | .methodSignature isComputed isOptional, [key, params, type, typeParams] =>
    memberKey isComputed key ++ optionalMark isOptional ++ signature span params typeParams type
  | .getterSignature isComputed, [key, type] =>
    "get " ++ memberKey isComputed key ++ "()" ++ annotation type
  | .setterSignature isComputed, [key, param] =>
    "set " ++ memberKey isComputed key ++ "(" ++ param.bare ++ ")"
  | .indexSignature isReadonly, [params, type] =>
    Doc.when isReadonly "readonly " ++ "[" ++ listed span bare params.parts ++ "]"
      ++ annotation type
  | _, _ => leafDoc kind

/-- The layout of a type, or of a part of one. -/
def typeDoc (kind : Kind) (span : Span) (parts : List View) : Doc :=
  match kind, parts with
  | .typeMark, [type] => type.bare
  | .keywordType text, _ => text
  | .thisType, _ => "this"
  | .typeReference, [name, args] => name.bare ++ args.bare
  | .qualifiedName, [left, right] => left.bare ++ "." ++ right.bare
  | .typeQuery, [name, args] => "typeof " ++ name.bare ++ args.bare
  | .importType, [source, qualifier, args] =>
    "import(" ++ source.bare ++ ")" ++ qualifier.ifPresent ("." ++ qualifier.bare) ++ args.bare
  | .typeLiteral, members => memberBraces members
  | .arrayType, [type] => type.bare ++ "[]"
  | .tupleType, elements => "[" ++ listed span bare elements ++ "]"
  | .tupleElement, [label, type] => label.ifPresent (label.bare ++ ": ") ++ type.bare
  | .optionalType, [type] => type.bare ++ "?"
  | .restType, [type] => "..." ++ type.bare
  | .unionType, types => delimited " |" " " span bare types
  | .intersectionType, types => delimited " &" " " span bare types
  | .conditionalType, [checked, bound, yes, no] =>
    checked.bare ++ " extends " ++ bound.bare ++ " ? " ++ yes.bare ++ " : " ++ no.bare
  | .inferType, [param] => "infer " ++ param.bare
  | .parenType, [type] => "(" ++ type.bare ++ ")"
  | .typeOperator operator, [type] => operator ++ Doc.text " " ++ type.bare
  | .indexedAccess, [object, index] => object.bare ++ "[" ++ index.bare ++ "]"
  | .mappedType readonlyMod optionalMod, [param, nameType, type] =>
    mappedType readonlyMod optionalMod param nameType type
  | .literalType, [literal] => literal.bare
  | .templateType, pieces => templateOf bare pieces
  | .typePredicate isAsserts, [param, type] =>
    Doc.when isAsserts "asserts " ++ param.bare ++ type.ifPresent (" is " ++ type.bare)
  | .functionType, [params, typeParams, result] => functionType span params typeParams result
  | .constructorType isAbstract, [params, typeParams, result] =>
    Doc.when isAbstract "abstract " ++ "new" ++ typeParams.ifPresent " "
      ++ functionType span params typeParams result
  | .typeParams, params => "<" ++ listed span bare params ++ ">"
  | .typeParam isIn isOut isConst, [name, bound, default] =>
    typeParam isIn isOut isConst name bound default
  | .typeArgs, types => "<" ++ listed span bare types ++ ">"
  | .heritage, [base, args] => base.shown ++ args.bare
  | _, _ => typeMemberDoc kind span parts

end PageRoutes.Syntax.View
