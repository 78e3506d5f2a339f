import PageRoutes.Syntax.Printer.Expressions
/-!
# Printing classes

The layout of classes, of their members and of parameters. Every decorator stands on a line of its
own, also in a list of parameters. The body of a class has at least two lines.
-/

namespace PageRoutes.Syntax.View

/-- Decorators, each ended by a line. -/
def decorators (views : List View) : Doc := Doc.concat (views.map fun d => d.bare ++ .line)

/-- Decorators between the parameters of a function, on lines of their own. -/
def listDecorators (views : List View) : Doc :=
  if views.isEmpty then .empty else .line ++ decorators views

/-- An accessibility modifier. -/
def accessibilityWord (accessibility : Option Accessibility) : Doc :=
  match accessibility with
  | some a => a.text ++ Doc.text " "
  | none => .empty

/-- A parameter that is a property of the class, too. -/
def paramProperty (m : Modifiers) (decoratorViews : List View) (pattern : View) : Doc :=
  accessibilityWord m.accessibility ++ Doc.when m.isOverride "override "
    ++ Doc.when m.isReadonly "readonly " ++ decorators decoratorViews ++ pattern.bare

/-- What follows the keyword and the name of a class. -/
def classTail (body : View) : Doc :=
  match body.parts with
  | [_, members, base, _, baseArgs, interfaces] =>
    base.ifPresent (" extends " ++ base.shown ++ baseArgs.bare)
      ++ Doc.when (!interfaces.parts.isEmpty)
          (" implements " ++ listed body.span bare interfaces.parts)
      ++ " \x7b" ++ Doc.lines (members.parts.map bare) ++ "\x7d"
  | _ => .empty

/-- The decorators of a class. -/
def classDecorators (body : View) : Doc :=
  match body.parts with
  | ds :: _ => decorators ds.parts
  | _ => .empty

/-- The type parameters of a class. -/
def classTypeParams (body : View) : Doc :=
  match body.parts with
  | [_, _, _, typeParams, _, _] => typeParams.bare
  | _ => .empty

/-- The keyword of a class, with the modifier in front of it. -/
def classWord (body : View) : Doc :=
  match body.kind with
  | .classBody isAbstract => Doc.when isAbstract "abstract " ++ "class"
  | _ => "class"

/-- A class that stands as a statement, from its keyword on. -/
def namedClass (name body : View) : Doc :=
  classWord body ++ " " ++ name.bare ++ classTypeParams body ++ classTail body

/-- A class that stands as an expression. Without a name it has no type parameters. -/
def classExpr (name body : View) : Doc :=
  classDecorators body ++ classWord body
    ++ name.ifPresent (" " ++ name.bare ++ classTypeParams body) ++ classTail body

/-- The word in front of the name of a getter or setter, or the star of a generator. -/
def roleWord (role : MethodKind) (function : View) : Doc :=
  match role with
  | .method => asyncWord function ++ generatorStar function
  | .getter => asyncWord function ++ "get "
  | .setter => asyncWord function ++ "set "

/-- A method of a class. The comments that lead its name stand before its modifiers. -/
def method (role : MethodKind) (m : Modifiers) (key function : View) : Doc :=
  let decoratorViews :=
    match function.parts with
    | _ :: ds :: _ => ds.parts
    | _ => []
  let accessibility :=
    match key.kind with
    | .privateName => none
    | _ => m.accessibility
  .comments .leading key.span.lo ++ decorators decoratorViews ++ accessibilityWord accessibility
    ++ Doc.when m.isStatic "static " ++ Doc.when m.isAbstract "abstract "
    ++ Doc.when m.isOverride "override " ++ roleWord role function ++ key.bare
    ++ optionalMark m.isOptional ++ functionTail function

/-- A field of a class. -/
def field (m : Modifiers) (key value type : View) (decoratorViews : List View) : Doc :=
  let modifiers :=
    if m.isAccessor then
      accessibilityWord m.accessibility ++ Doc.when m.isStatic "static " ++ "accessor "
    else
      Doc.when m.isDeclare "declare " ++ accessibilityWord m.accessibility
        ++ Doc.when m.isStatic "static " ++ Doc.when m.isAbstract "abstract "
        ++ Doc.when m.isOverride "override " ++ Doc.when m.isReadonly "readonly "
  let marks :=
    if m.isAccessor then .empty else optionalMark m.isOptional ++ Doc.when m.isDefinite "!"
  decorators decoratorViews ++ modifiers ++ key.bare ++ marks ++ annotation type
    ++ value.ifPresent (" = " ++ value.shown) ++ ";"

/-- The layout of a member of a class. -/
def memberDoc (kind : Kind) (span : Span) (parts : List View) : Doc :=
  match kind, parts with
  | .classConstructor m, [_, params, body] =>
    accessibilityWord m.accessibility ++ "constructor" ++ parameters span params
      ++ (if body.isAbsent then .text ";" else body.bare)
  | .classMethod role m, [key, function] => method role m key function
  | .classField m, [key, value, type, ds] => field m key value type ds.parts
  | .classIndex m, [params, type] =>
    Doc.when m.isReadonly "readonly " ++ "[" ++ listed span bare params.parts ++ "]"
      ++ annotation type
  | .staticBlock, [body] => "static" ++ body.bare
  | .emptyMember, _ => ";"
  | _, _ => expressionDoc kind span parts

/-- The layout of a class that stands as an expression, of a member of a class, or of a parameter.
-/
def classDoc (kind : Kind) (span : Span) (parts : List View) : Doc :=
  match kind, parts with
  | .param, [ds, pattern] => listDecorators ds.parts ++ pattern.shown
  | .paramProperty m, [ds, pattern] => paramProperty m ds.parts pattern
  | .decorator, [value] => "@" ++ value.shown
  | .classExpr, [name, body] => classExpr name body
  | _, _ => memberDoc kind span parts

end PageRoutes.Syntax.View
