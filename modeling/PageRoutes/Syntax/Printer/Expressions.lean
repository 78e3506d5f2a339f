import PageRoutes.Syntax.Printer.Types
/-!
# Printing expressions and patterns

The layout of expressions and of the patterns that bind names. Literals keep the spelling of the
text that they were read from. Array and object literals stand on lines of their own, patterns on
one line; no parentheses are added or removed, except where a comment would otherwise cut a
statement in two.
-/

namespace PageRoutes.Syntax.View

/-! ### Arrays and objects -/

/-- An element of a list that may have holes; a hole is nothing. -/
def element (v : View) : Doc := v.ifPresent v.shown

/-- The comma that keeps a hole at the end of a list. -/
def lastHole (elements : List View) : Doc :=
  match elements.getLast? with
  | some v => Doc.when v.isAbsent ", "
  | none => .empty

/-- An array literal. -/
def array (span : Span) (elements : List View) : Doc :=
  if elements.isEmpty then "[]"
  else "[" ++ .line ++ .indented (delimited "," .line span element elements ++ lastHole elements)
    ++ .line ++ "]"

/-- An object literal. One without properties has two lines if a comment leads its closing brace;
the comment itself has no place here. -/
def object (span : Span) (properties : List View) : Doc :=
  if properties.isEmpty then
    "\x7b" ++ .ifLed (fun _ => true) (span.hi - 1) .line .empty ++ "\x7d"
  else "\x7b" ++ listedLines span bare properties ++ "\x7d"

/-! ### Blocks and functions -/

/-- Statements on lines of their own between braces. -/
def braces (span : Span) (statements : List Doc) : Doc :=
  let last : Doc := .comments .leading (span.hi - 1)
  if statements.isEmpty then
    "\x7b" ++ .ifLed (fun _ => true) (span.hi - 1) (.line ++ last) .empty ++ "\x7d"
  else "\x7b" ++ Doc.lines statements ++ last ++ "\x7d"

/-- A list of parameters. -/
def parameters (span : Span) (params : View) : Doc :=
  "(" ++ listed span bare params.parts ++ ")"

/-- What follows the name of a function. -/
def functionTail (function : View) : Doc :=
  match function.parts with
  | [params, _, body, typeParams, result] =>
    typeParams.bare ++ parameters function.span params ++ annotation result
      ++ (if body.isAbsent then .text ";" else " " ++ body.bare)
  | _ => .empty

/-- The word in front of an asynchronous function. -/
def asyncWord (function : View) : Doc :=
  match function.kind with
  | .function isAsync _ => Doc.when isAsync "async "
  | _ => .empty

/-- The star of a generator. -/
def generatorStar (function : View) : Doc :=
  match function.kind with
  | .function _ isGenerator => Doc.when isGenerator "*"
  | _ => .empty

/-- A function that stands as an expression. -/
def functionExpr (name function : View) : Doc :=
  asyncWord function ++ "function" ++ generatorStar function ++ name.ifPresent (" " ++ name.bare)
    ++ functionTail function

/-- An arrow function. An expression behind the arrow is indented. -/
def arrow (isAsync : Bool) (span : Span) (params body typeParams result : View) : Doc :=
  let tail :=
    match body.kind with
    | .block => body.bare
    | _ => .indented body.shown
  Doc.when isAsync "async " ++ typeParams.bare ++ "(" ++ listed span shown params.parts ++ ")"
    ++ result.ifPresent (": " ++ result.bare ++ " ") ++ "=>" ++ tail

/-! ### Members and calls -/

/-- Whether a dot behind a number would be read as part of it. -/
def takesDot (v : View) : Bool :=
  match v.kind with
  | .numberLit raw isInfinite => !isInfinite && raw.toList.all fun c => c.isDigit || c == '_'
  | _ => false

/-- What stands before a member, a call or a template: the comments behind a `new` expression are
left to what follows. -/
def operand (v : View) : Doc :=
  match v.kind with
  | .newExpr => v.bare
  | .numberLit _ _ => v.bare
  | _ => v.shown

/-- The callee of a call: comments behind a number stay with it. -/
def callee (v : View) : Doc :=
  match v.kind with
  | .newExpr | .superExpr | .importCallee => v.bare
  | _ => v.shown

/-- A dot and the name behind it, with the comments that lead the dot. -/
def dotted (property : View) : Doc :=
  .comments .leading (property.span.lo - 1) ++ "." ++ property.bare

/-- A property behind the object to which it belongs. -/
def property (object property : View) : Doc :=
  match property.kind with
  | .computedKey => property.bare
  | _ =>
    Doc.when object.takesDot (.comments .leading (property.span.lo - 2) ++ ".") ++ dotted property

/-- The arguments of a call. -/
def arguments (span : Span) (args : View) : Doc := "(" ++ listed span shown args.parts ++ ")"

/-- A call. The comments behind it stand with it, whatever it stands in. -/
def call (span : Span) (function args typeArgs : View) : Doc :=
  callee function ++ typeArgs.bare ++ arguments span args ++ .comments .trailing span.hi

/-- A member of an object that may be missing. -/
def optionalMember (isOptional : Bool) (property : View) : Doc :=
  match property.kind with
  | .computedKey => Doc.when isOptional "?." ++ property.bare
  | _ => (if isOptional then "?." else ".") ++ property.bare

/-- Whether a space must stand between a sign and its argument, because the two would be read as one
operator without it. -/
def sticksTo (sign : String) (argument : View) : Bool :=
  match argument.kind with
  | .unary inner => inner == sign
  | .update inner true => inner == sign ++ sign
  | _ => false

/-- An operator in front of its argument. -/
def unary (sign : String) (argument : View) : Doc :=
  let isWord := sign.toList.all Char.isAlpha
  let isSign := sign == "+" || sign == "-"
  sign ++ Doc.when (isWord || isSign && sticksTo sign argument) " " ++ argument.shown

/-- The argument of a statement that would end at the end of a line: parentheses keep it together if
the line ends in a comment at its beginning. -/
def argument (gap : Doc) (v : View) : Doc :=
  v.ifPresent (.ifLed Comment.endsLine v.span.lo ("(" ++ v.shown ++ ")") (gap ++ v.shown))

/-! ### Layouts -/

/-- The layout of a property of an object literal. -/
def propertyDoc (kind : Kind) (span : Span) (parts : List View) : Doc :=
  match kind, parts with
  | .spread, [value] => "..." ++ value.shown
  | .keyValue, [key, value] => key.bare ++ ": " ++ value.shown
  | .assignProperty, [name, value] => name.bare ++ " = " ++ value.shown
  | .getter, [key, _, body] => "get " ++ key.bare ++ " () " ++ body.bare
  | .setter, [key, param, body] => "set " ++ key.bare ++ " (" ++ param.shown ++ ")" ++ body.bare
  | .methodProperty, [key, function] =>
    asyncWord function ++ generatorStar function ++ key.bare ++ " " ++ functionTail function
  | .computedKey, [key] => "[" ++ key.shown ++ "]"
  | _, _ => typeDoc kind span parts

/-- The layout of a pattern. -/
def patternDoc (kind : Kind) (span : Span) (parts : List View) : Doc :=
  match kind, parts with
  | .bindingName, [name, type] => name.bare ++ annotation type
  | .arrayPattern isOptional, [elements, type] =>
    "[" ++ listed span element elements.parts ++ lastHole elements.parts ++ "]"
      ++ optionalMark isOptional ++ annotation type
  | .objectPattern isOptional, [properties, type] =>
    (if properties.parts.isEmpty then .text "\x7b\x7d"
      else "\x7b " ++ listed span bare properties.parts ++ " \x7d")
      ++ optionalMark isOptional ++ annotation type
  | .restPattern, [pattern, type] => "..." ++ pattern.shown ++ annotation type
  | .assignPattern, [pattern, value] => pattern.shown ++ " = " ++ value.shown
  | .keyValuePattern, [key, pattern] => key.bare ++ ": " ++ pattern.shown
  | .shorthandPattern, [name, value] => name.bare ++ value.ifPresent (" = " ++ value.shown)
  | _, _ => propertyDoc kind span parts

/-- The layout of an expression, a pattern or a property. -/
def expressionDoc (kind : Kind) (span : Span) (parts : List View) : Doc :=
  match kind, parts with
  | .privateName, [name] => "#" ++ name.bare
  | .template, pieces => templateOf shown pieces
  | .taggedTemplate, [tag, typeArgs, template] => callee tag ++ typeArgs.bare ++ template.bare
  | .array, elements => array span elements
  | .object, properties => object span properties
  | .unary operator, [argument] => unary operator argument
  | .update operator isPrefixed, [argument] =>
    if isPrefixed then operator ++ argument.shown else argument.shown ++ operator
  | .binary operator, [left, right] => left.shown ++ " " ++ operator ++ " " ++ right.shown
  | .assign operator, [left, right] => left.shown ++ " " ++ operator ++ " " ++ right.shown
  | .conditional, [test, yes, no] => test.shown ++ " ? " ++ yes.shown ++ " : " ++ no.shown
  | .call, [function, args, typeArgs] => call span function args typeArgs
  | .newExpr, [function, args, typeArgs] =>
    "new " ++ function.shown ++ typeArgs.bare ++ args.ifPresent (arguments span args)
  | .member, [object, name] => operand object ++ property object name
  | .superMember, [object, name] =>
    object.bare ++ (match name.kind with
      | .computedKey => name.bare
      | _ => "." ++ name.bare)
  | .optMember isOptional, [object, name] => callee object ++ optionalMember isOptional name
  | .optCall isOptional, [function, args, _] =>
    function.shown ++ Doc.when isOptional "?." ++ arguments span args
  | .sequence, items => Doc.separated ", " (items.map shown)
  | .paren, [inner] => "(" ++ inner.shown ++ ")"
  | .yieldExpr isDelegate, [value] =>
    "yield" ++ Doc.when isDelegate "*" ++ argument " " value
  | .awaitExpr, [value] => "await " ++ value.shown
  | .asExpr, [value, type] => value.shown ++ " as " ++ type.bare
  | .satisfiesExpr, [value, type] => value.shown ++ " satisfies " ++ type.bare
  | .constAssertion, [value] => value.shown ++ " as const"
  | .nonNull, [value] => value.shown ++ "!"
  | .typeAssertion, [value, type] => "<" ++ type.bare ++ ">" ++ value.shown
  | .instantiation, [value, typeArgs] => value.shown ++ typeArgs.bare
  | .fnExpr, [name, function] => functionExpr name function
  | .arrow isAsync, [params, body, typeParams, result] =>
    arrow isAsync span params body typeParams result
  | _, _ => patternDoc kind span parts

end PageRoutes.Syntax.View
