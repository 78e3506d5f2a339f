import PageRoutes.Syntax.Printer.View
/-!
# Printing leaves

The texts of names, literals and the words that are whole expressions. Literals keep the spelling of
the text that they were read from.
-/

namespace PageRoutes.Syntax.View

/-- The text of a piece of a template: every end of a line is a line feed. -/
def lineFeeds : List Char → List Char
  | '\r' :: '\n' :: rest => '\n' :: lineFeeds rest
  | '\r' :: rest => '\n' :: lineFeeds rest
  | c :: rest => c :: lineFeeds rest
  | [] => []

/-- A number. One that is too large to be told from infinity is printed as that. -/
def numberText (raw : String) (isInfinite : Bool) : String := if isInfinite then "Infinity" else raw

/-- A mark behind the name of an optional part. -/
def optionalMark (isOptional : Bool) : Doc := Doc.when isOptional "?"

/-- The layout of a literal or of another expression without operands. -/
def leafDoc (kind : Kind) : Doc :=
  match kind with
  | .ident name => name
  | .name text isOptional => text ++ optionalMark isOptional
  | .thisExpr => "this"
  | .superExpr => "super"
  | .importCallee => "import"
  | .nullLit => "null"
  | .boolLit value => if value then "true" else "false"
  | .numberLit raw isInfinite => numberText raw isInfinite
  | .bigintLit raw => raw
  | .stringLit _ raw => raw
  | .regExpLit pattern flags => "/" ++ pattern ++ "/" ++ flags
  | .quasi raw => String.ofList (lineFeeds raw.toList)
  | .importMeta => "import.meta"
  | .newTarget => "new.target"
  | _ => .empty

end PageRoutes.Syntax.View
