import PageRoutes.Syntax.Node
import PageRoutes.Syntax.Printer.Doc
/-!
# Views

A view is a node seen by the printer: each part of the tree together with the document that prints
it. How a node is printed depends on its kind and on the views of its parts, and on nothing below
those parts except where the layout of a node runs its parts together.

A comment belongs to a place, and a place is the end of several nested nodes. So a view is printed
in two ways: `View.bare` has the comments that lead the node, `View.shown` also those that trail it.

## Main definitions

* `View` : a node with its document and the views of its parts.
* `View.shown` : a view with the comments behind it.
* `View.listed` : views with a delimiter between them.
-/

namespace PageRoutes.Syntax

/-- A node seen by the printer. `bare` prints it with the comments that lead it. -/
inductive View where
  | mk (kind : Kind) (span : Span) (bare : Doc) (parts : List View)

namespace View

/-- The kind of the node. -/
def kind : View → Kind
  | .mk k _ _ _ => k

/-- The range of the node. -/
def span : View → Span
  | .mk _ s _ _ => s

/-- The document that prints the node with the comments that lead it. -/
def bare : View → Doc
  | .mk _ _ d _ => d

/-- Whether the parts of a node are laid out by what the node stands in. -/
def isOpen : Kind → Bool
  | .group | .function _ _ | .classBody _ | .classDecl _ | .typeParam _ _ _ => true
  | _ => false

/-- The views of the parts of a node, as far as its surroundings lay them out. -/
def parts : View → List View
  | .mk k _ _ ps => if isOpen k then ps else []

/-- Whether a part is left out. -/
def isAbsent (v : View) : Bool :=
  match v.kind with
  | .absent => true
  | _ => false

/-- The comments behind a node. -/
def trailing (v : View) : Doc := .comments .trailing v.span.hi

/-- A node with the comments behind it. -/
def shown (v : View) : Doc := v.bare ++ v.trailing

/-- The document of a part that may be left out. -/
def ifPresent (v : View) (doc : Doc) : Doc := if v.isAbsent then .empty else doc

/-! ### Lists -/

/-- The comments that lead the last byte of a node. They are found behind the node unless its
surroundings end with it. -/
def led (parent : Span) (v : View) : Doc :=
  if v.span.hi = parent.hi then .empty else .comments .leading (v.span.hi - 1)

/-- Views with a delimiter and a gap between them. -/
def delimited (delimiter : String) (gap : Doc) (parent : Span) (print : View → Doc) :
    List View → Doc
  | [] => .empty
  | [v] => print v ++ v.led parent
  | v :: w :: rest =>
    print v ++ v.led parent ++ delimiter ++ gap
      ++ delimited delimiter gap parent print (w :: rest)

/-- Views with commas between them, on one line. -/
def listed (parent : Span) (print : View → Doc) (views : List View) : Doc :=
  delimited "," " " parent print views

/-- Views with commas between them, on lines of their own. -/
def listedLines (parent : Span) (print : View → Doc) (views : List View) : Doc :=
  .line ++ .indented (delimited "," .line parent print views) ++ .line

/-- A type behind a colon, if there is one. -/
def annotation (type : View) : Doc := type.ifPresent (": " ++ type.bare)

end View

end PageRoutes.Syntax
