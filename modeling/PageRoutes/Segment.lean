import PageRoutes.Text.LetterCase
/-!
# Route segments

The part of a route that one file or folder name stands for. A name is normalised to kebab case;
a normalised name is then turned into a path. In a path a bracket group `[x]` of the name becomes
the parameter `:x`, a name without groups becomes `/name`, and the name `index` becomes the empty
path, so that an index page takes the path of its folder.

## Main definitions

* `Segment.normalize` : the kebab-case, lower-case form of a name.
* `Segment.dynamicPath?` : the path of a name that contains a bracket group.
* `Segment.routePath` : the path of any name.
-/

namespace PageRoutes.Segment

/-- The name of the page that stands for its folder. -/
def indexName : String := "index"

/-! ### Kebab case -/

/-- Whether two neighbouring characters form a camel-case boundary. Only ASCII letters do. -/
def isBoundary (a b : Char) : Bool := a.isLower && b.isUpper

/-- Puts a hyphen into every camel-case boundary. -/
def hyphenate : List Char → List Char
  | a :: b :: rest =>
    if isBoundary a b then a :: '-' :: hyphenate (b :: rest) else a :: hyphenate (b :: rest)
  | cs => cs

/-- The normalised form of a file or folder name. -/
def normalize (name : String) : String :=
  String.ofList (LetterCase.toLower (hyphenate name.toList))

/-! ### Bracket groups -/

/-- A character outside every bracket group, or one group as a whole. -/
inductive Mark where
  | literal (c : Char)
  | param (name : List Char)
  deriving DecidableEq, Repr

/-- Whether a mark is a bracket group. -/
def Mark.isParam : Mark → Bool
  | .literal _ => false
  | .param _ => true

/-- The marks of a name, read from left to right. The first argument is the text since a `[` that
may still open a group, in reverse. A second `[` before the `]`, or the end of the name, shows that
it does not, and the text then stands for itself. -/
def marksFrom : Option (List Char) → List Char → List Mark
  | none, [] => []
  | some pending, [] => .literal '[' :: pending.reverse.map .literal
  | none, '[' :: rest => marksFrom (some []) rest
  | none, c :: rest => .literal c :: marksFrom none rest
  | some pending, '[' :: rest =>
    .literal '[' :: pending.reverse.map .literal ++ marksFrom (some []) rest
  | some pending, ']' :: rest => .param pending.reverse :: marksFrom none rest
  | some pending, c :: rest => marksFrom (some (c :: pending)) rest

/-- The marks of a whole name. -/
def marks (name : List Char) : List Mark := marksFrom none name

/-- Writes marks as path text. A slash separates two groups with nothing between them. -/
def writeMarks (afterParam : Bool) : List Mark → List Char
  | [] => []
  | .literal c :: rest => c :: writeMarks false rest
  | .param name :: rest =>
    (if afterParam then ['/'] else []) ++ ':' :: name ++ writeMarks true rest

/-- The path of a name with at least one bracket group. -/
def dynamicPath? (name : String) : Option String :=
  let ms := marks name.toList
  if ms.any Mark.isParam then some (String.ofList ('/' :: writeMarks false ms)) else none

/-- The path of a normalised name, with its leading slash. -/
def routePath (name : String) : String :=
  match dynamicPath? name with
  | some path => path
  | none => if name = indexName then "" else "/" ++ name

end PageRoutes.Segment
