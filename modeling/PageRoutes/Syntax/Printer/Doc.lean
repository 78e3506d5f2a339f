import PageRoutes.Syntax.Comments
/-!
# Documents

What a printer is told to print: texts and ends of lines, deeper indentation, and the places whose
comments belong here. A document says nothing about comments themselves. They are taken from a store
while the document is printed, and since a place loses its comments when they are printed, a
document may name the same place more than once.

## Main definitions

* `Doc` : documents; they are joined by `++`, and a string stands for its text.
* `Doc.run` : prints a document.
* `Doc.render` : the text of a document.
-/

namespace PageRoutes.Syntax

/-- What is printed. -/
inductive Doc where
  | empty
  | text (text : String)
  /-- The end of the line, if anything stands on the line. -/
  | line
  | indented (inner : Doc)
  /-- The comments that lead or trail a place. -/
  | comments (side : Side) (place : Nat)
  | append (first second : Doc)
  /-- One of two documents, by whether a comment is left that leads a place and passes a test. -/
  | ifLed (test : Comment → Bool) (place : Nat) (yes no : Doc)

instance : Append Doc := ⟨Doc.append⟩

instance : Coe String Doc := ⟨Doc.text⟩

/-- What has been printed, and what is left to print from. -/
structure PrintState where
  out : String := ""
  isLineStart : Bool := true
  depth : Nat := 0
  comments : Comments

namespace PrintState

/-- The indentation at a depth. -/
def indentation (depth : Nat) : String := String.ofList (List.replicate (4 * depth) ' ')

/-- Prints a text; before the first text of a line stands the indentation. -/
def write (text : String) (s : PrintState) : PrintState :=
  if text.isEmpty then s
  else if s.isLineStart then
    { s with out := s.out ++ indentation s.depth ++ text, isLineStart := false }
  else { s with out := s.out ++ text }

/-- Ends the line if anything stands on it. -/
def endLine (s : PrintState) : PrintState :=
  if s.isLineStart then s else { s with out := s.out ++ "\n", isLineStart := true }

/-- Prints a comment. A space stands before it if it trails something. A comment between marks is
followed by a space, any other by the end of the line. -/
def writeComment (side : Side) (s : PrintState) (c : Comment) : PrintState :=
  let s :=
    match side with
    | .leading => s
    | .trailing => s.write " "
  if c.isBlock then s.write ("/*" ++ c.text ++ "*/ ") else (s.write ("//" ++ c.text)).endLine

/-- Prints the comments on a side of a place and takes them from the store. What was not read from a
text has the place zero, which has no comments. -/
def writeComments (side : Side) (place : Nat) (s : PrintState) : PrintState :=
  if place = 0 then s
  else
    (s.comments.atPlace side place).foldl (writeComment side)
      { s with comments := s.comments.remove side place }

end PrintState

namespace Doc

/-- Prints a document. -/
def run : Doc → PrintState → PrintState
  | .empty, s => s
  | .text t, s => s.write t
  | .line, s => s.endLine
  | .indented inner, s => { inner.run { s with depth := s.depth + 1 } with depth := s.depth }
  | .comments side place, s => s.writeComments side place
  | .append first second, s => second.run (first.run s)
  | .ifLed test place yes no, s =>
    if (s.comments.atPlace .leading place).any test then yes.run s else no.run s

/-- The text of a document, with the comments that it has places for. -/
def render (doc : Doc) (comments : Comments) : String := (doc.run { comments }).out

/-- A document that stands only under a condition. -/
def when (condition : Bool) (doc : Doc) : Doc := if condition then doc else .empty

/-- Documents one after the other. -/
def concat (docs : List Doc) : Doc := docs.foldr .append .empty

/-- Documents one after the other with another one between them. -/
def separated (separator : Doc) : List Doc → Doc
  | [] => .empty
  | [d] => d
  | d :: e :: docs => d ++ separator ++ separated separator (e :: docs)

/-- Documents on lines of their own, indented. The first of the lines is the one after this one. -/
def lines (docs : List Doc) : Doc := .line ++ .indented (separated .line docs) ++ .line

end Doc

end PageRoutes.Syntax
