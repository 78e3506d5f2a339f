import PageRoutes.Json.Fault
/-!
# Places in a JSON text

A `Cursor` is the text still to be read together with the place that has been reached. A fault is
reported either at the place itself, when the offending character has been read, or one byte further
on, when it has only been looked at.
-/

namespace PageRoutes.Json

/-- The rest of a text and the place where it begins. -/
structure Cursor where
  rest : List Char
  line : Nat
  column : Nat
  deriving Repr

/-- What reading from a cursor gives. -/
abbrev Read (α : Type) := Except Fault (α × Cursor)

namespace Cursor

/-- The beginning of a text. -/
def ofText (s : String) : Cursor := ⟨s.toList, 1, 0⟩

/-- The place after one more character. -/
def step (c : Cursor) (x : Char) (rest : List Char) : Cursor :=
  if x == '\n' then ⟨rest, c.line + 1, 0⟩ else ⟨rest, c.line, c.column + x.utf8Size⟩

/-- Passes over one character, if there is one. -/
def skip (c : Cursor) : Cursor :=
  match c.rest with
  | x :: rest => c.step x rest
  | [] => c

/-- Passes over the longest run of characters of a class. -/
def skipWhile (p : Char → Bool) (c : Cursor) : Cursor :=
  go c.rest c
where
  go : List Char → Cursor → Cursor
    | x :: rest, c => if p x then go rest (c.step x rest) else c
    | [], c => c

/-- The four blanks of JSON. -/
def isBlank (x : Char) : Bool := x == ' ' || x == '\n' || x == '\t' || x == '\r'

/-- Passes over blanks. -/
def skipBlanks (c : Cursor) : Cursor := c.skipWhile isBlank

/-- The next character. -/
def peek? (c : Cursor) : Option Char := c.rest.head?

/-- The end of the text. -/
def toEnd (c : Cursor) : Cursor := c.skipWhile fun _ => true

/-- The place a number of bytes further on, which may be inside a character. -/
def placeAfter (bytes : Nat) (c : Cursor) : Nat × Nat :=
  go bytes c.rest (c.line, c.column)
where
  go (bytes : Nat) : List Char → Nat × Nat → Nat × Nat
    | x :: rest, place =>
      if bytes == 0 then place
      else if bytes < x.utf8Size then (place.1, place.2 + bytes)
      else go (bytes - x.utf8Size) rest
        (if x == '\n' then (place.1 + 1, 0) else (place.1, place.2 + x.utf8Size))
    | [], place => place

/-- A fault in what has been read. -/
def fail {α : Type} (c : Cursor) (cause : Cause) : Except Fault α :=
  .error ⟨cause, c.line, c.column⟩

/-- A fault in the character that is looked at. -/
def failNext {α : Type} (c : Cursor) (cause : Cause) : Except Fault α :=
  let place := c.placeAfter 1
  .error ⟨cause, place.1, place.2⟩

end Cursor

end PageRoutes.Json
