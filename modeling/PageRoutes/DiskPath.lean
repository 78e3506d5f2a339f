import PageRoutes.Text.Octets
/-!
# Paths

A path is a text; what it names is decided by its components. Doubled slashes, a trailing slash and
inner `.` components do not count, while a leading `.` and every `..` do: two paths are equivalent
when their components agree. Absolute paths can be brought into a normal form in which every `..`
has been resolved against the component before it, without looking at any disk.

## Main definitions

* `DiskPath.components` : what a path is made of.
* `DiskPath.equiv` : equality of paths up to their spelling.
* `DiskPath.join`, `DiskPath.absolutize` : paths relative to another path.
* `DiskPath.steps` : the moves by which a path is followed on a disk.
-/

namespace PageRoutes

/-- A path, absolute or relative, as it is spelled. -/
structure DiskPath where
  text : String
  deriving DecidableEq, Repr

namespace DiskPath

/-- A part of a path. -/
inductive Component where
  | root
  | here
  | up
  | name (s : String)
  deriving DecidableEq, Repr

/-- The pieces of a text between slashes, empty ones included. -/
def pieces : List Char → List (List Char)
  | [] => [[]]
  | c :: rest =>
    if c = '/' then [] :: pieces rest
    else
      match pieces rest with
      | [] => [[c]]
      | piece :: more => (c :: piece) :: more

/-- Whether a path begins at the root. -/
def isAbsolute (p : DiskPath) : Bool := p.text.toList.head? == some '/'

/-- What one piece contributes to the components. -/
def ofPiece (piece : List Char) : List Component :=
  if piece.isEmpty || piece == ['.'] then []
  else if piece == ['.', '.'] then [.up]
  else [.name (String.ofList piece)]

/-- The components of a path. -/
def components (p : DiskPath) : List Component :=
  let inner := (pieces p.text.toList).flatMap ofPiece
  if p.isAbsolute then .root :: inner
  else if (pieces p.text.toList).head? == some ['.'] then .here :: inner
  else inner

/-- Whether two paths have the same components. -/
def equiv (p q : DiskPath) : Bool := p.components == q.components

/-- The path `q` as seen from `p`: an absolute `q` stands for itself. -/
def join (p q : DiskPath) : DiskPath :=
  if q.isAbsolute || p.text.isEmpty then q
  else if p.text.toList.getLast? == some '/' then ⟨p.text ++ q.text⟩
  else ⟨p.text ++ "/" ++ q.text⟩

/-- Resolves components onto a stack of names, with its top first. At the root `..` stays there. -/
def resolve (stack : List String) : List Component → List String
  | [] => stack
  | .root :: rest => resolve [] rest
  | .here :: rest => resolve stack rest
  | .up :: rest => resolve (stack.drop 1) rest
  | .name s :: rest => resolve (s :: stack) rest

/-- The absolute path with the given names. -/
def ofNames (names : List String) : DiskPath := ⟨"/" ++ String.intercalate "/" names⟩

/-- The normal form of a path seen from a working directory. -/
def absolutize (workingDir p : DiskPath) : DiskPath :=
  ofNames (resolve [] (workingDir.components ++ p.components)).reverse

/-! ### File names -/

/-- A file name cut at its last dot: what is before it, and the extension after it. A dot at the
beginning is no cut, and neither is one in `..`. -/
def splitExtension (name : String) : String × Option String :=
  let reversed := name.toList.reverse
  let after := (reversed.takeWhile (· ≠ '.')).reverse
  match reversed.dropWhile (· ≠ '.') with
  | _ :: before =>
    if before.isEmpty || name = ".." then (name, none)
    else (String.ofList before.reverse, some (String.ofList after))
  | [] => (name, none)

/-! ### Following a path -/

/-- One move on a disk: staying, which asks for a directory, going up, or entering a name. -/
inductive Step where
  | stay
  | up
  | enter (name : Octets)
  deriving DecidableEq

/-- The moves of a path from its starting directory. A trailing slash asks for a directory. -/
def steps (p : DiskPath) : List Step :=
  (pieces p.text.toList).map fun piece =>
    if piece.isEmpty || piece == ['.'] then .stay
    else if piece == ['.', '.'] then .up
    else .enter (.text (String.ofList piece))

end DiskPath

end PageRoutes
