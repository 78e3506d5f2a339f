import PageRoutes.DiskPath
/-!
# Disks

A disk is a finite tree of directories with files and symbolic links as leaves. Following a path
from a directory keeps the trail of directories that was taken, so that `..` leads back along it,
and a budget of symbolic links: at most forty of them are followed for one path, counting those met
inside the targets of others.

## Main definitions

* `Disk.walk` : follows moves from a trail within a budget of links.
* `Disk.locate` : the place that a path leads to.
* `Disk.readText` : the text of a file.
* `Disk.openFile`, `Disk.write` : a file is opened, and then written as far as its device takes it.
-/

namespace PageRoutes

/-- What a name in a directory stands for. -/
inductive Entry where
  | file (content : Octets)
  | link (target : DiskPath)
  | dir (entries : List (Octets × Entry))

/-- The contents of the root directory. -/
structure Disk where
  entries : List (Octets × Entry)

/-- What the system reports when a path cannot be used, or when a device does not take what is
written to an open file. -/
inductive DiskFault where
  | notFound
  | notDirectory
  | isDirectory
  | tooManyLinks
  | notText
  | noSpace
  | quotaExceeded
  | deviceFailed
  deriving DecidableEq, Repr

/-- A disk fault in words. -/
def DiskFault.message : DiskFault → String
  | .notFound => "No such file or directory (os error 2)"
  | .notDirectory => "Not a directory (os error 20)"
  | .isDirectory => "Is a directory (os error 21)"
  | .tooManyLinks => "Too many levels of symbolic links (os error 40)"
  | .notText => "stream did not contain valid UTF-8"
  | .noSpace => "No space left on device (os error 28)"
  | .quotaExceeded => "Disk quota exceeded (os error 122)"
  | .deviceFailed => "Input/output error (os error 5)"

namespace Entry

/-- Whether an entry is a directory. -/
def isDir : Entry → Bool
  | .dir _ => true
  | _ => false

/-- Whether an entry is a regular file. -/
def isFile : Entry → Bool
  | .file _ => true
  | _ => false

/-- The entries of a directory; other entries have none. -/
def entries : Entry → List (Octets × Entry)
  | .dir es => es
  | _ => []

/-- The entry with a name. -/
def child? (name : Octets) (e : Entry) : Option Entry :=
  (e.entries.find? fun r => r.1 = name).map Prod.snd

end Entry

namespace Disk

/-- The names and entries passed on the way from the root, the last one first. -/
abbrev Trail := List (Octets × Entry)

/-- The entry at the end of a trail. -/
def current (disk : Disk) : Trail → Entry
  | [] => .dir disk.entries
  | (_, e) :: _ => e

/-- The names of a trail from the root on. -/
def Trail.names (t : Trail) : List Octets := (t.map Prod.fst).reverse

/-- Where following a path ends. -/
inductive Place where
  /-- Something that is there, and how many more links may be followed from it. -/
  | found (trail : Trail) (linksLeft : Nat)
  /-- A free name in a directory. -/
  | vacant (parent : Trail) (name : Octets)

/-- Follows moves, and hands over to `follow` at a symbolic link. -/
def walkWith (disk : Disk) (linksLeft : Nat)
    (follow : List DiskPath.Step → Trail → Except DiskFault Place) :
    List DiskPath.Step → Trail → Except DiskFault Place
  | [], trail => .ok (.found trail linksLeft)
  | step :: rest, trail =>
    if !(disk.current trail).isDir then .error .notDirectory
    else
      match step with
      | .stay => walkWith disk linksLeft follow rest trail
      | .up => walkWith disk linksLeft follow rest (trail.drop 1)
      | .enter name =>
        match (disk.current trail).child? name with
        | none => if rest.isEmpty then .ok (.vacant trail name) else .error .notFound
        | some (.link target) =>
          if target.text.isEmpty then .error .notFound
          else follow (target.steps ++ rest) (if target.isAbsolute then [] else trail)
        | some e => walkWith disk linksLeft follow rest ((name, e) :: trail)

/-- Follows moves from a trail with at most the given number of symbolic links. -/
def walk (disk : Disk) : (links : Nat) → List DiskPath.Step → Trail → Except DiskFault Place
  | 0 => walkWith disk 0 fun _ _ => .error .tooManyLinks
  | links + 1 => walkWith disk (links + 1) (walk disk links)

/-- The number of symbolic links that one path may cross. -/
def linkLimit : Nat := 40

/-- The moves of a path from the root, seen from a working directory that no link leads through. -/
def stepsFrom (workingDir p : DiskPath) : List DiskPath.Step :=
  if p.isAbsolute then p.steps else workingDir.steps ++ p.steps

/-- The place that a path leads to. -/
def locate (disk : Disk) (workingDir p : DiskPath) : Except DiskFault Place :=
  if p.text.isEmpty then .error .notFound
  else disk.walk linkLimit (stepsFrom workingDir p) []

/-- The names of a place from the root on. -/
def Place.names : Place → List Octets
  | .found trail _ => trail.names
  | .vacant parent name => parent.names ++ [name]

/-- What is there at a place. -/
def Place.existing : Place → Except DiskFault (Trail × Nat)
  | .found trail links => .ok (trail, links)
  | .vacant _ _ => .error .notFound

/-- The trail to what a path leads to, with the links that are left. -/
def find (disk : Disk) (workingDir p : DiskPath) : Except DiskFault (Trail × Nat) :=
  disk.locate workingDir p >>= Place.existing

/-- The text of a file entry. -/
def textOf : Entry → Except DiskFault String
  | .file content =>
    match content.text? with
    | some s => .ok s
    | none => .error .notText
  | .dir _ => .error .isDirectory
  | .link _ => .error .notFound

/-- The text of the file that a path leads to. -/
def readText (disk : Disk) (workingDir p : DiskPath) : Except DiskFault String := do
  let (trail, _) ← disk.find workingDir p
  textOf (disk.current trail)

/-! ### Changing a disk -/

/-- Sets or removes the entry with a name among the entries of a directory. -/
def setName (name : Octets) (new : Option Entry) :
    List (Octets × Entry) → List (Octets × Entry)
  | [] => (new.map fun e => (name, e)).toList
  | (n, e) :: rest =>
    if n = name then (new.map fun e => (name, e)).toList ++ rest
    else (n, e) :: setName name new rest

/-- Sets or removes the entry at the end of a list of names; directories on the way are made as
needed. -/
def setAt (new : Option Entry) : List Octets → List (Octets × Entry) → List (Octets × Entry)
  | [], es => es
  | [name], es => setName name new es
  | name :: rest, es =>
    let inner := ((es.find? fun r => r.1 = name).map fun r => r.2.entries).getD []
    setName name (some (.dir (setAt new rest inner))) es

/-- The disk with the entry at the end of a list of names set or removed. -/
def set (disk : Disk) (names : List Octets) (new : Option Entry) : Disk :=
  ⟨setAt new names disk.entries⟩

/-- Opens a file for writing: it is made if its name is free and the directory is there, and emptied
otherwise. The result has the names of the file from the root on. -/
def openFile (disk : Disk) (workingDir p : DiskPath) : Except DiskFault (List Octets × Disk) := do
  let place ← disk.locate workingDir p
  let opened := disk.set place.names (some (.file (.text "")))
  match place with
  | .vacant _ _ => .ok (place.names, opened)
  | .found trail _ =>
    if (disk.current trail).isDir then .error .isDirectory else .ok (place.names, opened)

/-- What the device behind an open file does with bytes that are written to it. It takes all of
them, or it takes some, and then no more. -/
structure Device where
  /-- How many bytes are taken at most, and the fault that comes with the next one. -/
  refusal : Option (Nat × DiskFault) := none

/-- What a device takes of some bytes, and whether it reports a fault. -/
def Device.take (device : Device) (content : Octets) : Octets × Except DiskFault Unit :=
  match device.refusal with
  | none => (content, .ok ())
  | some (count, fault) =>
    if content.size ≤ count then (content, .ok ()) else (content.take count, .error fault)

/-- Writes a file. Where the file cannot be opened nothing happens. An open file keeps what its
device has taken, also if that was not all. -/
def write (disk : Disk) (workingDir p : DiskPath) (content : Octets) (device : Device := {}) :
    Except DiskFault Unit × Disk :=
  match disk.openFile workingDir p with
  | .error fault => (.error fault, disk)
  | .ok (names, opened) =>
    let (taken, result) := device.take content
    (result, opened.set names (some (.file taken)))

/-- Makes the directories that moves from the root pass through, as far as they are missing. The
first argument holds the moves already made, in reverse. -/
def makeDirs (disk : Disk) (made : List DiskPath.Step) : List DiskPath.Step → Disk
  | [] => disk
  | step :: rest =>
    let made := step :: made
    match disk.walk linkLimit made.reverse [] with
    | .ok (.vacant parent name) =>
      makeDirs (disk.set (parent.names ++ [name]) (some (.dir []))) made rest
    | _ => makeDirs disk made rest

/-- Puts an entry where moves from the root lead, with the directories on the way. A file goes where
a link in its place points; a link or directory takes the name itself. -/
def plant (disk : Disk) (moves : List DiskPath.Step) (e : Entry) : Disk :=
  if e.isDir then disk.makeDirs [] moves
  else
    let disk := disk.makeDirs [] moves.dropLast
    match e, disk.walk linkLimit moves [] with
    | .file _, .ok (.found trail _) => disk.set trail.names (some e)
    | .file _, .ok (.vacant parent name) => disk.set (parent.names ++ [name]) (some e)
    | _, _ =>
      match disk.walk linkLimit moves.dropLast [], moves.getLast? with
      | .ok (.found parent _), some (.enter name) =>
        disk.set (Trail.names parent ++ [name]) (some e)
      | _, _ => disk

/-- Removes what a path names, with everything inside it. A link is removed itself. -/
def remove (disk : Disk) (moves : List DiskPath.Step) : Disk :=
  match disk.walk linkLimit moves.dropLast [], moves.getLast? with
  | .ok (.found parent _), some (.enter name) => disk.set (Trail.names parent ++ [name]) none
  | _, _ => disk

end Disk

end PageRoutes
