import PageRoutes.Fault
import PageRoutes.Route
import PageRoutes.Segment
import PageRoutes.Json.Reader
/-!
# Scanning a page directory

A page directory is read into a list of routes. Every directory below it becomes a folder node and
every file with the page extension a page node; a file `<name>.meta.json` beside them, with their
normalised name, gives their metadata. Entries are taken in the order of the bytes of their names,
and the first thing that goes wrong ends the scan. Names that are no text are passed over.

Symbolic links are followed. A path may cross forty of them, so a chain of links that leads back to
a directory above it comes to an end, and the recursion is on the number of links that are left and,
between two links, on the tree of entries.

## Main definitions

* `Scan.tree` : the routes of a directory, following no further link than `viaLink` does.
* `Scan.directory` : the routes of a directory with a number of links left.
* `buildRouteTree` : the routes of the directory that a path leads to.
-/

namespace PageRoutes

namespace Scan

/-- The extension of page files. -/
def pageExtension : String := "vue"

/-- The ending of the names of metadata files. -/
def metadataSuffix : String := ".meta.json"

/-- What the scan of one directory gives: its routes, and its index page if there is one. -/
structure Listing where
  routes : List Route
  indexPage : Option DiskPath

/-- A directory that is being scanned: its path as it was reached, the trail to it and the links
that may still be followed from it. -/
structure Spot where
  path : DiskPath
  trail : Disk.Trail
  linksLeft : Nat

/-- The scan of a directory that waits for the directory's place. -/
abbrev Scanner := Spot → Except Fault Listing

/-- The metadata beside a page or folder with a normalised name. -/
def sidecar (disk : Disk) (spot : Spot) (name : String) : Except Fault (Option Json) :=
  let fileName := name ++ metadataSuffix
  let path := spot.path.join ⟨fileName⟩
  match disk.walk spot.linksLeft (DiskPath.steps ⟨fileName⟩) spot.trail with
  | .ok (.found trail _) =>
    if (disk.current trail).isFile then
      match Disk.textOf (disk.current trail) with
      | .error cause => .error (.disk path cause)
      | .ok text =>
        match Json.parse text with
        | .error cause => .error (.metadata path cause)
        | .ok value => .ok (some value)
    else .ok none
  | _ => .ok none

/-- Inserts a named item into a list that is ordered by the bytes of the names. -/
def insertByName {α : Type} (item : Octets × α) : List (Octets × α) → List (Octets × α)
  | [] => [item]
  | first :: rest =>
    if item.1.le first.1 then item :: first :: rest else first :: insertByName item rest

/-- Orders named items by the bytes of their names. -/
def sortByName {α : Type} : List (Octets × α) → List (Octets × α)
  | [] => []
  | item :: rest => insertByName item (sortByName rest)

/-- Adds the node of a subdirectory to a listing. -/
def addFolder (disk : Disk) (spot : Spot) (dirName : String) (inside : Except Fault Listing)
    (listing : Listing) : Except Fault Listing := do
  let name := Segment.normalize dirName
  let nested ← inside
  let metadata ← sidecar disk spot name
  let node := Route.folder (Segment.routePath name) nested.indexPage nested.routes metadata
  .ok { listing with routes := listing.routes ++ [node] }

/-- Adds the node of a file to a listing, if it is a page. -/
def addFile (disk : Disk) (spot : Spot) (fileName : String) (listing : Listing) :
    Except Fault Listing :=
  let (stem, extension) := DiskPath.splitExtension fileName
  if extension = some pageExtension then do
    let name := Segment.normalize stem
    let metadata ← sidecar disk spot name
    let file := spot.path.join ⟨fileName⟩
    .ok ⟨listing.routes ++ [Route.page (Segment.routePath name) file metadata],
      if name = Segment.indexName then some file else listing.indexPage⟩
  else .ok listing

/-- A path as it is shown with the name of one of its entries. -/
def showEntry (path : DiskPath) (name : Octets) : String := (path.join ⟨name.display⟩).text

/-- Takes one entry of a directory into a listing. `inside` scans it where it is a directory itself,
and `viaLink` scans the directory that a link leads to. -/
def addEntry (disk : Disk) (spot : Spot) (viaLink : Scanner) (name : Octets) (entry : Entry)
    (inside : Scanner) (listing : Listing) : Except Fault Listing :=
  match entry with
  | .dir _ =>
    match name.text? with
    | none => .ok listing
    | some dirName =>
      addFolder disk spot dirName
        (inside ⟨spot.path.join ⟨dirName⟩, (name, entry) :: spot.trail, spot.linksLeft⟩) listing
  | .file _ =>
    match name.text? with
    | none => .ok listing
    | some fileName => addFile disk spot fileName listing
  | .link _ =>
    match disk.walk spot.linksLeft [.enter name] spot.trail >>= Disk.Place.existing with
    | .error cause => .error (.walk spot.path (.entry (showEntry spot.path name) cause))
    | .ok (trail, linksLeft) =>
      if (disk.current trail).isDir then
        if trail.names == spot.trail.names then
          .error (.walk spot.path (.loop (showEntry spot.path name) spot.path))
        else
          match name.text? with
          | none => .ok listing
          | some dirName =>
            addFolder disk spot dirName
              (viaLink ⟨spot.path.join ⟨dirName⟩, trail, linksLeft⟩) listing
      else
        match name.text? with
        | none => .ok listing
        | some fileName => addFile disk spot fileName listing

/-- Takes entries into a listing one after the other. -/
def addEntries (disk : Disk) (spot : Spot) (viaLink : Scanner) :
    List (Octets × Entry × Scanner) → Listing → Except Fault Listing
  | [], listing => .ok listing
  | (name, entry, inside) :: rest, listing =>
    match addEntry disk spot viaLink name entry inside listing with
    | .error fault => .error fault
    | .ok listing => addEntries disk spot viaLink rest listing

mutual

/-- Scans a directory entry; `viaLink` scans the directories that links lead to. -/
def tree (disk : Disk) (viaLink : Scanner) : Entry → Scanner
  | .dir entries => fun spot =>
    addEntries disk spot viaLink (sortByName (scanners disk viaLink entries)) ⟨[], none⟩
  | .file _ => fun _ => .ok ⟨[], none⟩
  | .link _ => fun _ => .ok ⟨[], none⟩

/-- The entries of a directory with their scanners. -/
def scanners (disk : Disk) (viaLink : Scanner) :
    List (Octets × Entry) → List (Octets × Entry × Scanner)
  | [] => []
  | (name, entry) :: rest => (name, entry, tree disk viaLink entry) :: scanners disk viaLink rest

end

/-- Scans the directory at a place where at most `links` links are left. Crossing a link always
takes one of them, so what a link leads to is scanned with a smaller bound. -/
def directory (disk : Disk) : (links : Nat) → Scanner
  | 0 => fun spot =>
    tree disk (fun spot => .error (.disk spot.path .tooManyLinks)) (disk.current spot.trail) spot
  | links + 1 => fun spot => tree disk (directory disk links) (disk.current spot.trail) spot

end Scan

/-- The routes of the directory that a path leads to. Nested paths still have their leading slash.
-/
def buildRouteTree (disk : Disk) (workingDir path : DiskPath) : Except Fault (List Route) :=
  match disk.find workingDir path with
  | .error _ => .error (.pageDirMissing path)
  | .ok (trail, linksLeft) =>
    if (disk.current trail).isDir then
      (Scan.directory disk linksLeft ⟨path, trail, linksLeft⟩).map Scan.Listing.routes
    else .error (.pageDirMissing path)

end PageRoutes
