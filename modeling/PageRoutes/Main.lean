import PageRoutes.CommandLine
/-!
# The program

The command line on a real disk. A run first copies what it may read, computes its one effect from
that copy, and then lets the effect happen.
-/

namespace PageRoutes.Main

/-- What an entry of a directory is, and the targets of the links in it. A link counts as one to the
place where it leads in the end. -/
partial def copied (found : IO.FS.DirEntry) : IO (Option (Entry × List DiskPath)) := do
  match (← found.path.symlinkMetadata).type with
  | .file => return some (.file (Octets.ofBytes (← IO.FS.readBinFile found.path)), [])
  | .symlink =>
    try
      let target : DiskPath := ⟨(← IO.FS.realPath found.path).toString⟩
      return some (.link target, [target])
    catch _ => return some (.link ⟨""⟩, [])
  | .dir =>
    let mut entries := []
    let mut targets := []
    for inner in ← found.path.readDir do
      if let some (entry, more) ← copied inner then
        entries := entries ++ [(Octets.text inner.fileName, entry)]
        targets := targets ++ more
    return some (.dir entries, targets)
  | .other => return none

/-- A copy of what is at some paths and at the targets of the links there, added to a disk. What
cannot be read is left out. -/
partial def withCopies (workingDir : DiskPath) (disk : Disk) : List DiskPath → IO Disk
  | [] => return disk
  | path :: rest => do
    let place := DiskPath.absolutize workingDir path
    if (disk.find workingDir place).toOption.isSome then return ← withCopies workingDir disk rest
    try
      let real := (← IO.FS.realPath place.text).toString
      let names := place.components.filterMap fun
        | .name s => some (Octets.text s)
        | _ => none
      if real ≠ place.text then
        withCopies workingDir (disk.set names (some (.link ⟨real⟩))) (⟨real⟩ :: rest)
      else
        match ← copied ⟨"/", place.text⟩ with
        | some (entry, targets) =>
          withCopies workingDir (disk.set names (some entry)) (targets ++ rest)
        | none => withCopies workingDir disk rest
    catch _ => withCopies workingDir disk rest

/-- Lets an effect happen. -/
def carryOut : CommandLine.Effect → IO Unit
  | .print text => IO.print text
  | .write path text => IO.FS.writeFile path.text text

/-- Reports a failure; the result is the exit code. -/
def report (failure : CommandLine.Failure) : IO UInt32 := do
  IO.eprintln failure.message
  return UInt32.ofNat failure.exitCode

end PageRoutes.Main

open PageRoutes PageRoutes.Main in
/-- The program. -/
def main (args : List String) : IO UInt32 := do
  let workingDir : DiskPath := ⟨(← IO.currentDir).toString⟩
  match CommandLine.read args with
  | .error failure => report failure
  | .ok request =>
    let files ← withCopies workingDir ⟨[]⟩ request.files
    let disk ← withCopies workingDir files (request.scanned? files workingDir).toList
    match CommandLine.perform request disk workingDir with
    | .error failure => report failure
    | .ok effect =>
      carryOut effect
      return 0
