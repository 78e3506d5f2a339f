import PageRoutes.Disk
import PageRoutes.Syntax.Fault
/-!
# Faults

Everything that can end the making of routes or the change of an entry file, with the words in which
it is reported.
-/

namespace PageRoutes

/-- Why a directory could not be listed. -/
inductive WalkFault where
  /-- An entry, as it is shown, whose target cannot be reached. -/
  | entry (shown : String) (cause : DiskFault)
  /-- A link, as it is shown, that leads back to the listed directory. -/
  | loop (shown : String) (ancestor : DiskPath)

/-- A listing fault in words. -/
def WalkFault.message : WalkFault → String
  | .entry shown cause => "IO error for operation on " ++ shown ++ ": " ++ cause.message
  | .loop shown ancestor =>
    "File system loop found: " ++ shown ++ " points to an ancestor " ++ ancestor.text

/-- A fault of the library. -/
inductive Fault where
  | disk (path : DiskPath) (cause : DiskFault)
  | walk (path : DiskPath) (cause : WalkFault)
  | pageDirMissing (path : DiskPath)
  | metadata (path : DiskPath) (cause : Json.Fault)
  | options (path : DiskPath) (cause : Json.Fault)
  | parse (file : DiskPath) (line : Nat) (cause : Syntax.Cause)
  | bootstrapNotFound (file : DiskPath)
  | routerBindingConflict (file : DiskPath)
  | alreadyResolved

/-- A fault in words. -/
def Fault.message : Fault → String
  | .disk path cause => "IO error at " ++ path.text ++ ": " ++ cause.message
  | .walk path cause => "failed to list directory " ++ path.text ++ ": " ++ cause.message
  | .pageDirMissing path => "page directory not found: " ++ path.text
  | .metadata path cause => "invalid route metadata in " ++ path.text ++ ": " ++ cause.message
  | .options path cause => "invalid options file " ++ path.text ++ ": " ++ cause.message
  | .parse file line cause =>
    "Parse error in file " ++ file.text ++ " (line " ++ toString line ++ "): " ++ cause.message
  | .bootstrapNotFound file => "bootstrap call `createApp(App)` not found in " ++ file.text
  | .routerBindingConflict file =>
    "`router` is already declared in " ++ file.text ++ " and does not come from the routes module"
  | .alreadyResolved => "routes were already generated for this build session"

end PageRoutes
