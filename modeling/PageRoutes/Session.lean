import PageRoutes.EntryFile
import PageRoutes.Project
/-!
# Build sessions

A build tool asks a session for its routes module and hands it the modules of the project. The
routes are generated once, when the tool has resolved its configuration; until then the session has
no module and changes none. An attempt that fails leaves the session as it was and may be repeated.

## Main definitions

* `Session.resolve` : fixes the root and generates the routes module.
* `Session.resolveId`, `Session.load` : the module as the build tool finds it.
* `Session.transform` : adds the router to the entry file and to no other.
-/

namespace PageRoutes

/-- What is fixed once the configuration is resolved. -/
structure Resolved where
  root : DiskPath
  routesModule : Option String

/-- A build session. -/
structure Session where
  options : Options
  resolved : Option Resolved := none

namespace Session

/-- The name under which the session takes part in a build. -/
def name : String := "vite-plugin-vue-convention-routes"

/-- The id that stands for the routes module inside the build tool. -/
def resolvedModuleId : String := "\x00" ++ EntryFile.routesModuleId

/-- The entry file, as seen from the root of a project. -/
def entryFile : DiskPath := ⟨"src/main.ts"⟩

/-- Fixes the root of the project and generates its routes module. This succeeds only once. -/
def resolve (session : Session) (disk : Disk) (workingDir root : DiskPath) :
    Except Fault Session :=
  match session.resolved with
  | some _ => .error .alreadyResolved
  | none =>
    (Project.routesModule ⟨root, session.options⟩ disk workingDir).map fun text =>
      { session with resolved := some ⟨root, text⟩ }

/-- The internal id of the routes module, if an import asks for that module. -/
def resolveId (id : String) : Option String :=
  if id = EntryFile.routesModuleId then some resolvedModuleId else none

/-- The text of the module with an internal id. -/
def load (session : Session) (id : String) : Option String :=
  if id = resolvedModuleId then session.resolved.bind Resolved.routesModule else none

/-- The path in a module id: what is before the first question mark. -/
def pathOfId (id : String) : DiskPath := ⟨String.ofList (id.toList.takeWhile (· ≠ '?'))⟩

/-- Whether a module id names the entry file of a project. -/
def isEntryFile (root : DiskPath) (id : String) : Bool :=
  (pathOfId id).equiv (root.join entryFile)

/-- The new text of a module, if the module is the entry file. -/
def transform (session : Session) (code id : String) : Except Fault (Option String) :=
  match session.resolved with
  | none => .ok none
  | some resolved =>
    if isEntryFile resolved.root id then (EntryFile.addRouter code (pathOfId id)).map some
    else .ok none

end Session

end PageRoutes
