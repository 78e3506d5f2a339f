import PageRoutes.Options
import PageRoutes.Scan
/-!
# The routes of a project

A project is a root directory with options. Its page directory, as seen from the root, is scanned
and the nested paths lose their leading slash, as a router wants them. An empty page directory
switches the routes module off.
-/

namespace PageRoutes

/-- A directory with the options for the pages inside it. -/
structure Project where
  root : DiskPath
  options : Options

namespace Project

/-- The page directory of a project in its normal form. -/
def pageDir (project : Project) (workingDir : DiskPath) : DiskPath :=
  DiskPath.absolutize workingDir (project.root.join project.options.pageDir)

/-- The routing table of a project. -/
def routes (project : Project) (disk : Disk) (workingDir : DiskPath) : Except Fault (List Route) :=
  (buildRouteTree disk workingDir (project.pageDir workingDir)).map Route.stripNested

/-- The text of a project's routes module, unless it is switched off. -/
def routesModule (project : Project) (disk : Disk) (workingDir : DiskPath) :
    Except Fault (Option String) :=
  if project.options.pageDir.text.isEmpty then .ok none
  else
    (project.routes disk workingDir).map fun routes =>
      some (RoutesModule.render routes project.options.historyMode)

end Project

end PageRoutes
