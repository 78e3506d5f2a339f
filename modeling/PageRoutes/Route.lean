import PageRoutes.DiskPath
import PageRoutes.Json.Writer
/-!
# Routes

A node of a routing table: a path, the page that is shown for it, nested routes and metadata. Nodes
are made from page files and from folders. A page has no nested routes. A folder drops every child
that has an empty path and the folder's own component, for such a child says nothing that the folder
does not say already.

## Main definitions

* `Route.page`, `Route.folder` : the two ways to make a node.
* `Route.stripNested` : removes the leading slash of nested paths.
* `Route.toJson` : a node as a JSON value.
-/

namespace PageRoutes

/-- The expression that imports a page when its route is first visited. Backslashes and single
quotes of the path are escaped. -/
def importExpr (page : DiskPath) : String :=
  let escape (c : Char) : List Char :=
    if c == '\\' then ['\\', '\\'] else if c == '\x27' then ['\\', '\x27'] else [c]
  "() => import(\x27" ++ String.ofList (page.text.toList.flatMap escape) ++ "\x27)"

/-- A node of a routing table. -/
structure Route where
  path : String
  /-- The file of the page that is shown. -/
  component : Option DiskPath
  children : List Route
  metadata : Option Json

namespace Route

/-- Whether two nodes show the same page, or none. Pages are compared by their paths' components. -/
def sameComponent : Option DiskPath → Option DiskPath → Bool
  | some p, some q => p.equiv q
  | none, none => true
  | _, _ => false

/-- The node of a page file. -/
def page (path : String) (file : DiskPath) (metadata : Option Json) : Route :=
  ⟨path, some file, [], metadata⟩

/-- Whether a child of a folder repeats the folder's own component under an empty path. -/
def isRedundant (component : Option DiskPath) (child : Route) : Bool :=
  child.path.isEmpty && sameComponent child.component component

/-- The node of a folder, without the children that repeat its component. -/
def folder (path : String) (component : Option DiskPath) (children : List Route)
    (metadata : Option Json) : Route :=
  ⟨path, component, children.filter fun child => !isRedundant component child, metadata⟩

/-! ### Separators -/

/-- A path without one leading slash. -/
def stripSlash (path : String) : String :=
  match path.toList with
  | '/' :: rest => String.ofList rest
  | _ => path

mutual

/-- A node and everything below it, each path without its leading slash. -/
def strip : Route → Route
  | ⟨path, component, children, metadata⟩ =>
    ⟨stripSlash path, component, stripAll children, metadata⟩

/-- `strip` for every node of a list. -/
def stripAll : List Route → List Route
  | [] => []
  | r :: rest => strip r :: stripAll rest

end

/-- Removes the leading slash of every path below the top level, where a router reads paths relative
to their parents. -/
def stripNested (routes : List Route) : List Route :=
  routes.map fun r => { r with children := stripAll r.children }

/-! ### As JSON -/

mutual

/-- A node as a JSON object. Members that a node does not have are left out. -/
def toJson : Route → Json
  | ⟨path, component, children, metadata⟩ =>
    .object <|
      [("path", .string path)]
        ++ (component.map fun file => ("component", Json.string file.text)).toList
        ++ [("children", .array (allToJson children))]
        ++ (metadata.map fun value => ("meta", value)).toList

/-- `toJson` for every node of a list. -/
def allToJson : List Route → List Json
  | [] => []
  | r :: rest => toJson r :: allToJson rest

end

/-- The text of a routing table as JSON. -/
def tableText (routes : List Route) : String := Json.pretty 0 (.array (allToJson routes))

end Route

end PageRoutes
