import PageRoutes.Route
/-!
# The routes module

The source text of the module that creates the router. The routing table stands in it as a literal
laid out like its JSON text, with one difference: the component of a node is no string but the
expression that imports the page.
-/

namespace PageRoutes

/-- How the router keeps the current route in the address. -/
inductive HistoryMode where
  | history
  | hash
  deriving DecidableEq, Repr

namespace HistoryMode

/-- The library function that makes a history of the mode. -/
def factory : HistoryMode → String
  | .history => "createWebHistory"
  | .hash => "createWebHashHistory"

/-- The name of the mode in options. -/
def name : HistoryMode → String
  | .history => "history"
  | .hash => "hash"

/-- The mode with a name. -/
def ofName? : String → Option HistoryMode
  | "history" => some .history
  | "hash" => some .hash
  | _ => none

end HistoryMode

namespace RoutesModule

/-- The library that the module imports. -/
def routerLibrary : String := "vue-router"

/-- A text moved to a deeper level: every line after the first gets the indentation. -/
def reindent (text indentation : String) : String :=
  String.ofList <| text.toList.flatMap fun c => if c = '\n' then c :: indentation.toList else [c]

/-- A node whose braces stand at `level`, from the texts of its nested routes. -/
def nodeText (level : Nat) (path : String) (component : Option DiskPath) (children : String)
    (metadata : Option Json) : String :=
  let field := Json.indentation (level + 1)
  let separator := ",\n" ++ field
  Json.indentation level ++ "\x7b\n" ++ field ++ "\x22path\x22: " ++ Json.quote path
    ++ (match component with
        | some file => separator ++ "\x22component\x22: " ++ importExpr file
        | none => "")
    ++ separator ++ "\x22children\x22: " ++ children
    ++ (match metadata with
        | some value =>
          separator ++ "\x22meta\x22: " ++ reindent (Json.pretty 0 value) field
        | none => "")
    ++ "\n" ++ Json.indentation level ++ "\x7d"

/-- A list of nodes between brackets, from the texts of its nodes. -/
def listText (level : Nat) (nodes : List String) : String :=
  if nodes.isEmpty then "[]"
  else "[\n" ++ String.intercalate ",\n" nodes ++ "\n" ++ Json.indentation level ++ "]"

mutual

/-- The literal of a node whose braces stand at `level`. -/
def node (level : Nat) : Route → String
  | ⟨path, component, children, metadata⟩ =>
    nodeText level path component (listText (level + 1) (nodes (level + 2) children)) metadata

/-- The literals of the nodes of a list. -/
def nodes (level : Nat) : List Route → List String
  | [] => []
  | r :: rest => node level r :: nodes level rest

end

/-- The literal of a routing table. -/
def tableLiteral (routes : List Route) : String := listText 0 (nodes 1 routes)

/-- The text of the whole module. -/
def render (routes : List Route) (mode : HistoryMode) : String :=
  "import \x7b createRouter, " ++ mode.factory ++ " \x7d from \x27" ++ routerLibrary ++ "\x27\n\n"
    ++ "const router = createRouter(\x7b\n"
    ++ "  history: " ++ mode.factory ++ "(),\n"
    ++ "  routes: " ++ tableLiteral routes ++ "\n"
    ++ "\x7d)\n\nexport default router\n"

end RoutesModule

end PageRoutes
