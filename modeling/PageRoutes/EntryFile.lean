import PageRoutes.Source
/-!
# The router in the entry file

The entry file of a project creates the application by the call `createApp(App)`. The router is
added by `.use(router)` behind the first such call and by an import from the routes module in front
of all other items. What is there already is left alone; if all is there, the text does not change.

## Main definitions

* `EntryFile.wrap` : a tree whose first call that creates the application uses the router.
* `EntryFile.addRouter` : the text of an entry file whose application uses the router.
-/

namespace PageRoutes.EntryFile

open Syntax

/-- The id of the routes module in an import. -/
def routesModuleId : String := "virtual:convention-import-routes"

/-- The local name of the router. -/
def routerName : String := "router"

/-! ### Calls -/

/-- Whether a node is an expression that is nothing but a name. -/
def isName (name : String) (n : Node) : Bool := n.identName? == some name

/-- Whether a node is a call of `createApp` whose first argument is `App`. -/
def isBootstrap : Node → Bool
  | .mk .call _ [callee, .mk .group _ (first :: _), _] =>
    isName "createApp" callee && isName "App" first
  | _ => false

/-- The expression that an argument passes, alone or spread out. -/
def argumentValue : Node → Node
  | .mk .spread _ [value] => value
  | n => n

/-- Whether a node is the call of `createApp` together with the use of the router. -/
def isRouterUse : Node → Bool
  | .mk .call _ [.mk .member _ [object, .mk (.name method _) _ _], .mk .group _ [argument], _] =>
    method == "use" && isBootstrap object && isName routerName (argumentValue argument)
  | _ => false

/-- A call, with the use of the router behind it. -/
def useRouter (call : Node) : Node :=
  let method : Node := .mk (.name "use" false) .none []
  let router : Node := .mk (.ident routerName) .none []
  .mk .call call.span
    [.mk .member call.span [call, method], .group [router], .absent]

/-- What has become of the call that creates the application: none was met so far, one was made to
use the router, or one was met that uses it already. -/
inductive Bootstrap where
  | missing
  | wrapped
  | alreadyWrapped
  deriving DecidableEq, Repr

mutual

/-- Goes through a tree and wraps the first call that creates the application. A node comes before
its parts. Once a call has been met, nothing changes any more. -/
def wrap (state : Bootstrap) : Node → Bootstrap × Node
  | .mk kind span children =>
    let n := Node.mk kind span children
    if state ≠ .missing then (state, n)
    else if isRouterUse n then (.alreadyWrapped, n)
    else if isBootstrap n then (.wrapped, useRouter n)
    else
      let (state, new) := wrapAll state children
      (state, .mk kind span new)

/-- Goes through trees one after the other. -/
def wrapAll (state : Bootstrap) : List Node → Bootstrap × List Node
  | [] => (state, [])
  | n :: rest =>
    let (state, new) := wrap state n
    let (state, others) := wrapAll state rest
    (state, new :: others)

end

/-! ### Names at the top of a module -/

/-- Whether a node is the name of the router. -/
def isRouter (name : Node) : Bool := name.nameText? == some routerName

/-- The name that a specifier of an import brings into the module. -/
def localName (specifier : Node) : Node := (specifier.children.getLast?).getD .absent

/-- Whether a specifier imports the default of a module as the router. -/
def importsDefault : Node → Bool
  | .mk .importDefault _ [name] => isRouter name
  | _ => false

/-- Whether an item imports the router from the routes module. -/
def importsRouter : Node → Bool
  | .mk (.importDecl _) _ [.mk .group _ specifiers, .mk (.stringLit source _) _ _, _] =>
    source == routesModuleId && specifiers.any importsDefault
  | _ => false

/-- Whether a declarator declares the router, and not only by a part of a pattern. -/
def bindsRouter : Node → Bool
  | .mk .declarator _ (.mk .bindingName _ (name :: _) :: _) => isRouter name
  | _ => false

/-- Whether a declaration declares the router. -/
def isRouterDecl : Node → Bool
  | .mk (.varDecl _ _) _ declarators => declarators.any bindsRouter
  | .mk (.fnDecl _) _ (name :: _) => isRouter name
  | .mk (.classDecl _) _ (name :: _) => isRouter name
  | _ => false

/-- Whether an item gives the name of the router to something. -/
def declaresRouter : Node → Bool
  | .mk (.importDecl _) _ (.mk .group _ specifiers :: _) => specifiers.any (isRouter ∘ localName)
  | .mk .exportDecl _ [decl] => isRouterDecl decl
  | item => isRouterDecl item

/-! ### The new text -/

/-- The import of the router. -/
def routerImport : Node :=
  let name : Node := .mk (.name routerName false) .none []
  let source : Node := .mk (.stringLit routesModuleId ("\x27" ++ routesModuleId ++ "\x27")) .none []
  .mk (.importDecl false) .none [.group [.mk .importDefault .none [name]], source, .absent]

/-- A module that imports the router. -/
def withImport (hasImport : Bool) (m : Module) : Module :=
  if hasImport then m else Source.withItems m (routerImport :: Source.items m)

/-- The text of an entry file whose application uses the router. The file must have a call that
creates the application, and the name of the router must not stand for anything else. -/
def addRouter (code : String) (file : DiskPath) : Except Fault String :=
  (Source.read code file).bind fun m =>
    let hasImport := (Source.items m).any importsRouter
    if !hasImport && (Source.items m).any declaresRouter then .error (.routerBindingConflict file)
    else
      let (state, tree) := wrap .missing m.tree
      match state with
      | .missing => .error (.bootstrapNotFound file)
      | .alreadyWrapped =>
        .ok (if hasImport then code else (withImport hasImport { m with tree }).print)
      | .wrapped => .ok (withImport hasImport { m with tree }).print

end PageRoutes.EntryFile
