import PageRoutes.Syntax.Parser
import PageRoutes.Syntax.Printer.Modules
/-!
# Printing a module

A module is printed in one fixed layout, whatever its text looked like before: four spaces for every
level, one statement a line, no blank lines. Names and literals keep their spelling, and comments
stand where the tokens are that they belong to.

## Main definitions

* `Node.view` : a tree with the documents of all its nodes.
* `Module.print` : the text of a module.
-/

namespace PageRoutes.Syntax

mutual

/-- A node as the printer sees it. -/
def Node.view : Node → View
  | .mk kind span children =>
    let parts := viewAll children
    .mk kind span (.comments .leading span.lo ++ View.moduleDoc kind span parts) parts

/-- The nodes of a list as the printer sees them. -/
def viewAll : List Node → List View
  | [] => []
  | n :: rest => n.view :: viewAll rest

end

/-- The text of a module. -/
def Module.print (m : Module) : String := m.tree.view.bare.render m.comments

end PageRoutes.Syntax
