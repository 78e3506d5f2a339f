import PageRoutes.Fault
import PageRoutes.Syntax.Printer
/-!
# Source files

A module read from a source file, and pieces of program text added to it. An added piece has places
of its own behind those of the file, so that no comment of the file belongs to it; its own comments
are dropped.
-/

namespace PageRoutes.Source

open Syntax

/-- What a source file may contain. -/
def fileDialect : Dialect := ⟨true, true⟩

/-- What an added piece may contain. -/
def pieceDialect : Dialect := ⟨false, false⟩

/-- A fault of a text, as a fault of the file that holds it. -/
def faultIn (file : DiskPath) (f : FaultInLine) : Fault := .parse file f.line f.cause

/-- Reads a source file. A fault from which the reading could recover is a fault nevertheless. -/
def read (code : String) (file : DiskPath) : Except Fault Module :=
  (Module.ofText fileDialect false 1 code).mapError (faultIn file)

/-- The items of a module. -/
def items (m : Module) : List Node := m.tree.children

/-- A module with other items. -/
def withItems (m : Module) (items : List Node) : Module :=
  { m with tree := .mk m.tree.kind m.tree.span items }

/-- Adds a piece of program text behind the items of a module, and tells how many items it has. -/
def append (m : Module) (name : DiskPath) (text : String) : Except Fault (Module × Nat) :=
  match Module.ofText pieceDialect true (m.ending + 1) text with
  | .ok piece => .ok ({ withItems m (items m ++ items piece) with ending := piece.ending },
      (items piece).length)
  | .error f => .error (faultIn name f)

end PageRoutes.Source
