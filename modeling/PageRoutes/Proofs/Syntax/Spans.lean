import PageRoutes.Proofs.Syntax.Position
/-!
# Trees without ranges

Two texts that differ in their layout only are read as trees that differ in the ranges of their
nodes only. Without the ranges the two trees are the same.

## Main definitions

* `Node.withoutSpans` : a tree whose nodes have all lost their ranges.

## Main results

* `Node.kind_withoutSpans`, `Node.children_withoutSpans` : nothing else is lost.
-/

namespace PageRoutes.Syntax

deriving instance DecidableEq for Kind

namespace Node

mutual

/-- A tree without the ranges of its nodes. -/
def withoutSpans : Node → Node
  | .mk kind _ children => .mk kind .none (allWithoutSpans children)

/-- Trees without the ranges of their nodes. -/
def allWithoutSpans : List Node → List Node
  | [] => []
  | n :: rest => n.withoutSpans :: allWithoutSpans rest

end

theorem allWithoutSpans_eq_map (nodes : List Node) :
    allWithoutSpans nodes = nodes.map withoutSpans := by
  induction nodes with
  | nil => rfl
  | cons n rest ih => rw [allWithoutSpans, ih, List.map_cons]

@[simp] theorem kind_withoutSpans (n : Node) : n.withoutSpans.kind = n.kind := by
  cases n
  rw [withoutSpans, kind, kind]

@[simp] theorem children_withoutSpans (n : Node) :
    n.withoutSpans.children = n.children.map withoutSpans := by
  cases n
  rw [withoutSpans, children, children, allWithoutSpans_eq_map]

@[simp] theorem identName?_withoutSpans (n : Node) : n.withoutSpans.identName? = n.identName? := by
  rw [identName?, identName?, kind_withoutSpans]

@[simp] theorem nameText?_withoutSpans (n : Node) : n.withoutSpans.nameText? = n.nameText? := by
  rw [nameText?, nameText?, kind_withoutSpans]

/-! ### Trees that can be compared -/

mutual

/-- Whether two trees are the same. -/
def decEq : (a b : Node) → Decidable (a = b)
  | .mk kind span children, .mk kind' span' children' =>
    have := decEqAll children children'
    decidable_of_iff (kind = kind' ∧ span = span' ∧ children = children') (by rw [mk.injEq])

/-- Whether two lists of trees are the same. -/
def decEqAll : (as bs : List Node) → Decidable (as = bs)
  | [], [] => isTrue rfl
  | [], _ :: _ => isFalse nofun
  | _ :: _, [] => isFalse nofun
  | a :: as, b :: bs =>
    have := decEq a b
    have := decEqAll as bs
    decidable_of_iff (a = b ∧ as = bs) (by rw [List.cons.injEq])

end

instance : DecidableEq Node := decEq

end Node

end PageRoutes.Syntax
