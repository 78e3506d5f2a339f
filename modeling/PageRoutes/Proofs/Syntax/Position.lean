import Mathlib.Data.List.Basic
import PageRoutes.Syntax.Node
/-!
# Places in a syntax tree

A node of a tree is addressed by the indices of the parts on the way to it, so that the empty
address is that of the tree itself. The nodes in the order in which a search visits them come with
their addresses: a node is before its parts, and everything in a part is before the next part.

Putting a node at an address leaves everything alone that is neither on the way to the address nor
below it. The nodes on the way keep their kinds and ranges.

## Main definitions

* `Node.at?` : the node at an address.
* `Node.replaceAt` : a tree with another node at an address.
* `Node.visited` : the nodes of a tree in the order of a search, with their addresses.

## Main results

* `Node.mem_visited_iff`, `Node.pairwise_visited` : every node is visited once, and addresses come
  in lexicographic order.
* `Node.at?_replaceAt_self`, `Node.at?_replaceAt_of_not_prefix`, `Node.at?_replaceAt_of_prefix` :
  the nodes of a tree with another node at an address.-/

namespace PageRoutes.Syntax.Node

/-- An induction over syntax trees in which a node comes after its parts. -/
theorem induct {P : Node → Prop}
    (mk : ∀ kind span children, (∀ n ∈ children, P n) → P (.mk kind span children)) (n : Node) :
    P n :=
  Node.rec (motive_2 := fun children ↦ ∀ n ∈ children, P n) (fun kind span children ih ↦
    mk kind span children ih) (fun _ h ↦ nomatch h)
    (fun _ _ hn hrest ↦ List.forall_mem_cons.mpr ⟨hn, hrest⟩) n

/-- The way to a node: the index of a part, the index of a part of that part, and so on. -/
abbrev Address := List Nat

/-! ### The node at an address -/

/-- The node at an address, if there is one. -/
def at? (n : Node) : Address → Option Node
  | [] => some n
  | i :: p => (n.children[i]?).bind fun part ↦ part.at? p

/-- A tree with another node at an address; the tree itself if there is no such address. -/
def replaceAt (n : Node) (new : Node) : Address → Node
  | [] => new
  | i :: p => .mk n.kind n.span (n.children.modify i fun part ↦ part.replaceAt new p)

variable {n new : Node} {p q : Address}

@[simp] theorem at?_nil (n : Node) : n.at? [] = some n := rfl

theorem at?_cons (n : Node) (i : Nat) (p : Address) :
    n.at? (i :: p) = (n.children[i]?).bind fun part ↦ part.at? p := rfl

/-- A node below another one is at the addresses of both, one after the other. -/
theorem at?_append (n : Node) (p q : Address) :
    n.at? (p ++ q) = (n.at? p).bind fun m ↦ m.at? q := by
  induction p generalizing n with
  | nil => rfl
  | cons i p ih =>
    rw [List.cons_append, at?_cons, at?_cons, Option.bind_assoc]
    simp only [ih]

@[simp] theorem replaceAt_nil (n new : Node) : n.replaceAt new [] = new := rfl

theorem replaceAt_cons (n new : Node) (i : Nat) (p : Address) :
    n.replaceAt new (i :: p) =
      .mk n.kind n.span (n.children.modify i fun part ↦ part.replaceAt new p) := rfl

@[simp] theorem children_replaceAt_cons (n new : Node) (i : Nat) (p : Address) :
    (n.replaceAt new (i :: p)).children = n.children.modify i fun part ↦ part.replaceAt new p := rfl

/-- The new node is where it was put. -/
theorem at?_replaceAt_self {old : Node} (h : n.at? p = some old) :
    (n.replaceAt new p).at? p = some new := by
  induction p generalizing n with
  | nil => rfl
  | cons i p ih =>
    obtain ⟨part, hpart, hold⟩ := Option.bind_eq_some_iff.mp h
    simp [at?_cons, hpart, ih hold]

/-- Putting a node where it is changes nothing. -/
theorem replaceAt_self {old : Node} (h : n.at? p = some old) : n.replaceAt old p = n := by
  induction p generalizing n with
  | nil => exact (Option.some.inj h).symm
  | cons i p ih =>
    obtain ⟨part, hpart, hold⟩ := Option.bind_eq_some_iff.mp h
    obtain ⟨k, s, parts⟩ := n
    have hparts : (parts.modify i fun part ↦ part.replaceAt old p) = parts := by
      refine List.ext_getElem? fun j ↦ ?_
      rw [List.getElem?_modify]
      by_cases hij : i = j
      · subst hij
        have hpart : parts[i]? = some part := hpart
        simp [hpart, ih hold]
      · simp [hij]
    rw [replaceAt_cons, children, kind, span, hparts]

/-- Nothing changes at an address that is not on the way to the new node and not below it. -/
theorem at?_replaceAt_of_not_prefix (hpq : ¬p <+: q) (hqp : ¬q <+: p) :
    (n.replaceAt new p).at? q = n.at? q := by
  induction p generalizing n q with
  | nil => exact absurd (List.nil_prefix) hpq
  | cons i p ih =>
    cases q with
    | nil => exact absurd (List.nil_prefix) hqp
    | cons j q =>
      rw [List.cons_prefix_cons] at hpq hqp
      rw [at?_cons, at?_cons, children_replaceAt_cons, List.getElem?_modify]
      by_cases hij : i = j
      · subst hij
        have hparts := fun part : Node ↦
          ih (n := part) (fun h ↦ hpq ⟨rfl, h⟩) (fun h ↦ hqp ⟨rfl, h⟩)
        cases n.children[i]? <;> simp [hparts]
      · simp [hij]

/-- What is on the way to the new node is the old node there, with the new node inside it. -/
theorem at?_replaceAt_of_prefix (q r : Address) :
    (n.replaceAt new (q ++ r)).at? q = (n.at? q).map fun m ↦ m.replaceAt new r := by
  induction q generalizing n with
  | nil => rfl
  | cons j q ih =>
    rw [List.cons_append, at?_cons, at?_cons, children_replaceAt_cons, List.getElem?_modify_eq]
    cases n.children[j]? <;> simp [ih]

/-! ### The nodes in the order of a search -/

mutual

/-- The nodes of a tree with their addresses, in the order in which a search visits them. -/
def visited : Node → List (Address × Node)
  | .mk kind span children => ([], .mk kind span children) :: visitedFrom 0 children

/-- The nodes of parts that are counted from an index on. -/
def visitedFrom (index : Nat) : List Node → List (Address × Node)
  | [] => []
  | n :: rest => (n.visited.map fun r ↦ (index :: r.1, r.2)) ++ visitedFrom (index + 1) rest

end

theorem visited_eq (n : Node) : n.visited = ([], n) :: visitedFrom 0 n.children := by
  cases n with
  | mk kind span parts => rw [visited, children]

theorem mem_visitedFrom_iff {index : Nat} {parts : List Node} {r : Address × Node} :
    r ∈ visitedFrom index parts ↔
      ∃ i q part, parts[i]? = some part ∧ (q, r.2) ∈ part.visited ∧ r.1 = (index + i) :: q := by
  induction parts generalizing index with
  | nil => simp [visitedFrom]
  | cons n rest ih =>
    rw [visitedFrom, List.mem_append, ih]
    constructor
    · rintro (h | ⟨i, q, part, hpart, hmem, haddress⟩)
      · obtain ⟨⟨q, m⟩, hmem, rfl⟩ := List.mem_map.mp h
        exact ⟨0, q, n, rfl, hmem, rfl⟩
      · exact ⟨i + 1, q, part, hpart, hmem, by rw [haddress, Nat.add_assoc, Nat.add_comm 1]⟩
    · rintro ⟨i, q, part, hpart, hmem, haddress⟩
      cases i with
      | zero =>
        obtain rfl := Option.some.inj hpart
        exact .inl (List.mem_map.mpr ⟨_, hmem, Prod.ext haddress.symm rfl⟩)
      | succ i =>
        exact .inr ⟨i, q, part, hpart, hmem, by rw [haddress, Nat.add_assoc, Nat.add_comm 1]⟩

/-- **Visited nodes.** A search visits exactly the nodes that are at some address. -/
theorem mem_visited_iff {m : Node} : (p, m) ∈ n.visited ↔ n.at? p = some m := by
  induction p generalizing n with
  | nil =>
    rw [visited_eq, List.mem_cons, mem_visitedFrom_iff, at?_nil, Option.some.injEq]
    constructor
    · rintro (h | ⟨_, _, _, _, _, h⟩)
      · exact (congrArg Prod.snd h).symm
      · cases h
    · rintro rfl
      exact .inl rfl
  | cons i p ih =>
    rw [visited_eq, List.mem_cons, mem_visitedFrom_iff, at?_cons, Option.bind_eq_some_iff]
    constructor
    · rintro (h | ⟨j, q, part, hpart, hmem, h⟩)
      · cases h
      · rw [Nat.zero_add, List.cons.injEq] at h
        obtain ⟨rfl, rfl⟩ := h
        exact ⟨part, hpart, ih.mp hmem⟩
    · rintro ⟨part, hpart, hm⟩
      exact .inr ⟨i, p, part, hpart, ih.mpr hm, by rw [Nat.zero_add]⟩

/-- **Order of a search.** Addresses come in lexicographic order: a node before its parts, and
everything in a part before the parts behind it. -/
theorem pairwise_visited (n : Node) : n.visited.Pairwise fun a b ↦ a.1 < b.1 := by
  have hfrom (parts : List Node) (h : ∀ m ∈ parts, m.visited.Pairwise fun a b ↦ a.1 < b.1)
      (index : Nat) : (visitedFrom index parts).Pairwise fun a b ↦ a.1 < b.1 := by
    induction parts generalizing index with
    | nil => exact .nil
    | cons m rest ih =>
      obtain ⟨hm, hrest⟩ := List.forall_mem_cons.mp h
      rw [visitedFrom, List.pairwise_append]
      refine ⟨?_, ih hrest _, ?_⟩
      · exact List.pairwise_map.mpr (hm.imp fun hab ↦ List.Lex.cons hab)
      · intro a ha b hb
        obtain ⟨a, -, rfl⟩ := List.mem_map.mp ha
        obtain ⟨i, q, -, -, -, hb⟩ := mem_visitedFrom_iff.mp hb
        rw [hb]
        exact List.Lex.rel (by omega)
  induction n using Node.induct with
  | mk kind span parts ih =>
    rw [visited_eq, List.pairwise_cons]
    refine ⟨fun r hr ↦ ?_, hfrom parts ih 0⟩
    obtain ⟨i, q, -, -, -, hr⟩ := mem_visitedFrom_iff.mp hr
    rw [hr]
    exact List.Lex.nil

end PageRoutes.Syntax.Node
