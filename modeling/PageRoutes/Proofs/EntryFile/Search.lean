import PageRoutes.EntryFile
import PageRoutes.Proofs.Syntax.Position
/-!
# The first call that creates the application

The search through an entry file looks at the nodes of its tree one after the other, a node before
its parts, until it meets a call that creates the application, with the use of the router or without
it. Only a call without it is changed, and only the first call that is met matters. All that is not
on the way to the call or inside it stays what it is, whether it was visited before the call or
would have been visited later.

## Main definitions

* `EntryFile.calls` : the calls of a tree that create the application, in the order of the search.

## Main results

* `EntryFile.wrap_of_ne_missing` : nothing changes once a call has been met.
* `EntryFile.wrap_missing` : the outcome of the search, by the first call.
* `EntryFile.wrap_keeps` : the nodes that stay what they are.
* `EntryFile.wrap_first_call` : when the search ends in which state, and what it has changed.
-/

namespace PageRoutes.EntryFile

open Syntax Node

/-- Whether a node is a call that creates the application, with or without the use of the router. -/
def isCall (n : Node) : Bool := isRouterUse n || isBootstrap n

/-- The calls of a tree that create the application, with their addresses and in the order of the
search. -/
def calls (n : Node) : List (Address × Node) := n.visited.filter fun r ↦ isCall r.2

/-- The calls in parts that are counted from an index on. -/
def callsFrom (index : Nat) (parts : List Node) : List (Address × Node) :=
  (visitedFrom index parts).filter fun r ↦ isCall r.2

/-- A call with the use of the router is no call without it. -/
theorem isBootstrap_eq_false {n : Node} (h : isRouterUse n) : isBootstrap n = false := by
  unfold isRouterUse at h
  split at h
  · simp [isBootstrap, isName, identName?, kind]
  · cases h

/-! ### Calls of a tree and of its parts -/

variable {n : Node} {index : Nat}

/-- A call is the first one of its tree. -/
theorem head?_calls_of_isCall (h : isCall n) : (calls n).head? = some ([], n) := by
  rw [calls, visited_eq, List.filter_cons_of_pos (by exact h), List.head?_cons]

/-- The calls of a tree that is none itself are those of its parts. -/
theorem calls_of_not_isCall (h : isCall n = false) : calls n = callsFrom 0 n.children := by
  rw [calls, visited_eq, List.filter_cons_of_neg (by simp [h]), callsFrom]

theorem callsFrom_cons (index : Nat) (n : Node) (rest : List Node) :
    callsFrom index (n :: rest) =
      (calls n).map (fun r ↦ (index :: r.1, r.2)) ++ callsFrom (index + 1) rest := by
  rw [callsFrom, visitedFrom, List.filter_append, List.filter_map]
  rfl

/-! ### The search -/

/-- What the search makes of a tree whose first call is known. -/
def outcome (n : Node) : Option (Address × Node) → Bootstrap × Node
  | none => (.missing, n)
  | some (p, call) =>
    if isRouterUse call then (.alreadyWrapped, n) else (.wrapped, n.replaceAt (useRouter call) p)

/-- What the search makes of parts that are counted from an index on. -/
def outcomeFrom (index : Nat) (parts : List Node) : Option (Address × Node) → Bootstrap × List Node
  | some (i :: p, call) =>
    if isRouterUse call then (.alreadyWrapped, parts)
    else (.wrapped, parts.modify (i - index) fun part ↦ part.replaceAt (useRouter call) p)
  | _ => (.missing, parts)

theorem wrapAll_cons (state : Bootstrap) (n : Node) (rest : List Node) :
    wrapAll state (n :: rest) =
      ((wrapAll (wrap state n).1 rest).1,
        (wrap state n).2 :: (wrapAll (wrap state n).1 rest).2) := by
  rw [wrapAll]

/-- **After the first call.** Nothing changes once a call has been met. -/
theorem wrap_of_ne_missing {state : Bootstrap} (h : state ≠ .missing) (n : Node) :
    wrap state n = (state, n) := by
  cases n with
  | mk kind span parts => rw [wrap, if_pos h]

theorem wrapAll_of_ne_missing {state : Bootstrap} (h : state ≠ .missing) (parts : List Node) :
    wrapAll state parts = (state, parts) := by
  induction parts with
  | nil => rfl
  | cons n rest ih => rw [wrapAll_cons, wrap_of_ne_missing h, ih]

/-- A node that is no call stays, and the search goes on in its parts. -/
theorem wrap_of_not_isCall (h : isCall n = false) :
    wrap .missing n =
      ((wrapAll .missing n.children).1, .mk n.kind n.span (wrapAll .missing n.children).2) := by
  cases n with
  | mk kind span parts =>
    rw [isCall, Bool.or_eq_false_iff] at h
    simp [wrap, h, children, Node.kind, Node.span]

theorem outcomeFrom_succ (index : Nat) (n : Node) (rest : List Node) :
    outcomeFrom index (n :: rest) (callsFrom (index + 1) rest).head? =
      ((outcomeFrom (index + 1) rest (callsFrom (index + 1) rest).head?).1,
        n :: (outcomeFrom (index + 1) rest (callsFrom (index + 1) rest).head?).2) := by
  cases hfirst : (callsFrom (index + 1) rest).head? with
  | none => rfl
  | some first =>
    have hmem := (List.mem_filter.mp (List.mem_of_mem_head? hfirst)).1
    obtain ⟨i, q, part, -, -, hp⟩ := mem_visitedFrom_iff.mp hmem
    obtain ⟨p, call⟩ := first
    obtain rfl : p = (index + 1 + i) :: q := hp
    have hindex : index + 1 + i - index = index + 1 + i - (index + 1) + 1 := by omega
    cases hcall : isRouterUse call with
    | true => simp [outcomeFrom, hcall]
    | false => simp [outcomeFrom, hcall, hindex]

/-- The search through parts, if it is known for each of them. -/
theorem wrapAll_missing {parts : List Node}
    (h : ∀ n ∈ parts, wrap .missing n = outcome n (calls n).head?) (index : Nat) :
    wrapAll .missing parts = outcomeFrom index parts (callsFrom index parts).head? := by
  induction parts generalizing index with
  | nil => rfl
  | cons n rest ih =>
    obtain ⟨hn, hrest⟩ := List.forall_mem_cons.mp h
    rw [wrapAll_cons, hn, callsFrom_cons]
    cases hcalls : calls n with
    | nil =>
      simp only [List.head?_nil, outcome, List.map_nil, List.nil_append]
      rw [ih hrest (index + 1), outcomeFrom_succ]
    | cons first more =>
      obtain ⟨p, call⟩ := first
      simp only [List.head?_cons, outcome, List.map_cons, List.cons_append, outcomeFrom]
      cases isRouterUse call with
      | true => simp [wrapAll_of_ne_missing]
      | false => simp [wrapAll_of_ne_missing]

/-- What the search makes of the parts of a node, it makes of the node. -/
theorem outcome_eq (n : Node) :
    outcome n (callsFrom 0 n.children).head? =
      ((outcomeFrom 0 n.children (callsFrom 0 n.children).head?).1,
        .mk n.kind n.span (outcomeFrom 0 n.children (callsFrom 0 n.children).head?).2) := by
  cases hfirst : (callsFrom 0 n.children).head? with
  | none =>
    cases n with
    | mk kind span parts => rfl
  | some first =>
    have hmem := (List.mem_filter.mp (List.mem_of_mem_head? hfirst)).1
    obtain ⟨i, q, part, -, -, hp⟩ := mem_visitedFrom_iff.mp hmem
    obtain ⟨p, call⟩ := first
    obtain rfl : p = (0 + i) :: q := hp
    simp only [outcome, outcomeFrom, replaceAt_cons, Nat.sub_zero]
    cases isRouterUse call with
    | true =>
      cases n with
      | mk kind span parts => rfl
    | false => rfl

/-- **The search.** What the search makes of a tree is decided by the first call in it. -/
theorem wrap_missing (n : Node) : wrap .missing n = outcome n (calls n).head? := by
  induction n using Node.induct with
  | mk kind span parts ih =>
    cases hcall : isCall (.mk kind span parts) with
    | true =>
      rw [head?_calls_of_isCall hcall]
      cases hrouter : isRouterUse (.mk kind span parts) with
      | true => simp [wrap, outcome, hrouter]
      | false =>
        have hbootstrap : isBootstrap (.mk kind span parts) := by
          simpa [isCall, hrouter] using hcall
        simp [wrap, outcome, hrouter, hbootstrap]
    | false =>
      rw [wrap_of_not_isCall hcall, calls_of_not_isCall hcall, outcome_eq]
      rw [wrapAll_missing (by exact ih) 0]

/-- **What a wrapped call leaves alone.** The call stands inside the new one as it was. Every node
that is neither on the way to it nor below it stays, and those on the way only get the new call in
its place. -/
theorem wrap_keeps {tree call : Node} {p : Address} (h : tree.at? p = some call) :
    let new := tree.replaceAt (useRouter call) p
    new.at? p = some (useRouter call) ∧ new.at? (p ++ [0, 0]) = some call ∧
      (∀ q, ¬p <+: q → ¬q <+: p → new.at? q = tree.at? q) ∧
      ∀ q r, p = q ++ r → new.at? q = (tree.at? q).map fun m ↦ m.replaceAt (useRouter call) r := by
  have hnew : (tree.replaceAt (useRouter call) p).at? p = some (useRouter call) :=
    at?_replaceAt_self h
  refine ⟨hnew, ?_, fun q ↦ at?_replaceAt_of_not_prefix, ?_⟩
  · rw [at?_append, hnew]
    rfl
  · rintro q r rfl
    exact at?_replaceAt_of_prefix q r

/-- **The first call decides.** The search misses if there is no call in the tree, and it stops at a
wrapped call if the first call is one. In these cases the tree stays what it is.

If the first call is a bare one, a call of its member `use` comes in its place, whose only argument
is the plain name `router` and which has no type arguments. The first call is inside it as it was,
with its own arguments and type arguments. Every node that is neither on the way to it nor below it
stays, later calls among them, and a node on the way to it only has the new call below it. -/
theorem wrap_first_call (tree : Node) :
    (wrap .missing tree = (.missing, tree) ↔ calls tree = []) ∧
      (wrap .missing tree = (.alreadyWrapped, tree) ↔
        ∃ p call later, calls tree = (p, call) :: later ∧ isRouterUse call) ∧
      ∀ new, wrap .missing tree = (.wrapped, new) ↔
        ∃ p call later, calls tree = (p, call) :: later ∧ isBootstrap call ∧
          let method : Node := .mk (.name "use" false) .none []
          let router : Node := .mk (.ident "router") .none []
          let used : Node :=
            .mk .call call.span [.mk .member call.span [call, method], .group [router], .absent]
          new = tree.replaceAt used p ∧ tree.at? p = some call ∧
            new.at? p = some used ∧ new.at? (p ++ [0, 0]) = some call ∧
            (∀ q, ¬p <+: q → ¬q <+: p → new.at? q = tree.at? q) ∧
            ∀ q r, p = q ++ r → new.at? q = (tree.at? q).map fun m ↦ m.replaceAt used r := by
  rw [wrap_missing]
  cases hcalls : calls tree with
  | nil => simp [outcome]
  | cons first later =>
    obtain ⟨p, call⟩ := first
    obtain ⟨hvisited, hcall⟩ :=
      List.mem_filter.mp (hcalls ▸ List.mem_cons_self : (p, call) ∈ calls tree)
    cases hrouter : isRouterUse call with
    | true => simp [outcome, hrouter, isBootstrap_eq_false hrouter]
    | false =>
      have hbootstrap : isBootstrap call := by simpa [isCall, hrouter] using hcall
      refine ⟨by simp [outcome, hrouter], by simp [outcome, hrouter], fun new ↦ ⟨fun h ↦ ?_, ?_⟩⟩
      · simp only [List.head?_cons, outcome, hrouter, Bool.false_eq_true, if_false,
          Prod.mk.injEq, true_and] at h
        subst h
        have hold := mem_visited_iff.mp hvisited
        exact ⟨p, call, later, rfl, hbootstrap, rfl, hold, wrap_keeps hold⟩
      · rintro ⟨_, _, _, ⟨⟩, -, rfl, -⟩
        simp [outcome, hrouter, useRouter, routerName]

end PageRoutes.EntryFile
