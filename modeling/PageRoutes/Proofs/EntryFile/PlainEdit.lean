import PageRoutes.Proofs.EntryFile.Capture
import PageRoutes.Proofs.Syntax.Plain
/-!
# The router in a plain program

A plain program in which the router is imported and the first call uses it is a plain program
again: the import is an item of plain programs, and the use of the router is two more links behind
the call.

## Main results

* `EntryFile.exists_edited` : the edit of a plain program is a plain program.
-/

namespace PageRoutes.EntryFile

open Syntax Node Plain

/-! ### Trees that stay -/

/-- A tree in which a search meets no call. -/
def Stays (n : Node) : Prop := ∀ state, wrap state n = (state, n)

theorem wrapAll_of_stays {parts : List Node} (h : ∀ n ∈ parts, Stays n) (state : Bootstrap) :
    wrapAll state parts = (state, parts) := by
  induction parts with
  | nil => rfl
  | cons n rest ih =>
    obtain ⟨hn, hrest⟩ := List.forall_mem_cons.mp h
    rw [wrapAll_cons, hn, ih hrest]

/-- A search goes on in the parts of a node that is no call. -/
theorem wrap_of_kind_ne {kind : Kind} (h : kind ≠ .call) (state : Bootstrap) (span : Span)
    (parts : List Node) :
    wrap state (.mk kind span parts) =
      ((wrapAll state parts).1, .mk kind span (wrapAll state parts).2) := by
  by_cases hstate : state = .missing
  · have hcall : isCall (.mk kind span parts) = false := by
      by_contra hcall
      exact h (kind_eq_of_isCall (n := .mk kind span parts) (by simpa using hcall))
    rw [hstate, wrap_of_not_isCall hcall]
    rfl
  · rw [wrap_of_ne_missing hstate, wrapAll_of_ne_missing hstate]

theorem stays_of_parts {kind : Kind} {span : Span} {parts : List Node} (h : kind ≠ .call)
    (hparts : ∀ n ∈ parts, Stays n) : Stays (.mk kind span parts) := fun state ↦ by
  rw [wrap_of_kind_ne h, wrapAll_of_stays hparts]

theorem stays_leaf {kind : Kind} {span : Span} (h : kind ≠ .call) : Stays (.mk kind span []) :=
  stays_of_parts h (List.forall_mem_nil _)

theorem stays_imports (default : Option Name) (list : Listed) (source : Quoted) :
    Stays (Item.imports default list source).node := by
  have hname (w : Word) : Stays w.node := stays_leaf (by simp)
  have hlist : ∀ n ∈ list.nodes, Stays n := by
    cases list with
    | all n => simpa [Listed.nodes] using stays_of_parts (by simp) (by simpa using hname n.word)
    | named names =>
      intro n hn
      obtain ⟨name, -, rfl⟩ := List.mem_map.mp hn
      refine stays_of_parts (by simp) (List.forall_mem_cons.mpr
        ⟨?_, List.forall_mem_singleton.mpr (hname name.name.word)⟩)
      split <;> exact stays_leaf (by simp)
  have hdefault : ∀ n ∈ bindingNodes default list, Stays n := by
    refine List.forall_mem_append.mpr ⟨fun n hn ↦ ?_, hlist⟩
    obtain ⟨name, -, rfl⟩ := List.mem_map.mp hn
    exact stays_of_parts (by simp) (by simpa using hname name.word)
  have habsent : Stays .absent := stays_leaf (by simp)
  exact stays_of_parts (by simp) (List.forall_mem_cons.mpr ⟨stays_of_parts (by simp) hdefault,
    List.forall_mem_cons.mpr ⟨stays_leaf (by simp), List.forall_mem_singleton.mpr habsent⟩⟩)

/-! ### Expressions -/

/-- The name of what an application uses its router by. -/
def useWord : Word := fixedWord "use"

/-- The links that use the router. -/
def routerLinks : List Link :=
  [.member useWord, .call [.of (.name ⟨routerName, by decide⟩) []]]

theorem useRouter_linkNode {n object : Node} {args : List Expr}
    (hn : n = (Link.call args).nodeOn object) : useRouter n = linkNode n routerLinks := by
  subst hn
  rfl

/-- What a search makes of arguments are arguments, if that is known for each of them. -/
theorem exists_wrapAll_args {args : List Expr}
    (h : ∀ a ∈ args, ∀ state, ∃ e : Expr, (wrap state a.node).2 = e.node) (state : Bootstrap) :
    ∃ args', (wrapAll state (argNodes args)).2 = argNodes args' := by
  induction args generalizing state with
  | nil => exact ⟨[], rfl⟩
  | cons a rest ih =>
    obtain ⟨ha, hrest⟩ := List.forall_mem_cons.mp h
    obtain ⟨a', ha'⟩ := ha state
    obtain ⟨rest', hrest'⟩ := ih hrest (wrap state a.node).1
    exact ⟨a' :: rest', by rw [argNodes, wrapAll_cons, ha', hrest', argNodes]⟩

/-- What a search makes of a chain is a chain, if that is known for what its last link stands behind
and for the arguments of that link. -/
theorem exists_wrap_link {object : Node} {last : Link}
    (hobject : ∀ state, ∃ e : Expr, (wrap state object).2 = e.node)
    (hargs : ∀ args, last = .call args → ∀ a ∈ args, ∀ state,
      ∃ e : Expr, (wrap state a.node).2 = e.node)
    (hcall : isCall (last.nodeOn object) = false) :
    ∃ e : Expr, (wrap .missing (last.nodeOn object)).2 = e.node := by
  obtain ⟨⟨head, links⟩, hhead⟩ := hobject .missing
  rw [wrap_of_not_isCall hcall]
  cases last with
  | member w =>
    have hname : Stays w.node := stays_leaf (by simp)
    refine ⟨.of head (links ++ [.member w]), ?_⟩
    rw [Expr.node, linkNode_append, ← Expr.node, ← hhead]
    simp [Link.nodeOn, children, wrapAll_cons, hname _, linkNode, Node.kind, Node.span, wrapAll]
  | call args =>
    obtain ⟨args', hargs'⟩ := exists_wrapAll_args (hargs args rfl) (wrap .missing object).1
    have hgroup : (wrap (wrap .missing object).1 (.group (argNodes args))).2 =
        .group (argNodes args') := by
      rw [Node.group, wrap_of_kind_ne (by simp), hargs', Node.group]
    have habsent (state : Bootstrap) : (wrap state .absent).2 = .absent :=
      congrArg Prod.snd (stays_leaf (by simp) state)
    refine ⟨.of head (links ++ [.call args']), ?_⟩
    rw [Expr.node, linkNode_append, ← Expr.node, ← hhead]
    simp [Link.nodeOn, children, wrapAll_cons, hgroup, habsent, linkNode, Node.kind, Node.span,
      wrapAll]

/-- What a search makes of an expression is an expression. -/
theorem exists_wrap_expr (e : Expr) (state : Bootstrap) :
    ∃ e' : Expr, (wrap state e.node).2 = e'.node := by
  induction e using Expr.induct generalizing state with
  | of head links ih =>
    induction links using List.reverseRecOn generalizing state with
    | nil =>
      have hleaf : Stays head.node := by
        cases head <;> exact stays_leaf (by simp)
      exact ⟨.of head [], congrArg Prod.snd (hleaf state)⟩
    | append_singleton links last ihlinks =>
      have hobject := ihlinks fun args hmem ↦ ih args (List.mem_append_left _ hmem)
      by_cases hstate : state = .missing
      swap
      · exact ⟨.of head (links ++ [last]), by rw [wrap_of_ne_missing hstate]⟩
      have hnode :
          (Expr.of head (links ++ [last])).node = last.nodeOn (Expr.of head links).node := by
        rw [Expr.node, linkNode_append, Expr.node, linkNode, linkNode]
      rw [hstate]
      cases hcall : isCall (Expr.of head (links ++ [last])).node with
      | false =>
        rw [hnode] at hcall ⊢
        exact exists_wrap_link hobject (fun args hlast ↦ ih args (by simp [hlast])) hcall
      | true =>
        rw [wrap_of_isCall hcall]
        split
        · exact ⟨_, rfl⟩
        · cases last with
          | member w =>
            rw [hnode] at hcall
            cases kind_eq_of_isCall hcall
          | call args =>
            refine ⟨.of head (links ++ [.call args] ++ routerLinks), ?_⟩
            exact (useRouter_linkNode hnode).trans (linkNode_append _ _ _).symm

/-- Behind a call that creates the application stand the links that use the router. -/
example :
    let app : Head := .name ⟨"createApp", by decide⟩
    let links : List Link := [.call [.of (.name ⟨"App", by decide⟩) []]]
    (wrap .missing (Expr.of app links).node).2 = (Expr.of app (links ++ routerLinks)).node := by
  decide +kernel

/-! ### Programs -/

/-- What a search makes of an item is an item. -/
theorem exists_wrap_item (item : Item) (state : Bootstrap) :
    ∃ item' : Item, (wrap state item.node).2 = item'.node := by
  cases item with
  | imports default list source =>
    refine ⟨.imports default list source, ?_⟩
    rw [stays_imports default list source state]
  | declares keyword name e =>
    have hpattern : Stays (.mk .bindingName .none [name.word.node, .absent]) := by
      have habsent : Stays .absent := stays_leaf (by simp)
      exact stays_of_parts (by simp) (List.forall_mem_cons.mpr
        ⟨stays_leaf (by simp), List.forall_mem_singleton.mpr habsent⟩)
    obtain ⟨e', he'⟩ := exists_wrap_expr e state
    refine ⟨.declares keyword name e', ?_⟩
    rw [Item.node, wrap_of_kind_ne (by simp), wrapAll_cons, wrap_of_kind_ne (by simp), wrapAll_cons,
      hpattern state, wrapAll_cons, he']
    rfl
  | evaluates e hlong =>
    obtain ⟨e', he'⟩ := exists_wrap_expr e state
    have hlong' : e'.node.identName? = none := by
      rw [← he', identName?, kind_wrap, ← identName?, hlong]
    refine ⟨.evaluates e' hlong', ?_⟩
    rw [Item.node, wrap_of_kind_ne (by simp), wrapAll_cons, he']
    rfl

theorem exists_wrapAll_items (items : List Item) (state : Bootstrap) :
    ∃ items' : List Item, (wrapAll state (items.map Item.node)).2 = items'.map Item.node := by
  induction items generalizing state with
  | nil => exact ⟨[], rfl⟩
  | cons item rest ih =>
    obtain ⟨item', hitem⟩ := exists_wrap_item item state
    obtain ⟨rest', hrest⟩ := ih (wrap state item.node).1
    exact ⟨item' :: rest', by rw [List.map_cons, wrapAll_cons, hitem, hrest, List.map_cons]⟩

/-- The import of the router, as an item. -/
def routerItem : Item :=
  .imports (some ⟨routerName, by decide⟩) (.named []) (.single routesModuleId (by decide))

theorem node_routerItem : routerItem.node = routerImport := by
  decide +kernel

/-- **Edits of plain programs.** The edit of a plain program is a plain program. -/
theorem exists_edited {m : Module} {items : List Item}
    (h : m.tree.withoutSpans = programNode items) :
    ∃ items', (edited m).tree.withoutSpans = programNode items' := by
  obtain ⟨items', hitems⟩ := exists_wrapAll_items items .missing
  have hsearch : (wrap .missing m.tree).2.withoutSpans = programNode items' := by
    have hspans :
        (wrap .missing m.tree).2.withoutSpans = (wrap .missing m.tree.withoutSpans).2 := by
      rw [wrap_withoutSpans]
    rw [hspans, h, programNode, wrap_of_kind_ne (by simp), hitems, programNode]
  rw [edited]
  cases (Source.items m).any importsRouter with
  | true => exact ⟨items', hsearch⟩
  | false =>
    refine ⟨routerItem :: items', ?_⟩
    have himport : routerImport.withoutSpans = routerItem.node := by rw [node_routerItem]; rfl
    have hkind := congrArg Node.kind hsearch
    have hchildren := congrArg Node.children hsearch
    rw [kind_withoutSpans] at hkind
    rw [children_withoutSpans] at hchildren
    change (Node.mk (wrap .missing m.tree).2.kind _
      (routerImport :: (wrap .missing m.tree).2.children)).withoutSpans = _
    rw [withoutSpans, allWithoutSpans_eq_map, List.map_cons, himport, hkind, hchildren]
    rfl

end PageRoutes.EntryFile
