import PageRoutes.Proofs.Json.Unambiguous
import PageRoutes.Proofs.Route.ImportExpr
import PageRoutes.Proofs.RoutesModule.Table
/-!
# The routes module determines the routing table

From the text of the routes module the history mode and the routing table can be read off: the
paths, the pages, the order of the nodes and the metadata with the order of its members. A node
without a page has no member for it, so that it differs from every node with one, and a node without
metadata differs from one whose metadata is `null`. A path or a string in the metadata that looks
like the text around it is no danger, since it is quoted.

## Main definitions

* `Route.IsCanonical` : nodes whose metadata has its numbers as they are kept.

## Main results

* `Route.importExpr_append_inj` : an import expression in front of another text.
* `Route.template_injective` : a node is determined by its template.
* `Route.readsAs_template` : the literal of a node in front of another text.
* `RoutesModule.render_append_inj` : the module in front of another text.
* `RoutesModule.render_injective` : the module determines the mode and the table.
-/

namespace PageRoutes

namespace Route

open Json (Template ReadsAs)

/-! ### Import expressions -/

/-- No escape begins with another one. -/
theorem eq_of_importEscape_prefix (c d : Char) (h : importEscape c <+: importEscape d) : c = d := by
  simp only [importEscape, beq_iff_eq] at h
  split_ifs at h <;> simp_all [List.cons_prefix_cons]

/-- No escape begins with a quote. -/
theorem exists_importEscape_eq_cons (c : Char) :
    ∃ x xs, importEscape c = x :: xs ∧ x ≠ '\x27' := by
  simp only [importEscape, beq_iff_eq]
  split_ifs with hbackslash hquote
  · exact ⟨'\\', ['\\'], rfl, by decide⟩
  · exact ⟨'\\', ['\x27'], rfl, by decide⟩
  · exact ⟨c, [], rfl, hquote⟩

/-- **Import expressions.** The import of a page in front of another text determines the page and
that text. -/
theorem importExpr_append_inj {p q : DiskPath} {a b : List Char}
    (h : (importExpr p).toList ++ a = (importExpr q).toList ++ b) : p = q ∧ a = b := by
  have htoList (p : DiskPath) (a : List Char) : (importExpr p).toList ++ a =
      "() => import(\x27".toList ++ (p.text.toList.flatMap importEscape ++ '\x27' :: ')' :: a) := by
    simp [toList_importExpr, importLiteral]
  rw [htoList, htoList] at h
  obtain ⟨hpq, hab⟩ := Json.flatMap_append_inj eq_of_importEscape_prefix
    exists_importEscape_eq_cons (List.append_cancel_left h)
  obtain ⟨p⟩ := p
  obtain ⟨q⟩ := q
  obtain rfl : p = q := String.toList_injective hpq
  exact ⟨rfl, (List.cons.inj hab).2⟩

/-! ### Nodes -/

mutual

/-- Whether the metadata of a node and of the nodes below it has its numbers as they are kept. -/
def IsCanonical : Route → Prop
  | ⟨_, _, children, metadata⟩ => (∀ v ∈ metadata, v.IsCanonical) ∧ AllCanonical children

/-- Whether the metadata in a forest has its numbers as they are kept. -/
def AllCanonical : List Route → Prop
  | [] => True
  | r :: rest => r.IsCanonical ∧ AllCanonical rest

end

theorem allCanonical_iff {routes : List Route} :
    AllCanonical routes ↔ ∀ r ∈ routes, r.IsCanonical := by
  induction routes with
  | nil => simp [AllCanonical]
  | cons r rest ih => rw [AllCanonical, ih, List.forall_mem_cons]

/-- The members of a node, with a gap for its component. -/
def members (r : Route) : List (String × Template DiskPath) :=
  [("path", .value (.string r.path))]
    ++ (r.component.map fun file ↦ ("component", .gap file)).toList
    ++ [("children", .array (templates r.children))]
    ++ (r.metadata.map fun value ↦ ("meta", .value value)).toList

theorem template_eq (r : Route) : r.template = .object r.members := by
  cases r
  rfl

/-- What the members of a node are. -/
theorem mem_members_iff {r : Route} {m : String × Template DiskPath} :
    m ∈ r.members ↔ m = ("path", .value (.string r.path)) ∨
      (∃ file, r.component = some file ∧ m = ("component", .gap file)) ∨
      m = ("children", .array (templates r.children)) ∨
      ∃ v, r.metadata = some v ∧ m = ("meta", .value v) := by
  simp only [members, List.mem_append, List.mem_singleton, Option.mem_toList,
    Option.map_eq_some_iff,
    or_assoc, eq_comm (a := m)]

theorem templates_injective {cs cs' : List Route}
    (ih : ∀ r ∈ cs, ∀ r', r.template = r'.template → r = r')
    (h : templates cs = templates cs') : cs = cs' := by
  induction cs generalizing cs' with
  | nil =>
    cases cs' with
    | nil => rfl
    | cons r' cs' => cases h
  | cons r cs ihRest =>
    obtain ⟨hr, hrest⟩ := List.forall_mem_cons.mp ih
    cases cs' with
    | nil => cases h
    | cons r' cs' =>
      rw [templates, templates, List.cons.injEq] at h
      rw [hr r' h.1, ihRest hrest h.2]

/-- A node is determined by its template. -/
theorem template_injective (r r' : Route) (h : r.template = r'.template) : r = r' := by
  induction r using Route.induct generalizing r' with
  | mk path component children metadata ih =>
    obtain ⟨path', component', children', metadata'⟩ := r'
    rw [template_eq, template_eq, Template.object.injEq] at h
    have hparts : path = path' ∧ component = component' ∧ templates children = templates children' ∧
        metadata = metadata' := by
      cases component <;> cases component' <;> cases metadata <;> cases metadata' <;>
        simp_all [members]
    obtain ⟨rfl, rfl, hchildren, rfl⟩ := hparts
    rw [templates_injective ih hchildren]

/-- A value in a gapless part of a template can be read in one way only. -/
theorem readsAs_value {v w : Json} (hv : v.IsCanonical) (hw : w.IsCanonical) (level : Nat) :
    ReadsAs (.value v) (.value w) (Template.text importExpr level) := by
  intro a b ha hb h
  rw [Template.text, Template.text] at h
  obtain ⟨rfl, hab⟩ := Json.pretty_append_inj v hv hw level a b ha hb h
  exact ⟨rfl, hab⟩

/-- An import expression in a gap of a template can be read in one way only. -/
theorem readsAs_gap (p q : DiskPath) (level : Nat) :
    ReadsAs (.gap p) (.gap q) (Template.text importExpr level) := by
  intro a b ha hb h
  rw [Template.text, Template.text] at h
  obtain ⟨rfl, hab⟩ := importExpr_append_inj h
  exact ⟨rfl, hab⟩

/-- The literal of a list of nodes can be read in one way only, if this holds for each node. -/
theorem templates_append_inj {cs cs' : List Route} {level : Nat} {a b : List Char}
    (hread : ∀ r ∈ cs, ∀ r' ∈ cs',
      ReadsAs r r' fun r ↦ r.template.text importExpr (level + 1))
    (h : ((Template.array (templates cs)).text importExpr level).toList ++ a =
      ((Template.array (templates cs')).text importExpr level).toList ++ b) :
    cs = cs' ∧ a = b := by
  have htext (cs : List Route) : (Template.array (templates cs)).text importExpr level =
      Json.bracketed "[" "]" level
        (cs.map fun r ↦ r.template.text importExpr (level + 1)) := by
    rw [Template.text, Template.textItems_eq_map, templates_eq_map, List.map_map]
    rfl
  rw [htext, htext] at h
  exact Json.bracketed_append_inj ⟨']', [], rfl, by decide⟩ hread h

theorem textMembers_eq_map (level : Nat) (members : List (String × Template DiskPath)) :
    Template.textMembers importExpr level members =
      members.map fun m ↦ Json.quote m.1 ++ ": " ++ m.2.text importExpr level := by
  induction members with
  | nil => rfl
  | cons m rest ih => rw [Template.textMembers, ih, List.map_cons]

/-- **Nodes.** The literal of a node in front of the end of an element determines the node and what
follows. -/
theorem readsAs_template (r r' : Route) (hr : r.IsCanonical) (hr' : r'.IsCanonical) (level : Nat) :
    ReadsAs r r' fun r ↦ r.template.text importExpr level := by
  induction r using Route.induct generalizing r' level with
  | mk path component children metadata ih =>
    obtain ⟨path', component', children', metadata'⟩ := r'
    rw [IsCanonical, allCanonical_iff] at hr hr'
    intro a b ha hb h
    simp only [template_eq, Template.text, textMembers_eq_map] at h
    have hmember : ∀ m ∈ members ⟨path, component, children, metadata⟩,
        ∀ m' ∈ members ⟨path', component', children', metadata'⟩,
        m.1 = m'.1 → ReadsAs m.2 m'.2 (Template.text importExpr (level + 1)) := by
      intro m hm m' hm' hkey
      -- Members with one key are of one kind.
      rcases mem_members_iff.mp hm with rfl | ⟨file, -, rfl⟩ | rfl | ⟨v, hv, rfl⟩ <;>
        rcases mem_members_iff.mp hm' with rfl | ⟨file', -, rfl⟩ | rfl | ⟨v', hv', rfl⟩ <;>
        dsimp only at hkey ⊢ <;> try exact absurd hkey (by decide)
      case inl.inl =>
        have hstring (s : String) : (Json.string s).IsCanonical := by
          rw [Json.IsCanonical] <;> simp
        exact readsAs_value (hstring path) (hstring path') _
      case inr.inl.inr.inl => exact readsAs_gap file file' _
      case inr.inr.inl.inr.inr.inl =>
        intro a b ha hb h
        obtain ⟨hsame, hab⟩ := templates_append_inj
          (fun r hmem r' hmem' ↦ ih r hmem r' (hr.2 r hmem) (hr'.2 r' hmem') (level + 2)) h
        exact ⟨by rw [hsame], hab⟩
      case inr.inr.inr.inr.inr.inr => exact readsAs_value (hr.1 v hv) (hr'.1 v' hv') _
    obtain ⟨hmembers, hab⟩ := Json.bracketed_append_inj ⟨'\x7d', [], rfl, by decide⟩
      (fun m hm m' hm' ↦ Json.readsAs_member (hmember m hm m' hm')) h
    refine ⟨template_injective _ _ ?_, hab⟩
    rw [template_eq, template_eq, hmembers]

end Route

/-! ### The module -/

namespace RoutesModule

/-- What stands in the module between the two mentions of the mode. -/
def afterFactory : String :=
  " \x7d from \x27" ++ routerLibrary ++ "\x27\n\n" ++ "const router = createRouter(\x7b\n" ++
    "  history: "

/-- The text of the module around the parts of it that vary. -/
theorem toList_render (routes : List Route) (mode : HistoryMode) :
    (render routes mode).toList =
      "import \x7b createRouter, ".toList ++ (mode.factory.toList ++
        ((afterFactory ++ mode.factory ++ "(),\n" ++ "  routes: ").toList ++
          ((tableLiteral routes).toList ++
            '\n' :: "\x7d)\n\nexport default router\n".toList))) := by
  have hrender : render routes mode = "import \x7b createRouter, " ++ (mode.factory ++
      ((afterFactory ++ mode.factory ++ "(),\n" ++ "  routes: ") ++
        (tableLiteral routes ++ ("\n" ++ "\x7d)\n\nexport default router\n")))) := by
    unfold render afterFactory
    simp only [String.append_assoc, -String.reduceAppend]
  have hbreak : ("\n" ++ "\x7d)\n\nexport default router\n").toList =
      '\n' :: "\x7d)\n\nexport default router\n".toList := String.toList_append
  rw [hrender, String.toList_append, String.toList_append, String.toList_append,
    String.toList_append (s := tableLiteral routes), hbreak]

/-- The text of the module determines the mode. -/
theorem factory_append_inj {mode mode' : HistoryMode} {a b : List Char}
    (h : mode.factory.toList ++ a = mode'.factory.toList ++ b) : mode = mode' := by
  have hlength (mode : HistoryMode) : 11 ≤ mode.factory.toList.length := by
    cases mode <;> decide
  have htake : ∀ mode mode' : HistoryMode,
      mode.factory.toList.take 11 = mode'.factory.toList.take 11 → mode = mode' := by
    intro mode mode'
    cases mode <;> cases mode' <;> decide
  have hprefix := congrArg (List.take 11) h
  rw [List.take_append_of_le_length (hlength mode),
    List.take_append_of_le_length (hlength mode')] at hprefix
  exact htake mode mode' hprefix

/-- The module in front of another text determines the mode, the forest and that text. -/
theorem render_append_inj {routes routes' : List Route} {mode mode' : HistoryMode} {a b : List Char}
    (hroutes : Route.AllCanonical routes) (hroutes' : Route.AllCanonical routes')
    (h : (render routes mode).toList ++ a = (render routes' mode').toList ++ b) :
    mode = mode' ∧ routes = routes' ∧ a = b := by
  simp only [toList_render, List.append_assoc, List.cons_append] at h
  have hfactories := List.append_cancel_left h
  obtain rfl := factory_append_inj hfactories
  have htables := List.append_cancel_left (List.append_cancel_left hfactories)
  have hliteral (routes : List Route) : tableLiteral routes =
      (Json.Template.array (Route.templates routes)).text importExpr 0 :=
    listText_nodes fun r _ ↦ node_eq r 1
  rw [hliteral, hliteral] at htables
  rw [Route.allCanonical_iff] at hroutes hroutes'
  have hread := fun r hr r' hr' ↦
    Route.readsAs_template r r' (hroutes r hr) (hroutes' r' hr') 1
  obtain ⟨hsame, hrest⟩ := Route.templates_append_inj hread htables
  exact ⟨rfl, hsame, List.append_cancel_left (List.cons.inj hrest).2⟩

/-- **The module determines the table.** If the routes module of a forest and a mode is that of
another forest and mode, then the modes and the forests are the same: the paths, the presence and
the files of the components, the order of the nodes, and the presence and the values of the metadata
with the order of its members. -/
theorem render_injective {routes routes' : List Route} {mode mode' : HistoryMode}
    (hroutes : Route.AllCanonical routes) (hroutes' : Route.AllCanonical routes')
    (h : render routes mode = render routes' mode') : mode = mode' ∧ routes = routes' := by
  have htext : (render routes mode).toList ++ [] = (render routes' mode').toList ++ [] := by rw [h]
  obtain ⟨hmode, hsame, -⟩ := render_append_inj hroutes hroutes' htext
  exact ⟨hmode, hsame⟩

/-- Metadata with a number, a string that looks like program text, and a value that is nothing. -/
def postMetadata : Json :=
  .object [("order", .number (.float false ⟨3 * 2 ^ 51, -52⟩)),
    ("title", .string "It\x27s \x22new\x22\x7d,\n"), ("image", .null)]

/-- A forest as it is before the separators of nested paths are removed. -/
def blogForest : List Route :=
  [⟨"/blog", some ⟨"/w/pages/blog/index.vue"⟩,
    [.page "/:id" ⟨"/w/pages/blog/[id].vue"⟩ (some postMetadata)], none⟩]

/-- The forest without these separators. -/
def blogTable : List Route :=
  [⟨"/blog", some ⟨"/w/pages/blog/index.vue"⟩,
    [⟨":id", some ⟨"/w/pages/blog/[id].vue"⟩, [], some postMetadata⟩], none⟩]

/-- For a forest that is given in two ways the module tells that they are the same. -/
theorem render_injective_blog :
    Route.AllCanonical (Route.stripNested blogForest) ∧ Route.AllCanonical blogTable ∧
      render (Route.stripNested blogForest) .hash = render blogTable .hash ∧
      Route.stripNested blogForest = blogTable := by
  have hnumber : (JsonNumber.float false ⟨3 * 2 ^ 51, -52⟩).IsCanonical :=
    ⟨by decide, by decide, .inr (by decide)⟩
  have hmetadata : postMetadata.IsCanonical := by
    rw [postMetadata, Json.IsCanonical, Json.membersCanonical_iff]
    simp only [List.forall_mem_cons]
    exact ⟨by rwa [Json.IsCanonical], trivial, trivial, by simp⟩
  have hforest : Route.AllCanonical (Route.stripNested blogForest) := by
    simp [blogForest, Route.stripNested, Route.page, Route.stripAll, Route.strip,
      Route.AllCanonical, Route.IsCanonical, hmetadata]
  have htable : Route.AllCanonical blogTable := by
    simp [blogTable, Route.AllCanonical, Route.IsCanonical, hmetadata]
  have hrender : render (Route.stripNested blogForest) .hash = render blogTable .hash := by
    decide +kernel
  exact ⟨hforest, htable, hrender, (render_injective hforest htable hrender).2⟩

end RoutesModule

end PageRoutes
