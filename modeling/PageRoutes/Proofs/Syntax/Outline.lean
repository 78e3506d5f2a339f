import PageRoutes.Proofs.Syntax.LocalScope
/-!
# Trees without what is inside calls

What a call is made of declares no names outside the call. So the names in scope at an address
depend only on the nodes on the way to it and on the outline of what stands beside this way: the
tree in which calls have lost their parts. Putting a call in the place of another one keeps the
names in scope there.

## Main definitions

* `Node.outline` : a tree without ranges and without anything inside calls.

## Main results

* `Node.outline_replaceAt` : a call in the place of a call does not change the outline.
* `Node.scopeNames_outline` : the outline of a node declares the same names.
* `Context.enter_outline` : the outline of a node leads into the same surroundings.
* `Node.localNamesIn_replaceAt` : a call in the place of a call does not change the names in scope.
-/

namespace PageRoutes.Syntax

namespace Node

mutual

/-- A tree without ranges and without anything inside calls. -/
def outline : Node → Node
  | .mk .call _ _ => .mk .call .none []
  | .mk kind _ children => .mk kind .none (allOutlines children)

/-- Trees without ranges and without anything inside calls. -/
def allOutlines : List Node → List Node
  | [] => []
  | n :: rest => n.outline :: allOutlines rest

end

theorem allOutlines_eq_map (nodes : List Node) : allOutlines nodes = nodes.map outline := by
  induction nodes with
  | nil => rfl
  | cons n rest ih => rw [allOutlines, ih, List.map_cons]

theorem outline_mk {kind : Kind} (h : kind ≠ .call) (span : Span) (parts : List Node) :
    (mk kind span parts).outline = .mk kind .none (parts.map outline) := by
  rw [outline, allOutlines_eq_map]
  exact fun heq ↦ h heq

theorem outline_of_call {n : Node} (h : n.kind = .call) : n.outline = .mk .call .none [] := by
  obtain ⟨kind, span, parts⟩ := n
  obtain rfl : kind = .call := h
  rw [outline]

@[simp] theorem kind_outline (n : Node) : n.outline.kind = n.kind := by
  obtain ⟨k, span, parts⟩ := n
  by_cases h : k = .call
  · subst h
    rw [outline, kind, kind]
  · rw [outline_mk h, kind, kind]

theorem children_outline {n : Node} (h : n.kind ≠ .call) :
    n.outline.children = n.children.map outline := by
  obtain ⟨k, span, parts⟩ := n
  have h : k ≠ .call := h
  rw [outline_mk h, children, children]

theorem child_outline {n : Node} (h : n.kind ≠ .call) (i : Nat) :
    n.outline.child i = (n.child i).outline := by
  rw [child, child, children_outline h, List.getElem?_map]
  cases n.children[i]? <;> rfl

@[simp] theorem nameText?_outline (n : Node) : n.outline.nameText? = n.nameText? := by
  rw [nameText?, nameText?, kind_outline]

/-- A call in the place of a call does not change the outline. -/
theorem outline_replaceAt {n old new : Node} {p : Address} (hold : n.at? p = some old)
    (h : old.kind = .call) (hnew : new.kind = .call) :
    (n.replaceAt new p).outline = n.outline := by
  induction p generalizing n with
  | nil =>
    obtain rfl := Option.some.inj hold
    rw [replaceAt_nil, outline_of_call hnew, outline_of_call h]
  | cons i p ih =>
    obtain ⟨part, hpart, hat⟩ := Option.bind_eq_some_iff.mp hold
    by_cases hcall : n.kind = .call
    · rw [outline_of_call hcall, outline_of_call (by rwa [replaceAt_cons, kind])]
    · obtain ⟨k, span, parts⟩ := n
      have hcall : k ≠ .call := hcall
      rw [replaceAt_cons, kind, outline_mk hcall, outline_mk hcall]
      refine congrArg _ (List.ext_getElem? fun j ↦ ?_)
      rw [List.getElem?_map, List.getElem?_map, List.getElem?_modify]
      by_cases hij : i = j
      · subst hij
        have hpart : parts[i]? = some part := hpart
        simp [children, hpart, ih hat]
      · simp [children, hij]

/-! ### Names of an outline -/

@[simp] theorem texts_map_outline (names : List Node) :
    texts (names.map outline) = texts names := by
  simp [texts, List.filterMap_map]

theorem texts_singleton_outline (name : Node) : texts [name.outline] = texts [name] :=
  texts_map_outline [name]

theorem texts_append (names others : List Node) :
    texts (names ++ others) = texts names ++ texts others :=
  List.filterMap_append ..

/-- Names that are collected from the parts of a node are the same in the outline, if they are the
same for each part. -/
theorem texts_flatMap_outline {f : Node → List Node} {parts : List Node}
    (h : ∀ n ∈ parts, texts (f n.outline) = texts (f n)) :
    texts ((parts.map outline).flatMap f) = texts (parts.flatMap f) := by
  induction parts with
  | nil => rfl
  | cons n rest ih =>
    obtain ⟨hn, hrest⟩ := List.forall_mem_cons.mp h
    rw [List.map_cons, List.flatMap_cons, List.flatMap_cons, texts_append, texts_append, hn,
      ih hrest]

@[simp] theorem listed_outline (n : Node) : n.outline.listed = n.listed.map outline := by
  rw [listed, listed, kind_outline]
  split
  · next hgroup => exact children_outline (by simp [hgroup])
  · rfl

@[simp] theorem texts_patternNames_outline (n : Node) :
    texts (patternNames n.outline) = texts (patternNames n) := by
  induction n using Node.induct with
  | mk k span parts ih =>
    have ihTake : ∀ n ∈ parts.take 1, texts (patternNames n.outline) = texts (patternNames n) :=
      fun n hn ↦ ih n (List.mem_of_mem_take hn)
    by_cases hcall : k = .call
    · subst hcall
      rw [patternNames_eq, patternNames_eq, kind_outline]
      rfl
    · rw [outline_mk hcall, patternNames_eq, patternNames_eq]
      simp only [kind, children, ← List.map_take]
      split
      case h_7 => exact texts_flatMap_outline ih
      case h_8 =>
        rcases parts with _ | ⟨first, _ | ⟨pattern, _ | ⟨third, rest⟩⟩⟩
        · rfl
        · rfl
        · exact ih pattern (by simp)
        · rfl
      case h_9 => rfl
      all_goals first
        | exact texts_map_outline _
        | exact texts_flatMap_outline ihTake

theorem declared?_outline (n : Node) : declared? n.outline = (declared? n).map outline := by
  rw [declared?_eq, declared?_eq, kind_outline]
  split
  · next hkind => rw [children_outline (by simp [hkind]), List.head?_map]
  · rfl

@[simp] theorem texts_declaredNames_outline (declarators : List Node) :
    texts (declaredNames (declarators.map outline)) = texts (declaredNames declarators) := by
  have hpatterns : (declarators.map outline).filterMap declared? =
      (declarators.filterMap declared?).map outline := by
    rw [List.filterMap_map, List.map_filterMap]
    exact List.filterMap_congr fun n _ ↦ declared?_outline n
  rw [declaredNames, declaredNames, hpatterns]
  exact texts_flatMap_outline fun n _ ↦ texts_patternNames_outline n

@[simp] theorem texts_varNames_outline (n : Node) :
    texts (varNames n.outline) = texts (varNames n) := by
  induction n using Node.induct with
  | mk k span parts ih =>
    by_cases hcall : k = .call
    · subst hcall
      rw [varNames_eq, varNames_eq, kind_outline]
      rfl
    · rw [outline_mk hcall, varNames_eq, varNames_eq]
      simp only [kind, children]
      split
      · exact texts_declaredNames_outline parts
      · split
        · exact texts_flatMap_outline ih
        · rfl

theorem texts_statementBindings_outline (n : Node) :
    texts (n.outline.statementBindings.map Binding.name) =
      texts (n.statementBindings.map Binding.name) := by
  rw [statementBindings_names, statementBindings_names, kind_outline]
  by_cases hcall : n.kind = .call
  · simp [hcall]
  · rw [children_outline hcall, ← List.map_take]
    split <;> simp only [texts_declaredNames_outline, texts_map_outline, texts_varNames_outline]

theorem specifierName?_outline (n : Node) :
    specifierName? n.outline = (specifierName? n).map outline := by
  rw [specifierName?, specifierName?, kind_outline]
  by_cases hcall : n.kind = .call
  · simp [hcall]
  · rw [children_outline hcall, List.getLast?_map]
    split <;> rfl

theorem texts_bindings_outline {n : Node} (hitem : ∀ isType, n.kind ≠ .importDecl isType) :
    texts (n.outline.bindings.map Binding.name) = texts (n.bindings.map Binding.name) := by
  rw [bindings_names hitem, bindings_names (by simpa using hitem), kind_outline]
  by_cases hcall : n.kind = .call
  · simpa [hcall] using texts_statementBindings_outline n
  · rw [children_outline hcall, ← List.map_take]
    split
    · exact texts_map_outline _
    · match n.children with
      | [] | _ :: _ :: _ => rfl
      | [declaration] => exact texts_statementBindings_outline declaration
    · match n.children with
      | [] | _ :: _ :: _ => rfl
      | [declaration] =>
        simp only [List.map_cons, List.map_nil, kind_outline]
        split
        · next hfunction =>
          rw [children_outline (by simp [hfunction]), ← List.map_take, texts_map_outline]
        · next hclass =>
          rw [children_outline (by simp [hclass]), ← List.map_take, texts_map_outline]
        · rfl
    · exact texts_statementBindings_outline n

theorem anyInstantiated_eq_any (items : List Node) :
    anyInstantiated items = items.any isInstantiated := by
  induction items with
  | nil => rfl
  | cons n rest ih => rw [anyInstantiated, ih, List.any_cons]

@[simp] theorem isInstantiated_outline (n : Node) :
    n.outline.isInstantiated = n.isInstantiated := by
  induction n using Node.induct with
  | mk k span parts ih =>
    by_cases hcall : k = .call
    · subst hcall
      rw [outline, isInstantiated, isInstantiated]
      rfl
    · have hany : (parts.map outline).any isInstantiated = parts.any isInstantiated := by
        rw [List.any_map, Bool.eq_iff_iff, List.any_eq_true, List.any_eq_true]
        exact exists_congr fun n ↦ and_congr_right fun hn ↦ by rw [Function.comp_apply, ih n hn]
      rw [outline_mk hcall, isInstantiated, isInstantiated, anyInstantiated_eq_any,
        anyInstantiated_eq_any, hany]

@[simp] theorem declaration_outline (n : Node) : n.outline.declaration = n.declaration.outline := by
  rw [declaration, declaration, kind_outline]
  split
  · next hexport => exact child_outline (by simp [hexport]) 0
  · rfl

theorem texts_itemNames_outline (n : Node) : texts (itemNames n.outline) = texts (itemNames n) := by
  rw [itemNames, itemNames, kind_outline]
  split
  · next himport =>
    have hspecifiers (names : List Node) : (names.map outline).filterMap specifierName? =
        (names.filterMap specifierName?).map outline := by
      rw [List.filterMap_map, List.map_filterMap]
      exact List.filterMap_congr fun n _ ↦ specifierName?_outline n
    rw [child_outline (by simp [himport]), listed_outline, hspecifiers, texts_map_outline]
  · next hitem =>
    have hname {k : Kind} (hkind : n.declaration.kind = k) (hcall : k ≠ .call) :
        texts (if n.outline.declaration.isInstantiated then [n.outline.declaration.child 0]
          else []) =
          texts (if n.declaration.isInstantiated then [n.declaration.child 0] else []) := by
      rw [declaration_outline, isInstantiated_outline, child_outline (by simpa [hkind] using hcall)]
      split
      · exact texts_singleton_outline _
      · rfl
    rw [declaration_outline, kind_outline, ← declaration_outline]
    split
    · next hkind => exact hname hkind nofun
    · next hkind => exact hname hkind nofun
    · exact texts_bindings_outline hitem

theorem texts_lexicalNames_outline (n : Node) :
    texts (lexicalNames n.outline) = texts (lexicalNames n) := by
  rw [lexicalNames, lexicalNames, kind_outline, isInstantiated_outline]
  by_cases hcall : n.kind = .call
  · simp [hcall]
  · rw [children_outline hcall, child_outline hcall]
    split
    case h_7 => split <;> simp [texts_singleton_outline]
    all_goals simp [texts_singleton_outline]

theorem texts_paramNames_outline (n : Node) :
    texts (paramNames n.outline) = texts (paramNames n) := by
  rw [paramNames, paramNames, kind_outline]
  by_cases hcall : n.kind = .call
  · simp [hcall]
  · rw [child_outline hcall]
    split <;> simp

theorem caseStatements_outline (n : Node) :
    caseStatements n.outline = (caseStatements n).map outline := by
  rw [caseStatements, caseStatements, kind_outline]
  split
  · next hcase => rw [child_outline (by simp [hcase]), listed_outline]
  · rfl

theorem flatMap_caseStatements_outline (cases_ : List Node) :
    (cases_.map outline).flatMap caseStatements = (cases_.flatMap caseStatements).map outline := by
  rw [List.flatMap_map, List.map_flatMap]
  simp only [caseStatements_outline]

theorem memberText?_outline (n : Node) : memberText? n.outline = memberText? n := by
  rw [memberText?, memberText?, kind_outline]
  by_cases hcall : n.kind = .call
  · simp [hcall]
  · rw [child_outline hcall, kind_outline, nameText?_outline]

theorem isInDecorators_outline (n : Node) (p : Address) :
    isInDecorators n.outline p = isInDecorators n p := by
  rw [isInDecorators, isInDecorators, kind_outline]

theorem functionName_outline (outer : Kind) (n : Node) (p : Address) :
    functionName outer n.outline p = functionName outer n p := by
  rw [functionName.eq_def, functionName.eq_def, kind_outline]
  split
  · rfl
  · next hfunction => rw [child_outline (by simp [hfunction]), texts_singleton_outline]
  · rfl

/-! ### Parts of an outline -/

@[simp] theorem key?_outline (n : Node) : n.outline.key? = n.key? := by
  rw [key?, key?, kind_outline]
  by_cases hcall : n.kind = .call
  · simp [hcall]
  · rw [child_outline hcall, nameText?_outline, kind_outline]

@[simp] theorem memberNames_outline (n : Node) : n.outline.memberNames = n.memberNames := by
  rw [memberNames, memberNames, kind_outline]
  split
  · next henum =>
    rw [child_outline (by simp [henum]), listed_outline, List.filterMap_map]
    exact List.filterMap_congr fun m _ ↦ memberText?_outline m
  · rfl

@[simp] theorem isDeclared_outline (n : Node) : n.outline.isDeclared = n.isDeclared := by
  rw [isDeclared, isDeclared, kind_outline]

theorem exported?_outline (isImplicit : Bool) (n : Node) :
    exported? isImplicit n.outline = (exported? isImplicit n).map outline := by
  rw [exported?, exported?, kind_outline]
  split
  · next hexport => rw [child_outline (by simp [hexport]), Option.map_some]
  · split <;> rfl
  · rfl
  · split <;> rfl

theorem exportsAll_outline (isAmbient : Bool) {body : Node} (h : body.kind ≠ .call) :
    exportsAll isAmbient body.outline = exportsAll isAmbient body := by
  have hlist : isExportList ∘ outline = isExportList := by
    funext n
    rw [Function.comp_apply, isExportList, isExportList, kind_outline]
  rw [exportsAll, exportsAll, children_outline h, List.any_map, hlist]

theorem exportedItems_outline (isAmbient : Bool) (body : Node) :
    exportedItems isAmbient body.outline = (exportedItems isAmbient body).map outline := by
  rw [exportedItems, exportedItems, kind_outline]
  split
  · rfl
  · next hblock =>
    have hcall : body.kind ≠ .call := by simp [hblock]
    rw [exportsAll_outline isAmbient hcall, children_outline hcall, List.filterMap_map,
      List.map_filterMap]
    exact List.filterMap_congr fun n _ ↦ exported?_outline _ n
  · rfl

end Node

/-- A part without what is inside calls. -/
def Part.outline (part : Part) : Part := ⟨part.isAmbient, part.declaration.outline⟩

theorem Part.exports_outline (part : Part) : part.outline.exports = part.exports.map outline := by
  have hcall {k : Kind} (hkind : part.declaration.kind = k) (hne : k ≠ .call) :
      (part.declaration.child 1).outline = part.declaration.outline.child 1 :=
    (Node.child_outline (hkind ▸ hne) 1).symm
  rw [exports, exports, outline, Node.kind_outline, Node.isDeclared_outline]
  dsimp only
  split
  · next hkind =>
    rw [← hcall hkind nofun, Node.exportedItems_outline, List.map_map, List.map_map]
    rfl
  · next hkind =>
    rw [← hcall hkind nofun, Node.exportedItems_outline, List.map_map, List.map_map]
    rfl
  · rfl

namespace Context

/-- Surroundings without what is inside calls. -/
def outline (c : Context) : Context := ⟨c.isAmbient, c.parts.map Part.outline⟩

theorem partsOf_outline (isAmbient : Bool) (items : List Node) :
    partsOf isAmbient (items.map Node.outline) = (partsOf isAmbient items).map Part.outline := by
  have hdeclarations : (items.map Node.outline).map Node.declaration =
      (items.map Node.declaration).map Node.outline := by
    simp
  rw [partsOf, partsOf, hdeclarations, List.filter_map, List.map_map, List.map_map]
  simp only [Function.comp_def, Node.key?_outline]
  rfl

theorem allParts_outline (c : Context) (n : Node) :
    c.outline.allParts n.outline = (c.allParts n).map Part.outline := by
  rw [allParts, allParts, outline, List.map_cons, List.filter_map]
  simp only [Function.comp_def, Part.outline, Node.key?_outline]

/-- The surroundings inside the outline of a node, by the outline of those around it. -/
theorem enter_outline (c : Context) (n : Node) (i : Nat) :
    c.outline.enter n.outline i = (c.enter n i).outline := by
  rw [enter.eq_def, enter.eq_def, Node.kind_outline]
  by_cases hcall : n.kind = .call
  · simp [hcall, outline]
  · simp only [Node.child_outline hcall, Node.exportsAll_outline _ hcall,
      Node.children_outline hcall, Node.listed_outline, Node.flatMap_caseStatements_outline,
      partsOf_outline, Node.exported?_outline, Option.isSome_map, allParts_outline,
      Node.isDeclared_outline]
    split
    case h_4 =>
      simp only [outline, List.map_append, apply_ite (List.map Part.outline), List.map_nil]
      rfl
    case h_5 | h_6 =>
      simp only [outline, List.flatMap_map, List.map_flatMap, Part.exports_outline]
    all_goals rfl

end Context

namespace Node

/-- **Outlines.** In the outline of its surroundings, the outline of a node declares the same names.
-/
theorem scopeNames_outline (c : Context) (n : Node) (i : Nat) (p : Address) :
    scopeNames c.outline n.outline i p = scopeNames c n i p := by
  rw [scopeNames.eq_def, scopeNames.eq_def, kind_outline]
  by_cases hcall : n.kind = .call
  · simp [hcall]
  · have hparams (ns : List Node) := texts_flatMap_outline fun m (_ : m ∈ ns) ↦
      texts_paramNames_outline m
    have hstatements (ns : List Node) := texts_flatMap_outline fun m (_ : m ∈ ns) ↦
      texts_lexicalNames_outline m
    have hitems (ns : List Node) := texts_flatMap_outline fun m (_ : m ∈ ns) ↦
      texts_itemNames_outline m
    have hexports : texts ((c.outline.enter n.outline 1).parts.flatMap fun part ↦
        itemNames part.declaration) =
        texts ((c.enter n 1).parts.flatMap fun part ↦ itemNames part.declaration) := by
      have h := hitems ((c.enter n 1).parts.map Part.declaration)
      rw [List.map_map, List.flatMap_map, List.flatMap_map] at h
      rw [Context.enter_outline, Context.outline, List.flatMap_map]
      exact h
    have hmembers : (c.outline.allParts n.outline).flatMap (fun part ↦
        memberNames part.declaration) =
        (c.allParts n).flatMap fun part ↦ memberNames part.declaration := by
      rw [Context.allParts_outline, List.flatMap_map]
      simp only [Part.outline, memberNames_outline]
    simp only [child_outline hcall, children_outline hcall, listed_outline, isInDecorators_outline,
      texts_patternNames_outline, texts_varNames_outline, hparams, texts_singleton_outline,
      texts_lexicalNames_outline, hstatements, hitems, flatMap_caseStatements_outline, hexports,
      hmembers]

/-! ### Calls and the names in scope -/

variable {n call : Node} {p : Address}

theorem child_eq_of_getElem? {i : Nat} {part : Node} (h : n.children[i]? = some part) :
    n.child i = part := by
  rw [child, h, Option.getD_some]

theorem isInDecorators_append (hat : n.at? p = some call) (hcall : call.kind = .call)
    (q : Address) : isInDecorators n (p ++ 1 :: q) = isInDecorators n p := by
  match p with
  | [] =>
    obtain rfl := Option.some.inj hat
    simp [isInDecorators, hcall]
  | [i] => simp [isInDecorators]
  | i :: j :: p => rfl

theorem functionName_append (outer : Kind) (hat : n.at? p = some call) (hcall : call.kind = .call)
    (q : Address) : functionName outer n (p ++ 1 :: q) = functionName outer n p := by
  match p with
  | [] =>
    obtain rfl := Option.some.inj hat
    rw [functionName.eq_def, functionName.eq_def]
    split
    · rfl
    · next hfunction =>
      rw [hcall] at hfunction
      cases hfunction
    · rfl
  | i :: p => rfl

/-- Only the way to a call matters for what a node above it declares. -/
theorem scopeNames_append (c : Context) {i : Nat} (hat : (n.child i).at? p = some call)
    (hcall : call.kind = .call) (q : Address) :
    scopeNames c n i (p ++ 1 :: q) = scopeNames c n i p := by
  have hhead : (p ++ 1 :: q).head? = some 0 ↔ p.head? = some 0 := by
    cases p <;> simp
  rw [scopeNames.eq_def, scopeNames.eq_def, isInDecorators_append hat hcall]
  simp only [hhead]

/-- The names in scope behind the callee of a call are those at the call and those that are declared
inside it. -/
theorem localNamesIn_append (c : Context) (hat : n.at? p = some call) (hcall : call.kind = .call)
    (q : Address) : ∃ inner, n.localNamesIn c (p ++ 1 :: q) =
      n.localNamesIn c p ++ call.localNamesIn inner (1 :: q) := by
  induction p generalizing n c with
  | nil =>
    obtain rfl := Option.some.inj hat
    exact ⟨c, rfl⟩
  | cons i p ih =>
    obtain ⟨part, hpart, hat⟩ := Option.bind_eq_some_iff.mp hat
    obtain rfl := child_eq_of_getElem? hpart
    obtain ⟨inner, hinner⟩ := ih (c.enter n i) hat
    refine ⟨inner, ?_⟩
    rw [List.cons_append, localNamesIn, localNamesIn, functionName_append _ hat hcall,
      scopeNames_append c hat hcall, hinner, List.append_assoc, List.append_assoc,
      List.append_assoc]

/-- **Calls in the place of calls.** The names in scope at a call are the same for every other call
in its place, also in surroundings that differ in what is inside calls. -/
theorem localNamesIn_replaceAt {new : Node} {c other : Context} (hc : other.outline = c.outline)
    (hat : n.at? p = some call) (hcall : call.kind = .call) (hnew : new.kind = .call) :
    (n.replaceAt new p).localNamesIn other p = n.localNamesIn c p := by
  induction p generalizing n c other with
  | nil => rfl
  | cons i p ih =>
    have houtline := outline_replaceAt hat hcall hnew
    obtain ⟨part, hpart, hpartAt⟩ := Option.bind_eq_some_iff.mp hat
    have hnewPart : (n.replaceAt new (i :: p)).child i = part.replaceAt new p := by
      apply child_eq_of_getElem?
      rw [children_replaceAt_cons, List.getElem?_modify_eq, hpart]
      rfl
    have hfunction : functionName n.kind (part.replaceAt new p) p = functionName n.kind part p := by
      rw [← functionName_outline, outline_replaceAt hpartAt hcall hnew, functionName_outline]
    have hscope : scopeNames other (n.replaceAt new (i :: p)) i p = scopeNames c n i p := by
      rw [← scopeNames_outline, houtline, hc, scopeNames_outline]
    have henter : (other.enter (n.replaceAt new (i :: p)) i).outline = (c.enter n i).outline := by
      rw [← Context.enter_outline, houtline, hc, Context.enter_outline]
    rw [localNamesIn, localNamesIn, hnewPart, hscope, ih henter hpartAt,
      child_eq_of_getElem? hpart, replaceAt_cons, kind, hfunction]

end Node

end PageRoutes.Syntax
