import PageRoutes.Proofs.Syntax.Comments.Expressions
/-!
# The comments of classes, statements and modules

The layouts of classes, statements, declarations, imports and exports take the same comments for
parts that are alike, and so does the layout of a whole module.

## Main results

* `View.agrees_classDoc`, `View.agrees_statementDoc` : the layouts of classes and statements.
* `View.agrees_moduleDoc` : the layout of any node.
* `View.alike_of_parts` : nodes of one kind and range are alike if their parts are.
-/

namespace PageRoutes.Syntax.View

variable {v v' w w' u u' : View} {vs ws : List View}

/-! ### Classes -/

@[gcongr] theorem agrees_decorators (h : List.Forall₂ Alike vs ws) :
    (decorators vs).Agrees (decorators ws) := by
  have hdecorator : Respects fun d ↦ d.bare ++ .line := fun _ _ h ↦ h.bare.append (.refl _)
  exact .concat (hdecorator.map h)

@[gcongr] theorem agrees_listDecorators (h : List.Forall₂ Alike vs ws) :
    (listDecorators vs).Agrees (listDecorators ws) := by
  rw [listDecorators, listDecorators, isEmpty_eq h]
  split <;> gcongr

@[gcongr] theorem agrees_paramProperty {m : Modifiers} (hdecorators : List.Forall₂ Alike vs ws)
    (hpattern : Alike v w) : (paramProperty m vs v).Agrees (paramProperty m ws w) := by
  unfold paramProperty
  gcongr

@[gcongr] theorem agrees_classTail (h : Alike v w) : (classTail v).Agrees (classTail w) := by
  have hparts := h.parts
  rw [classTail, classTail, h.span]
  generalize v.parts = vs at hparts ⊢
  generalize w.parts = ws at hparts ⊢
  obtain _ | ⟨ha, _ | ⟨hb, _ | ⟨hc, _ | ⟨hd, _ | ⟨he, _ | ⟨hf, _ | _⟩⟩⟩⟩⟩⟩ := hparts <;> try rfl
  have hmembers := respects_bare.map hb.parts
  simp only [isEmpty_eq hf.parts]
  gcongr

@[gcongr] theorem agrees_classDecorators (h : Alike v w) :
    (classDecorators v).Agrees (classDecorators w) := by
  have hparts := h.parts
  rw [classDecorators, classDecorators]
  generalize v.parts = vs at hparts ⊢
  generalize w.parts = ws at hparts ⊢
  obtain _ | ⟨hdecorators, _⟩ := hparts
  · rfl
  · exact agrees_decorators hdecorators.parts

@[gcongr] theorem agrees_classTypeParams (h : Alike v w) :
    (classTypeParams v).Agrees (classTypeParams w) := by
  have hparts := h.parts
  rw [classTypeParams, classTypeParams]
  generalize v.parts = vs at hparts ⊢
  generalize w.parts = ws at hparts ⊢
  obtain _ | ⟨ha, _ | ⟨hb, _ | ⟨hc, _ | ⟨hd, _ | ⟨he, _ | ⟨hf, _ | _⟩⟩⟩⟩⟩⟩ := hparts <;> try rfl
  exact hd.bare

@[gcongr] theorem agrees_classWord (h : Alike v w) : (classWord v).Agrees (classWord w) := by
  rw [classWord, classWord, h.kind]

@[gcongr] theorem agrees_namedClass (hname : Alike v v') (hbody : Alike w w') :
    (namedClass v w).Agrees (namedClass v' w') := by
  unfold namedClass
  gcongr

@[gcongr] theorem agrees_classExpr (hname : Alike v v') (hbody : Alike w w') :
    (classExpr v w).Agrees (classExpr v' w') := by
  unfold classExpr
  gcongr

@[gcongr] theorem agrees_roleWord {role : MethodKind} (h : Alike v w) :
    (roleWord role v).Agrees (roleWord role w) := by
  unfold roleWord
  split <;> gcongr

@[gcongr] theorem agrees_method {role : MethodKind} {m : Modifiers} (hkey : Alike v v')
    (hfunction : Alike w w') : (method role m v w).Agrees (method role m v' w') := by
  have hparts := hfunction.parts
  simp only [method, hkey.kind, hkey.span]
  gcongr
  generalize w.parts = vs at hparts ⊢
  generalize w'.parts = ws at hparts ⊢
  obtain _ | ⟨hparams, _ | ⟨hdecorators, _⟩⟩ := hparts
  · exact .nil
  · exact .nil
  · exact hdecorators.parts

@[gcongr] theorem agrees_field {m : Modifiers} (hkey : Alike v v') (hvalue : Alike w w')
    (htype : Alike u u') (hdecorators : List.Forall₂ Alike vs ws) :
    (field m v w u vs).Agrees (field m v' w' u' ws) := by
  simp only [field]
  gcongr

theorem agrees_memberDoc (kind : Kind) (span : Span) (h : List.Forall₂ Alike vs ws) :
    (memberDoc kind span vs).Agrees (memberDoc kind span ws) := by
  have hnext := agrees_expressionDoc kind span h
  cases kind
  case classConstructor =>
    obtain _ | ⟨hkey, _ | ⟨hparams, _ | ⟨hbody, _ | _⟩⟩⟩ := h <;> try exact hnext
    simp only [memberDoc, hbody.isAbsent]
    gcongr
    split <;> gcongr
  case emptyMember => rfl
  all_goals first
    | exact hnext
    | (obtain _ | ⟨ha, _ | ⟨hb, _ | ⟨hc, _ | ⟨hd, _ | _⟩⟩⟩⟩ := h <;>
        first | exact hnext | (simp only [memberDoc]; gcongr))

/-- **Classes.** The layout of a class takes the same comments for parts that are alike. -/
theorem agrees_classDoc (kind : Kind) (span : Span) (h : List.Forall₂ Alike vs ws) :
    (classDoc kind span vs).Agrees (classDoc kind span ws) := by
  have hnext := agrees_memberDoc kind span h
  cases kind
  all_goals first
    | exact hnext
    | (obtain _ | ⟨ha, _ | ⟨hb, _ | _⟩⟩ := h <;>
        first | exact hnext | (simp only [classDoc]; gcongr))

/-! ### Statements -/

@[gcongr] theorem agrees_declaration (h : Alike v w) : (declaration v).Agrees (declaration w) := by
  rw [declaration, declaration, h.kind]
  split <;> gcongr

@[gcongr] theorem agrees_statement (h : Alike v w) : (statement v).Agrees (statement w) := by
  rw [statement, statement, h.kind]
  split <;> gcongr

theorem respects_statement : Respects statement := fun _ _ ↦ agrees_statement

@[gcongr] theorem agrees_loopHead (h : Alike v w) : (loopHead v).Agrees (loopHead w) := by
  rw [loopHead, loopHead, h.kind]
  split <;> gcongr

@[gcongr] theorem agrees_loopPart (h : Alike v w) : (loopPart v).Agrees (loopPart w) := by
  unfold loopPart
  gcongr

@[gcongr] theorem agrees_ifStatement (htest : Alike v v') (hyes : Alike w w') (hno : Alike u u') :
    (ifStatement v w u).Agrees (ifStatement v' w' u') := by
  simp only [ifStatement, hyes.kind]
  gcongr

@[gcongr] theorem agrees_switchCase (htest : Alike v w) (h : List.Forall₂ Alike vs ws) :
    (switchCase v vs).Agrees (switchCase w ws) := by
  have hstatements := respects_statement.map h
  simp only [switchCase, htest.isAbsent, isEmpty_eq h]
  gcongr
  split <;> gcongr

@[gcongr] theorem agrees_tryStatement (hbody : Alike v v') (hhandler : Alike w w')
    (hfinalizer : Alike u u') : (tryStatement v w u).Agrees (tryStatement v' w' u') := by
  unfold tryStatement
  gcongr

@[gcongr] theorem agrees_jump {word : String} (h : Alike v w) :
    (jump word v).Agrees (jump word w) := by
  unfold jump
  gcongr

@[gcongr] theorem agrees_functionDecl (hname : Alike v v') (hfunction : Alike w w') :
    (functionDecl v w).Agrees (functionDecl v' w') := by
  unfold functionDecl
  gcongr

@[gcongr] theorem agrees_interface {span : Span} (hname : Alike v v') (htypeParams : Alike w w')
    (hbody : Alike u u') (hbases : List.Forall₂ Alike vs ws) :
    (interface v w u span vs).Agrees (interface v' w' u' span ws) := by
  simp only [interface, isEmpty_eq hbases]
  gcongr

theorem agrees_declarationDoc (kind : Kind) (span : Span) (h : List.Forall₂ Alike vs ws) :
    (declarationDoc kind span vs).Agrees (declarationDoc kind span ws) := by
  have hnext := agrees_classDoc kind span h
  cases kind
  -- first the kinds with any number of parts
  case varDecl | usingDecl =>
    simp only [declarationDoc]
    gcongr
  case interfaceBody => exact agrees_memberBraces h
  all_goals first
    | exact hnext
    | (obtain _ | ⟨ha, _ | ⟨hb, _ | ⟨hc, _ | ⟨hd, _ | _⟩⟩⟩⟩ := h <;>
        first | exact hnext | (simp only [declarationDoc]; gcongr))

/-- **Statements.** The layout of a statement takes the same comments for parts that are alike. -/
theorem agrees_statementDoc (kind : Kind) (span : Span) (h : List.Forall₂ Alike vs ws) :
    (statementDoc kind span vs).Agrees (statementDoc kind span ws) := by
  have hnext := agrees_declarationDoc kind span h
  cases kind
  case block => exact agrees_braces (respects_statement.map h)
  case emptyStmt | debuggerStmt => rfl
  case switchStmt =>
    obtain _ | ⟨hvalue, _ | ⟨hcases, _ | _⟩⟩ := h <;> try exact hnext
    have hlines := respects_bare.map hcases.parts
    simp only [statementDoc]
    gcongr
  all_goals first
    | exact hnext
    | (obtain _ | ⟨ha, _ | ⟨hb, _ | ⟨hc, _ | ⟨hd, _ | _⟩⟩⟩⟩ := h <;>
        first | exact hnext | (simp only [statementDoc]; gcongr))

/-! ### Imports and exports -/

@[gcongr] theorem agrees_item (h : Alike v w) : (item v).Agrees (item w) := by
  unfold item
  gcongr

theorem respects_item : Respects item := fun _ _ ↦ agrees_item

@[gcongr] theorem agrees_nestedItems (h : List.Forall₂ Alike vs ws) :
    (nestedItems vs).Agrees (nestedItems ws) := by
  have hitems := respects_item.map h
  unfold nestedItems
  gcongr

@[gcongr] theorem agrees_source (hsource : Alike v v') (hattrs : Alike w w') :
    (source v w).Agrees (source v' w') := by
  unfold source attributes
  gcongr

theorem filter_alike {p : View → Bool} (hp : ∀ v w, Alike v w → p v = p w)
    (h : List.Forall₂ Alike vs ws) : List.Forall₂ Alike (vs.filter p) (ws.filter p) := by
  induction h with
  | nil => exact .nil
  | cons hv _ ih =>
    rw [List.filter_cons, List.filter_cons, hp _ _ hv]
    split
    · exact .cons hv ih
    · exact ih

theorem isNamed_eq (h : Alike v w) : v.isNamed = w.isNamed := by
  rw [isNamed, isNamed, h.kind]

@[gcongr] theorem agrees_nameBraces {span : Span} (h : List.Forall₂ Alike vs ws) :
    (nameBraces span vs).Agrees (nameBraces span ws) := by
  rw [nameBraces, nameBraces, isEmpty_eq h]
  gcongr

@[gcongr] theorem agrees_specifierList {span : Span} (h : List.Forall₂ Alike vs ws) :
    (specifierList span vs).Agrees (specifierList span ws) := by
  have hnamed := filter_alike (fun _ _ ↦ isNamed_eq) h
  have hlone := respects_bare.map
    (filter_alike (p := fun v ↦ !v.isNamed) (fun _ _ hv ↦ congrArg not (isNamed_eq hv)) h)
  simp only [specifierList, isEmpty_eq hnamed]
  refine .separated ?_
  split
  · exact hlone
  · exact List.rel_append hlone (.cons (agrees_nameBraces hnamed) .nil)

@[gcongr] theorem agrees_renamed (hname : Alike v v') (hnew : Alike w w') :
    (renamed v w).Agrees (renamed v' w') := by
  unfold renamed
  gcongr

@[gcongr] theorem agrees_exportDecl (h : Alike v w) : (exportDecl v).Agrees (exportDecl w) := by
  have hparts := h.parts
  have hplain : ("export " ++ declaration v : Doc).Agrees ("export " ++ declaration w) := by gcongr
  rw [exportDecl, exportDecl, h.kind, h.span]
  generalize v.parts = vs at hparts ⊢
  generalize w.parts = ws at hparts ⊢
  cases w.kind
  case classDecl =>
    obtain _ | ⟨hname, _ | ⟨hbody, _ | _⟩⟩ := hparts <;> try exact hplain
    simp only
    gcongr
  all_goals exact hplain

theorem agrees_importDoc (kind : Kind) (span : Span) (h : List.Forall₂ Alike vs ws) :
    (importDoc kind span vs).Agrees (importDoc kind span ws) := by
  have hnext := agrees_statementDoc kind span h
  cases kind
  case importDecl =>
    obtain _ | ⟨hspecifiers, _ | ⟨hsource, _ | ⟨hattrs, _ | _⟩⟩⟩ := h <;> try exact hnext
    simp only [importDoc, isEmpty_eq hspecifiers.parts]
    gcongr
  all_goals first
    | exact hnext
    | (obtain _ | ⟨ha, _ | ⟨hb, _ | _⟩⟩ := h <;>
        first | exact hnext | (simp only [importDoc]; gcongr))

theorem agrees_exportDoc (kind : Kind) (span : Span) (h : List.Forall₂ Alike vs ws) :
    (exportDoc kind span vs).Agrees (exportDoc kind span ws) := by
  have hnext := agrees_importDoc kind span h
  cases kind
  case exportNamed =>
    obtain _ | ⟨hspecifiers, _ | ⟨hsource, _ | ⟨hattrs, _ | _⟩⟩⟩ := h <;> try exact hnext
    simp only [exportDoc, isEmpty_eq hspecifiers.parts, hsource.isAbsent]
    gcongr <;> split <;> gcongr
  all_goals first
    | exact hnext
    | (obtain _ | ⟨ha, _ | ⟨hb, _ | _⟩⟩ := h <;>
        first | exact hnext | (simp only [exportDoc]; gcongr))

/-! ### Modules -/

@[gcongr] theorem agrees_moduleRest (h : Alike v w) : (moduleRest v).Agrees (moduleRest w) := by
  rw [moduleRest, moduleRest, h.kind]
  split <;> gcongr

/-- **Nodes.** The layout of any node takes the same comments for parts that are alike. -/
theorem agrees_moduleDoc (kind : Kind) (span : Span) (h : List.Forall₂ Alike vs ws) :
    (moduleDoc kind span vs).Agrees (moduleDoc kind span ws) := by
  have hnext := agrees_exportDoc kind span h
  cases kind
  case module =>
    have hitems := respects_item.map h
    simp only [moduleDoc]
    gcongr
  case moduleBlock =>
    simp only [moduleDoc]
    gcongr
  case moduleDecl =>
    obtain _ | ⟨hname, _ | ⟨hbody, _ | _⟩⟩ := h <;> try exact hnext
    simp only [moduleDoc]
    gcongr
    split <;> gcongr
  case nestedModule =>
    obtain _ | ⟨hname, _ | ⟨hbody, _ | _⟩⟩ := h <;> try exact hnext
    simp only [moduleDoc]
    gcongr
  all_goals exact hnext

/-- **Parts.** Nodes of one kind and range are alike if their parts are. -/
theorem alike_of_parts (kind : Kind) (span : Span) {children others : List Node}
    (h : List.Forall₂ Alike (viewAll children) (viewAll others)) :
    Alike (Node.mk kind span children).view (Node.mk kind span others).view := by
  refine .mk rfl rfl ((Doc.Agrees.refl _).append (agrees_moduleDoc kind span h)) ?_
  simp only [Node.view, parts]
  split
  · exact h
  · exact .nil

end PageRoutes.Syntax.View
