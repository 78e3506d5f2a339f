import PageRoutes.Proofs.Syntax.Comments.Views
/-!
# The comments of types and expressions

The layouts of types, expressions and patterns take the same comments for parts that are alike. Each
layout has a lemma of its own. The lemma about all kinds of nodes is by cases on the kind and on the
number of its parts: either they are laid out here, or they are passed on to the next layout.

## Main results

* `View.agrees_typeDoc` : the layout of types.
* `View.agrees_expressionDoc` : the layout of expressions, patterns and properties.
-/

namespace PageRoutes.Syntax.View

variable {v v' w w' u u' : View} {vs ws : List View}

/-! ### Types -/

theorem agrees_memberBraces (h : List.Forall₂ Alike vs ws) :
    (memberBraces vs).Agrees (memberBraces ws) := by
  have hmember : Respects fun m ↦ m.bare ++ ";" := fun _ _ h ↦ h.bare.append (.refl _)
  have hmembers := hmember.map h
  unfold memberBraces
  gcongr

@[gcongr] theorem agrees_signature {span : Span} (hparams : Alike v v') (htypeParams : Alike w w')
    (htype : Alike u u') : (signature span v w u).Agrees (signature span v' w' u') := by
  unfold signature
  gcongr

@[gcongr] theorem agrees_functionType {span : Span} (hparams : Alike v v')
    (htypeParams : Alike w w') (hresult : Alike u u') :
    (functionType span v w u).Agrees (functionType span v' w' u') := by
  unfold functionType
  gcongr

@[gcongr] theorem agrees_memberKey {isComputed : Bool} (h : Alike v w) :
    (memberKey isComputed v).Agrees (memberKey isComputed w) := by
  unfold memberKey
  split <;> gcongr

@[gcongr] theorem agrees_mappedType {readonlyMod optionalMod : Option MappedModifier}
    (hparam : Alike v v') (hnameType : Alike w w') (htype : Alike u u') :
    (mappedType readonlyMod optionalMod v w u).Agrees
      (mappedType readonlyMod optionalMod v' w' u') := by
  have hparts := hparam.parts
  unfold mappedType
  refine ((Doc.Agrees.refl _).append (Doc.Agrees.lines (.cons ?_ .nil))).append (.refl _)
  gcongr
  generalize v.parts = vs at hparts ⊢
  generalize v'.parts = ws at hparts ⊢
  obtain _ | ⟨hname, _ | ⟨hbound, _⟩⟩ := hparts
  · rfl
  · rfl
  · exact hname.bare.append (hbound.ifPresent ((Doc.Agrees.refl _).append hbound.bare))

@[gcongr] theorem agrees_typeParam {isIn isOut isConst : Bool} (hname : Alike v v')
    (hbound : Alike w w') (hdefault : Alike u u') :
    (typeParam isIn isOut isConst v w u).Agrees (typeParam isIn isOut isConst v' w' u') := by
  unfold typeParam
  gcongr

theorem Respects.templatePieces {print : View → Doc} (hprint : Respects print)
    (h : List.Forall₂ Alike vs ws) :
    (templatePieces print vs).Agrees (templatePieces print ws) := by
  induction vs using templatePieces.induct generalizing ws with
  | case1 quasi filling rest ih =>
    obtain _ | ⟨hquasi, _ | ⟨hfilling, hrest⟩⟩ := h
    have hfilling := hprint _ _ hfilling
    have hrest := ih hrest
    simp only [View.templatePieces]
    gcongr
  | case2 quasi =>
    obtain _ | ⟨hquasi, _ | _⟩ := h
    exact hquasi.bare
  | case3 =>
    cases h
    rfl

theorem Respects.templateOf {print : View → Doc} (hprint : Respects print)
    (h : List.Forall₂ Alike vs ws) : (templateOf print vs).Agrees (templateOf print ws) := by
  have hpieces := hprint.templatePieces h
  unfold View.templateOf
  gcongr

theorem agrees_typeMemberDoc (kind : Kind) (span : Span) (h : List.Forall₂ Alike vs ws) :
    (typeMemberDoc kind span vs).Agrees (typeMemberDoc kind span ws) := by
  cases kind
  all_goals first
    | rfl
    | (obtain _ | ⟨ha, _ | ⟨hb, _ | ⟨hc, _ | ⟨hd, _ | _⟩⟩⟩⟩ := h <;>
        first | rfl | (simp only [typeMemberDoc]; gcongr))

/-- **Types.** The layout of a type takes the same comments for parts that are alike. -/
theorem agrees_typeDoc (kind : Kind) (span : Span) (h : List.Forall₂ Alike vs ws) :
    (typeDoc kind span vs).Agrees (typeDoc kind span ws) := by
  have hnext := agrees_typeMemberDoc kind span h
  cases kind
  -- first the kinds with any number of parts
  case typeLiteral => exact agrees_memberBraces h
  case templateType => exact respects_bare.templateOf h
  case unionType => exact respects_bare.delimited " |" " " span h
  case intersectionType => exact respects_bare.delimited " &" " " span h
  case tupleType | typeParams | typeArgs =>
    simp only [typeDoc]
    gcongr
  all_goals first
    | exact hnext
    | (obtain _ | ⟨ha, _ | ⟨hb, _ | ⟨hc, _ | ⟨hd, _ | _⟩⟩⟩⟩ := h <;>
        first | exact hnext | (simp only [typeDoc]; gcongr))

/-! ### Arrays, objects and blocks -/

theorem respects_element : Respects element := fun _ _ h ↦ h.ifPresent h.shown

/-- The comma behind a hole is no comment. -/
theorem agrees_lastHole (vs ws : List View) : (lastHole vs).Agrees (lastHole ws) := by
  have hquiet (vs : List View) : (lastHole vs).Agrees .empty := by
    rw [lastHole]
    split
    · rw [Doc.when]
      split
      · exact Doc.Agrees.text _
      · rfl
    · rfl
  exact (hquiet vs).trans (hquiet ws).symm

theorem agrees_array {span : Span} (h : List.Forall₂ Alike vs ws) :
    (array span vs).Agrees (array span ws) := by
  have helements := respects_element.delimited "," .line span h
  have hhole := agrees_lastHole vs ws
  rw [array, array, isEmpty_eq h]
  split <;> gcongr

theorem agrees_object {span : Span} (h : List.Forall₂ Alike vs ws) :
    (object span vs).Agrees (object span ws) := by
  rw [object, object, isEmpty_eq h]
  split <;> gcongr

theorem agrees_braces {span : Span} {ds es : List Doc} (h : List.Forall₂ Doc.Agrees ds es) :
    (braces span ds).Agrees (braces span es) := by
  have hempty : ds.isEmpty = es.isEmpty := by cases h <;> rfl
  simp only [braces, hempty]
  split <;> gcongr

/-! ### Functions -/

@[gcongr] theorem agrees_parameters {span : Span} (h : Alike v w) :
    (parameters span v).Agrees (parameters span w) := by
  unfold parameters
  gcongr

@[gcongr] theorem agrees_functionTail (h : Alike v w) :
    (functionTail v).Agrees (functionTail w) := by
  have hparts := h.parts
  rw [functionTail, functionTail, h.span]
  generalize v.parts = vs at hparts ⊢
  generalize w.parts = ws at hparts ⊢
  obtain _ | ⟨ha, _ | ⟨hb, _ | ⟨hc, _ | ⟨hd, _ | ⟨he, _ | _⟩⟩⟩⟩⟩ := hparts <;> try rfl
  simp only [hc.isAbsent]
  split <;> gcongr

@[gcongr] theorem agrees_asyncWord (h : Alike v w) : (asyncWord v).Agrees (asyncWord w) := by
  rw [asyncWord, asyncWord, h.kind]

@[gcongr] theorem agrees_generatorStar (h : Alike v w) :
    (generatorStar v).Agrees (generatorStar w) := by
  rw [generatorStar, generatorStar, h.kind]

@[gcongr] theorem agrees_functionExpr (hname : Alike v v') (hfunction : Alike w w') :
    (functionExpr v w).Agrees (functionExpr v' w') := by
  unfold functionExpr
  gcongr

/-- The body of an arrow function is laid out by its kind. -/
@[gcongr] theorem agrees_arrow {isAsync : Bool} {span : Span} {x x' : View}
    (hparams : Alike v v') (hbody : Alike w w') (htypeParams : Alike u u') (hresult : Alike x x') :
    (arrow isAsync span v w u x).Agrees (arrow isAsync span v' w' u' x') := by
  simp only [arrow, hbody.kind]
  gcongr
  split <;> gcongr

/-! ### Members and calls -/

theorem takesDot_eq (h : Alike v w) : v.takesDot = w.takesDot := by
  rw [takesDot, takesDot, h.kind]

@[gcongr] theorem agrees_operand (h : Alike v w) : (operand v).Agrees (operand w) := by
  rw [operand, operand, h.kind]
  split <;> gcongr

@[gcongr] theorem agrees_callee (h : Alike v w) : (callee v).Agrees (callee w) := by
  rw [callee, callee, h.kind]
  split <;> gcongr

@[gcongr] theorem agrees_dotted (h : Alike v w) : (dotted v).Agrees (dotted w) := by
  rw [dotted, dotted, h.span]
  gcongr

@[gcongr] theorem agrees_property (hobject : Alike v v') (hproperty : Alike w w') :
    (property v w).Agrees (property v' w') := by
  rw [property, property, hproperty.kind, takesDot_eq hobject, hproperty.span]
  split <;> gcongr

@[gcongr] theorem agrees_arguments {span : Span} (h : Alike v w) :
    (arguments span v).Agrees (arguments span w) := by
  unfold arguments
  gcongr

@[gcongr] theorem agrees_call {span : Span} (hfunction : Alike v v') (hargs : Alike w w')
    (htypeArgs : Alike u u') : (call span v w u).Agrees (call span v' w' u') := by
  unfold call
  gcongr

@[gcongr] theorem agrees_optionalMember {isOptional : Bool} (h : Alike v w) :
    (optionalMember isOptional v).Agrees (optionalMember isOptional w) := by
  rw [optionalMember, optionalMember, h.kind]
  split <;> gcongr

@[gcongr] theorem agrees_unary {sign : String} (h : Alike v w) :
    (unary sign v).Agrees (unary sign w) := by
  have hsticks : sticksTo sign v = sticksTo sign w := by rw [sticksTo, sticksTo, h.kind]
  simp only [unary, hsticks]
  gcongr

@[gcongr] theorem agrees_argument {gap : Doc} (h : Alike v w) :
    (argument gap v).Agrees (argument gap w) := by
  rw [argument, argument, h.span]
  gcongr

/-! ### Kinds -/

theorem agrees_propertyDoc (kind : Kind) (span : Span) (h : List.Forall₂ Alike vs ws) :
    (propertyDoc kind span vs).Agrees (propertyDoc kind span ws) := by
  have hnext := agrees_typeDoc kind span h
  cases kind
  all_goals first
    | exact hnext
    | (obtain _ | ⟨ha, _ | ⟨hb, _ | ⟨hc, _ | _⟩⟩⟩ := h <;>
        first | exact hnext | (simp only [propertyDoc]; gcongr))

theorem agrees_patternDoc (kind : Kind) (span : Span) (h : List.Forall₂ Alike vs ws) :
    (patternDoc kind span vs).Agrees (patternDoc kind span ws) := by
  have hnext := agrees_propertyDoc kind span h
  cases kind
  case arrayPattern =>
    obtain _ | ⟨helements, _ | ⟨htype, _ | _⟩⟩ := h <;> try exact hnext
    have hlist := respects_element.listed span helements.parts
    simp only [patternDoc]
    gcongr
    exact agrees_lastHole _ _
  case objectPattern =>
    obtain _ | ⟨hproperties, _ | ⟨htype, _ | _⟩⟩ := h <;> try exact hnext
    simp only [patternDoc, isEmpty_eq hproperties.parts]
    gcongr
    split <;> gcongr
  all_goals first
    | exact hnext
    | (obtain _ | ⟨ha, _ | ⟨hb, _ | _⟩⟩ := h <;>
        first | exact hnext | (simp only [patternDoc]; gcongr))

/-- **Expressions.** The layout of an expression takes the same comments for parts that are alike.
-/
theorem agrees_expressionDoc (kind : Kind) (span : Span) (h : List.Forall₂ Alike vs ws) :
    (expressionDoc kind span vs).Agrees (expressionDoc kind span ws) := by
  have hnext := agrees_patternDoc kind span h
  cases kind
  -- first the kinds with any number of parts
  case template => exact respects_shown.templateOf h
  case array => exact agrees_array h
  case object => exact agrees_object h
  case sequence => exact .separated (respects_shown.map h)
  case update operator isPrefixed =>
    obtain _ | ⟨hargument, _ | _⟩ := h <;> try exact hnext
    simp only [expressionDoc]
    split <;> gcongr
  case superMember =>
    obtain _ | ⟨hobject, _ | ⟨hname, _ | _⟩⟩ := h <;> try exact hnext
    simp only [expressionDoc, hname.kind]
    gcongr
    split <;> gcongr
  all_goals first
    | exact hnext
    | (obtain _ | ⟨ha, _ | ⟨hb, _ | ⟨hc, _ | ⟨hd, _ | _⟩⟩⟩⟩ := h <;>
        first | exact hnext | (simp only [expressionDoc]; gcongr))

end PageRoutes.Syntax.View
