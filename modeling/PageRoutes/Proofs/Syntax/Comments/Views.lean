import PageRoutes.Proofs.Syntax.Comments
/-!
# Views that take the same comments

Two views are alike if they have the same kind and range, if they take the same comments, and if the
parts that their surroundings lay out are alike, one by one. What surrounds a view sees no more of
it than this, apart from its text. So what it takes for two views that are alike is the same.

## Main definitions

* `View.Alike` : views that take the same comments.

## Main results

* `View.Alike.refl` : a view is like itself.
* `View.Respects.delimited` : views that are alike, with delimiters between them.
-/

namespace PageRoutes.Syntax.View

/-- Views of the same kind and range that take the same comments, in all that is seen of them. -/
inductive Alike : View → View → Prop
  | mk {v w : View} (hkind : v.kind = w.kind) (hspan : v.span = w.span)
    (hbare : v.bare.Agrees w.bare) (hparts : List.Forall₂ Alike v.parts w.parts) : Alike v w

/-- Ways to print a view for which views that are alike take the same comments. -/
def Respects (print : View → Doc) : Prop := ∀ v w, Alike v w → (print v).Agrees (print w)

section Alike

variable {v w : View}

theorem Alike.kind (h : Alike v w) : v.kind = w.kind := by
  cases h
  assumption

theorem Alike.span (h : Alike v w) : v.span = w.span := by
  cases h
  assumption

@[gcongr] theorem Alike.bare (h : Alike v w) : v.bare.Agrees w.bare := by
  cases h
  assumption

@[gcongr] theorem Alike.parts (h : Alike v w) : List.Forall₂ Alike v.parts w.parts := by
  cases h
  assumption

theorem Alike.isAbsent (h : Alike v w) : v.isAbsent = w.isAbsent := by
  rw [View.isAbsent, View.isAbsent, h.kind]

mutual

/-- A view is like itself. -/
theorem Alike.refl : (v : View) → Alike v v
  | .mk kind span bare parts => by
    refine .mk rfl rfl (.refl bare) ?_
    rw [View.parts]
    split
    · exact allAlike_refl parts
    · exact .nil

theorem allAlike_refl : (vs : List View) → List.Forall₂ Alike vs vs
  | [] => .nil
  | v :: rest => .cons (Alike.refl v) (allAlike_refl rest)

end

@[gcongr] theorem Alike.trailing (h : Alike v w) : v.trailing.Agrees w.trailing := by
  rw [View.trailing, View.trailing, h.span]

@[gcongr] theorem Alike.shown (h : Alike v w) : v.shown.Agrees w.shown := by
  unfold View.shown
  gcongr

theorem respects_bare : Respects bare := fun _ _ ↦ Alike.bare

theorem respects_shown : Respects shown := fun _ _ ↦ Alike.shown

@[gcongr] theorem Alike.ifPresent {d e : Doc} (h : Alike v w) (hd : d.Agrees e) :
    (v.ifPresent d).Agrees (w.ifPresent e) := by
  rw [View.ifPresent, View.ifPresent, h.isAbsent]
  split
  · rfl
  · exact hd

@[gcongr] theorem Alike.annotated (h : Alike v w) :
    Doc.Agrees ( annotation v) ( annotation w) := by
  unfold annotation
  gcongr

theorem Alike.led (h : Alike v w) (parent : Span) : (v.led parent).Agrees (w.led parent) := by
  rw [View.led, View.led, h.span]

end Alike

section Lists

variable {vs ws : List View} {print : View → Doc}

theorem isEmpty_eq (h : List.Forall₂ Alike vs ws) : vs.isEmpty = ws.isEmpty := by
  cases h <;> rfl

theorem Respects.map (hprint : Respects print) (h : List.Forall₂ Alike vs ws) :
    List.Forall₂ Doc.Agrees (vs.map print) (ws.map print) := by
  induction h with
  | nil => exact .nil
  | cons hv _ ih => exact .cons (hprint _ _ hv) ih

theorem Respects.delimited (hprint : Respects print) (delimiter : String) (gap : Doc)
    (parent : Span) (h : List.Forall₂ Alike vs ws) :
    (delimited delimiter gap parent print vs).Agrees (delimited delimiter gap parent print ws) := by
  induction h with
  | nil => rfl
  | cons hv hrest ih =>
    have hfirst := (hprint _ _ hv).append (hv.led parent)
    cases hrest with
    | nil => exact hfirst
    | cons hw hrest =>
      exact ((hfirst.append (.refl _)).append (.refl _)).append ih

theorem Respects.listed (hprint : Respects print) (parent : Span) (h : List.Forall₂ Alike vs ws) :
    (listed parent print vs).Agrees (listed parent print ws) :=
  hprint.delimited "," " " parent h

@[gcongr] theorem agrees_listed_bare (parent : Span) (h : List.Forall₂ Alike vs ws) :
    (listed parent bare vs).Agrees (listed parent bare ws) :=
  respects_bare.listed parent h

@[gcongr] theorem agrees_listed_shown (parent : Span) (h : List.Forall₂ Alike vs ws) :
    (listed parent shown vs).Agrees (listed parent shown ws) :=
  respects_shown.listed parent h

@[gcongr] theorem agrees_listedLines (parent : Span) (h : List.Forall₂ Alike vs ws) :
    (listedLines parent bare vs).Agrees (listedLines parent bare ws) := by
  have hinner := respects_bare.delimited "," .line parent h
  unfold listedLines
  gcongr

end Lists

end PageRoutes.Syntax.View
