import Mathlib.Data.List.Forall2
import Mathlib.Tactic.GCongr
import PageRoutes.Syntax.Printer
/-!
# The comments of a printed text

A printed text is made of fragments, which are code or comments, one behind the other. Which
comments stand in it, and in which order, depends on the document and on the store of comments only:
not on what was printed before, nor on lines and indentation. Two documents agree if they take the
same comments in the same order from every store, and leave the same behind.

## Main definitions

* `Fragment`, `Doc.fragments` : the fragments that a document prints.
* `Doc.take` : the comments that a document takes from a store, and what it leaves there.
* `Doc.Agrees` : documents that take the same comments.

## Main results

* `Doc.out_run` : the fragments of a document are its text.
* `Doc.take_eq` : the comments among them are those that the document takes.
* `Doc.Agrees.comments_comments` : a place gives its comments once.
-/

namespace PageRoutes.Syntax

/-- A part of a printed text that is a comment with its marks, or has no comment in it. -/
inductive Fragment where
  | code (text : String)
  | comment (comment : Comment)

namespace Fragment

/-- The text of a fragment. A space stands behind a comment between marks. -/
def text : Fragment → String
  | .code text => text
  | .comment c => if c.isBlock then "/*" ++ c.text ++ "*/ " else "//" ++ c.text

/-- The comment that a fragment is. -/
def comment? : Fragment → Option Comment
  | .code _ => none
  | .comment c => some c

/-- The text of fragments one behind the other. -/
def join (fragments : List Fragment) : String := String.join (fragments.map text)

/-- The comments among fragments, in their order. -/
def comments (fragments : List Fragment) : List Comment := fragments.filterMap comment?

@[simp] theorem join_nil : join [] = "" := rfl

@[simp] theorem join_cons (f : Fragment) (rest : List Fragment) :
    join (f :: rest) = f.text ++ join rest := by
  simp [join]

@[simp] theorem join_append (a b : List Fragment) : join (a ++ b) = join a ++ join b := by
  simp [join]

@[simp] theorem comments_nil : comments [] = [] := rfl

@[simp] theorem comments_append (a b : List Fragment) :
    comments (a ++ b) = comments a ++ comments b :=
  List.filterMap_append

end Fragment

namespace PrintState

/-- What is printed where a fragment is written. -/
def written (f : Fragment) (s : PrintState) : List Fragment :=
  if f.text.isEmpty then [] else if s.isLineStart then [.code (indentation s.depth), f] else [f]

/-- What is printed at the end of a line. -/
def ended (s : PrintState) : List Fragment := if s.isLineStart then [] else [.code "\n"]

/-- The state in which a comment is printed: a space stands before it if it trails something. -/
def beforeComment (side : Side) (s : PrintState) : PrintState :=
  match side with
  | .leading => s
  | .trailing => s.write " "

/-- What is printed for a comment. -/
def commented (side : Side) (s : PrintState) (c : Comment) : List Fragment :=
  let gap : List Fragment :=
    match side with
    | .leading => []
    | .trailing => s.written (.code " ")
  let s := s.beforeComment side
  gap ++ s.written (.comment c) ++
    if c.isBlock then [] else (s.write (Fragment.comment c).text).ended

/-- What is printed for comments one after the other. -/
def allCommented (side : Side) : PrintState → List Comment → List Fragment
  | _, [] => []
  | s, c :: rest => s.commented side c ++ allCommented side (s.writeComment side c) rest

end PrintState

namespace Doc

/-- What a document prints. -/
def fragments : Doc → PrintState → List Fragment
  | .empty, _ => []
  | .text t, s => s.written (.code t)
  | .line, s => s.ended
  | .indented inner, s => inner.fragments { s with depth := s.depth + 1 }
  | .comments side place, s =>
    if place = 0 then []
    else
      PrintState.allCommented side { s with comments := s.comments.remove side place }
        (s.comments.atPlace side place)
  | .append first second, s => first.fragments s ++ second.fragments (first.run s)
  | .ifLed test place yes no, s =>
    if (s.comments.atPlace .leading place).any test then yes.fragments s else no.fragments s

/-- The comments that a document takes from a store, and the store afterwards. -/
def take : Doc → Comments → List Comment × Comments
  | .empty, c | .text _, c | .line, c => ([], c)
  | .indented inner, c => inner.take c
  | .comments side place, c =>
    if place = 0 then ([], c) else (c.atPlace side place, c.remove side place)
  | .append first second, c =>
    let (before, c) := first.take c
    let (after, c) := second.take c
    (before ++ after, c)
  | .ifLed test place yes no, c =>
    if (c.atPlace .leading place).any test then yes.take c else no.take c

end Doc

/-! ### The text of the fragments -/

namespace PrintState

theorem out_write (f : Fragment) (s : PrintState) :
    (s.write f.text).out = s.out ++ Fragment.join (s.written f) := by
  rw [write, written]
  split
  · simp
  · split <;> simp [Fragment.text, String.append_assoc]

theorem out_endLine (s : PrintState) : s.endLine.out = s.out ++ Fragment.join s.ended := by
  rw [endLine, ended]
  split <;> simp [Fragment.text]

/-- A comment is written as its fragment, and ends the line unless it stands between marks. -/
theorem writeComment_eq (side : Side) (s : PrintState) (c : Comment) :
    s.writeComment side c =
      let s := (s.beforeComment side).write (Fragment.comment c).text
      if c.isBlock then s else s.endLine := by
  cases side <;> cases hc : c.isBlock <;> simp [writeComment, beforeComment, Fragment.text, hc]

theorem out_writeComment (side : Side) (s : PrintState) (c : Comment) :
    (s.writeComment side c).out = s.out ++ Fragment.join (s.commented side c) := by
  have hgap : (s.beforeComment side).out = s.out ++ Fragment.join
      (match side with
        | .leading => []
        | .trailing => s.written (.code " ")) := by
    cases side with
    | leading => simp [beforeComment]
    | trailing => exact out_write (.code " ") s
  rw [writeComment_eq]
  cases hc : c.isBlock with
  | true => simp [commented, hc, out_write, hgap, String.append_assoc]
  | false => simp [commented, hc, out_write, out_endLine, hgap, String.append_assoc]

theorem out_foldl_writeComment (side : Side) (cs : List Comment) (s : PrintState) :
    (cs.foldl (writeComment side) s).out = s.out ++ Fragment.join (s.allCommented side cs) := by
  induction cs generalizing s with
  | nil => simp [allCommented]
  | cons c rest ih =>
    rw [List.foldl_cons, ih, out_writeComment, allCommented, Fragment.join_append,
      String.append_assoc]

end PrintState

/-- **The text of a document.** What a document adds to the text are its fragments. -/
theorem Doc.out_run (d : Doc) (s : PrintState) :
    (d.run s).out = s.out ++ Fragment.join (d.fragments s) := by
  induction d generalizing s with
  | empty => simp [run, fragments]
  | text t => exact PrintState.out_write (.code t) s
  | line => exact PrintState.out_endLine s
  | indented inner ih => exact ih { s with depth := s.depth + 1 }
  | comments side place =>
    rw [run, PrintState.writeComments, fragments]
    split
    · simp
    · rw [PrintState.out_foldl_writeComment]
  | append first second hfirst hsecond =>
    rw [run, hsecond, hfirst, fragments, Fragment.join_append, String.append_assoc]
  | ifLed test place yes no hyes hno =>
    rw [run, fragments]
    split
    · exact hyes s
    · exact hno s

/-! ### The comments among the fragments -/

namespace PrintState

/-- Writing takes no comments from the store. -/
@[simp] theorem comments_write (t : String) (s : PrintState) :
    (s.write t).comments = s.comments := by
  unfold write
  split
  · rfl
  · split <;> rfl

@[simp] theorem comments_endLine (s : PrintState) : s.endLine.comments = s.comments := by
  unfold endLine
  split <;> rfl

@[simp] theorem comments_writeComment (side : Side) (s : PrintState) (c : Comment) :
    (s.writeComment side c).comments = s.comments := by
  rw [writeComment_eq]
  cases side <;> cases c.isBlock <;> simp [beforeComment]

theorem comments_foldl_writeComment (side : Side) (cs : List Comment) (s : PrintState) :
    (cs.foldl (writeComment side) s).comments = s.comments := by
  induction cs generalizing s with
  | nil => rfl
  | cons c rest ih => rw [List.foldl_cons, ih, comments_writeComment]

theorem comments_written_code (t : String) (s : PrintState) :
    Fragment.comments (s.written (.code t)) = [] := by
  rw [written]
  split
  · rfl
  · split <;> rfl

theorem comments_written_comment (c : Comment) (s : PrintState) :
    Fragment.comments (s.written (.comment c)) = [c] := by
  have htext : (Fragment.comment c).text.isEmpty = false := by
    rw [String.isEmpty_eq_false_iff, Fragment.text]
    split <;> simp
  rw [written, htext, if_neg Bool.false_ne_true]
  split <;> rfl

theorem comments_ended (s : PrintState) : Fragment.comments s.ended = [] := by
  rw [ended]
  split <;> rfl

theorem comments_commented (side : Side) (s : PrintState) (c : Comment) :
    Fragment.comments (s.commented side c) = [c] := by
  cases side <;> cases hc : c.isBlock <;>
    simp [commented, hc, comments_written_code, comments_written_comment, comments_ended]

theorem comments_allCommented (side : Side) (cs : List Comment) (s : PrintState) :
    Fragment.comments (s.allCommented side cs) = cs := by
  induction cs generalizing s with
  | nil => rfl
  | cons c rest ih =>
    rw [allCommented, Fragment.comments_append, comments_commented, ih, List.singleton_append]

end PrintState

/-- **The comments of a document.** The comments among the fragments of a document are those that it
takes from the store, and the store afterwards is what it leaves. -/
theorem Doc.take_eq (d : Doc) (s : PrintState) :
    d.take s.comments = (Fragment.comments (d.fragments s), (d.run s).comments) := by
  induction d generalizing s with
  | empty => rfl
  | text t => rw [take, fragments, run, PrintState.comments_written_code, PrintState.comments_write]
  | line => rw [take, fragments, run, PrintState.comments_ended, PrintState.comments_endLine]
  | indented inner ih => exact ih { s with depth := s.depth + 1 }
  | comments side place =>
    rw [take, fragments, run, PrintState.writeComments]
    split
    · rfl
    · rw [PrintState.comments_allCommented, PrintState.comments_foldl_writeComment]
  | append first second hfirst hsecond =>
    rw [take, hfirst s]
    simp only
    rw [hsecond (first.run s), fragments, run, Fragment.comments_append]
  | ifLed test place yes no hyes hno =>
    rw [take, fragments, run]
    split
    · exact hyes s
    · exact hno s

/-! ### Modules -/

/-- The fragments that a module is printed in. -/
def Module.fragments (m : Module) : List Fragment :=
  m.tree.view.bare.fragments { comments := m.comments }

/-- The fragments of a module are its text. -/
theorem Module.join_fragments (m : Module) : Fragment.join m.fragments = m.print := by
  rw [print, Doc.render, Doc.out_run, fragments]
  simp

theorem Module.comments_fragments (m : Module) :
    Fragment.comments m.fragments = (m.tree.view.bare.take m.comments).1 := by
  rw [fragments, Doc.take_eq _ { comments := m.comments }]

/-! ### Documents that take the same comments -/

namespace Doc

/-- Documents that take the same comments from every store, in the same order, and leave the same.
-/
def Agrees (d e : Doc) : Prop := ∀ c, d.take c = e.take c

section Agrees

variable {d d' e e' : Doc}

@[refl] theorem Agrees.refl (d : Doc) : d.Agrees d := fun _ ↦ rfl

theorem Agrees.symm (h : d.Agrees e) : e.Agrees d := fun c ↦ (h c).symm

theorem Agrees.trans (h : d.Agrees e) (h' : e.Agrees e') : d.Agrees e' := fun c ↦ (h c).trans (h' c)

instance : Trans Agrees Agrees Agrees := ⟨Agrees.trans⟩

@[gcongr] theorem Agrees.append (hd : d.Agrees d') (he : e.Agrees e') :
    (d ++ e).Agrees (d' ++ e') := by
  intro c
  change Doc.take (.append d e) c = Doc.take (.append d' e') c
  simp only [take, hd c, he _]

@[gcongr] theorem Agrees.indented (h : d.Agrees e) : (Doc.indented d).Agrees (.indented e) := h

@[gcongr] theorem Agrees.ifLed {test : Comment → Bool} {place : Nat} (hd : d.Agrees d')
    (he : e.Agrees e') : (Doc.ifLed test place d e).Agrees (.ifLed test place d' e') := by
  intro c
  simp only [take, hd c, he c]

@[gcongr] theorem Agrees.when {condition : Bool} (h : d.Agrees e) :
    (Doc.when condition d).Agrees (.when condition e) := by
  cases condition with
  | true => exact h
  | false => rfl

/-! ### Lists of documents -/

section Lists

variable {ds es : List Doc}

@[gcongr] theorem Agrees.concat (h : List.Forall₂ Agrees ds es) :
    (Doc.concat ds).Agrees (Doc.concat es) := by
  induction h with
  | nil => rfl
  | cons hd _ ih => exact hd.append ih

@[gcongr] theorem Agrees.separated {separator : Doc} (h : List.Forall₂ Agrees ds es) :
    (Doc.separated separator ds).Agrees (Doc.separated separator es) := by
  induction h with
  | nil => rfl
  | cons hd hrest ih =>
    cases hrest with
    | nil => exact hd
    | cons he hrest => exact (hd.append (.refl _)).append ih

@[gcongr] theorem Agrees.lines (h : List.Forall₂ Agrees ds es) :
    (Doc.lines ds).Agrees (Doc.lines es) := by
  unfold Doc.lines
  gcongr

end Lists

/-! ### Documents that take nothing more -/

theorem Agrees.append_assoc (a b c : Doc) : (a ++ b ++ c).Agrees (a ++ (b ++ c)) := by
  intro store
  change Doc.take (.append (.append a b) c) store = Doc.take (.append a (.append b c)) store
  simp only [take, List.append_assoc]

/-- In front of a document that takes nothing, -/
theorem Agrees.empty_append (d : Doc) : (.empty ++ d : Doc).Agrees d := fun _ ↦ rfl

/-- and behind it, a document takes what it takes alone. -/
theorem Agrees.append_empty (d : Doc) : (d ++ .empty : Doc).Agrees d := by
  intro c
  change Doc.take (.append d .empty) c = _
  simp [take]

theorem Agrees.text (t : String) : (Doc.text t).Agrees .empty := fun _ ↦ rfl

/-- **A place gives its comments once.** Asked again, it has none. -/
theorem Agrees.comments_comments (side : Side) (place : Nat) :
    (.comments side place ++ .comments side place : Doc).Agrees (.comments side place) := by
  intro c
  change Doc.take (.append (.comments side place) (.comments side place)) c = _
  simp only [take]
  split
  · rfl
  · simp [Comments.atPlace, Comments.remove, List.filter_filter]

end Agrees

end Doc

end PageRoutes.Syntax
