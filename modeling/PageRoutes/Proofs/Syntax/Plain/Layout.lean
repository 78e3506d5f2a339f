import PageRoutes.Proofs.Syntax.Comments
import PageRoutes.Proofs.Syntax.Plain
/-!
# Printing plain programs

The printer gives a plain program the text that belongs to it, whatever the ranges of its nodes are.
Between two tokens it prints what separates them, the comments that have a place there, and the
blanks and ends of lines that go with comments. So what is printed are the pieces of the program
with more blanks and comments between them.

## Main definitions

* `Plain.Printed` : the pieces of fragments, up to blanks and comments.
* `Doc.Prints` : the pieces that a document prints.

## Main results

* `Doc.Prints.comments` : a place prints blanks and comments.
* `Plain.print_program` : a plain program is printed as its pieces.
-/

namespace PageRoutes.Syntax

/-! ### Fragments -/

namespace Plain

/-- Fragments that are some pieces, with more blanks and comments between them. -/
def Printed (fragments : List Fragment) (pieces : List Piece) : Prop :=
  ∃ more, Adorned pieces more ∧ text more = (Fragment.join fragments).toList ∧
    comments more = Fragment.comments fragments

namespace Printed

variable {f g : List Fragment} {a b : List Piece} {c : Comment}

theorem nil : Printed [] [] := ⟨[], .nil, rfl, rfl⟩

theorem append (hf : Printed f a) (hg : Printed g b) : Printed (f ++ g) (a ++ b) := by
  obtain ⟨a', ha, hatext, hacomments⟩ := hf
  obtain ⟨b', hb, hbtext, hbcomments⟩ := hg
  refine ⟨a' ++ b', ha.append hb, ?_, ?_⟩
  · rw [text_append, hatext, hbtext, Fragment.join_append, String.toList_append]
  · rw [comments_append, hacomments, hbcomments, Fragment.comments_append]

theorem indentation (depth : Nat) : Printed [.code (PrintState.indentation depth)] [] := by
  have hspaces (n : Nat) : Adorned [] (List.replicate n .space) ∧
      text (List.replicate n .space) = List.replicate n ' ' ∧
      comments (List.replicate n .space) = [] := by
    induction n with
    | zero => exact ⟨.nil, rfl, rfl⟩
    | succ n ih =>
      refine ⟨.add rfl ih.1, ?_, ih.2.2⟩
      rw [List.replicate_succ, text_cons, ih.2.1]
      rfl
  obtain ⟨hadorned, htext, hcomments⟩ := hspaces (4 * depth)
  exact ⟨_, hadorned, by simpa [Fragment.text, PrintState.indentation] using htext, hcomments⟩

theorem space : Printed [.code " "] [] := ⟨[.space], .add rfl .nil, rfl, rfl⟩

theorem line : Printed [.code "\n"] [] := ⟨[.line], .add rfl .nil, rfl, rfl⟩

theorem ended (s : PrintState) : Printed s.ended [] := by
  rw [PrintState.ended]
  split
  · exact nil
  · exact line

/-- Code is written behind the indentation, if any. -/
theorem written {t : String} (h : Printed [.code t] a) (s : PrintState) :
    Printed (s.written (.code t)) a := by
  rw [PrintState.written]
  split
  · next hempty =>
    obtain ⟨more, hmore, htext, hcomments⟩ := h
    obtain rfl : t = "" := String.isEmpty_iff.mp hempty
    exact ⟨more, hmore, htext, hcomments⟩
  · split
    · exact (indentation s.depth).append h
    · exact h

/-- A comment is written as itself, with a blank or the end of the line behind it. -/
theorem commented (side : Side) (s : PrintState) : Printed (s.commented side c) [] := by
  have hspelled (s : PrintState) : Printed (s.written (.comment c) ++
      if c.isBlock then [] else (s.write (Fragment.comment c).text).ended) [] := by
    have hnonempty : (Fragment.comment c).text.isEmpty = false := by
      rw [String.isEmpty_eq_false_iff, Fragment.text]
      split <;> simp
    have hcomment : Printed (.comment c :: if c.isBlock then [] else [.code "\n"]) [] := by
      cases hblock : c.isBlock with
      | true =>
        exact ⟨[.comment c, .space], .add rfl (.add rfl .nil),
          by simp [Piece.text, Lexer.spelled, Fragment.text, hblock], rfl⟩
      | false =>
        exact ⟨[.comment c], .add rfl .nil,
          by simp [Piece.text, Lexer.spelled, Fragment.text, hblock], rfl⟩
    have hended : (s.write (Fragment.comment c).text).ended = [.code "\n"] := by
      rw [PrintState.ended, PrintState.write, hnonempty]
      cases s.isLineStart <;> rfl
    rw [PrintState.written, hnonempty, hended]
    cases s.isLineStart with
    | true => exact (indentation s.depth).append hcomment
    | false => exact hcomment
  cases side with
  | leading => exact hspelled s
  | trailing =>
    rw [PrintState.commented.eq_def, List.append_assoc]
    exact (space.written s).append (hspelled _)

theorem allCommented (side : Side) (s : PrintState) (cs : List Comment) :
    Printed (s.allCommented side cs) [] := by
  induction cs generalizing s with
  | nil => exact nil
  | cons c rest ih => exact (commented side s).append (ih _)

end Printed

end Plain

/-! ### Documents -/

namespace Doc

/-- The pieces that a document prints, whatever comments are printed between them. -/
def Prints (d : Doc) (pieces : List Plain.Piece) : Prop :=
  ∀ s : PrintState, Plain.Printed (d.fragments s) pieces

namespace Prints

variable {d e : Doc} {a b : List Plain.Piece}

theorem text {t : String} (htext : Plain.text a = t.toList) (hnone : Plain.comments a = []) :
    Prints t a := by
  have hcode : Plain.Printed [.code t] a :=
    ⟨a, .refl a, by simpa [Fragment.text] using htext, hnone⟩
  exact hcode.written

theorem empty : Prints .empty [] := fun _ ↦ .nil

theorem line : Prints .line [] := Plain.Printed.ended

/-- The comments of a place are printed with blanks around them. -/
theorem comments (side : Side) (place : Nat) : Prints (.comments side place) [] := by
  intro s
  rw [fragments]
  split
  · exact .nil
  · exact .allCommented side _ _

theorem append (hd : d.Prints a) (he : e.Prints b) : (d ++ e).Prints (a ++ b) := fun s ↦
  (hd s).append (he (d.run s))

theorem when_neg {c : Bool} (hc : c = false) : (Doc.when c d).Prints [] := by
  rw [hc]
  exact empty

theorem when_pos {c : Bool} (hc : c = true) (h : d.Prints a) : (Doc.when c d).Prints a := by
  rwa [hc]

theorem concat {docs : List Doc} {parts : List (List Plain.Piece)}
    (h : List.Forall₂ Prints docs parts) : (Doc.concat docs).Prints parts.flatten := by
  induction h with
  | nil => exact empty
  | cons hd _ ih => exact hd.append ih

/-- A comma and the blank behind it. -/
theorem comma : Prints ", " [.symbol ",", .space] := text rfl rfl

/-- Documents with a comma between them. -/
theorem separated {docs : List Doc} {parts : List (List Plain.Piece)}
    (h : List.Forall₂ Prints docs parts) :
    (Doc.separated ", " docs).Prints (Plain.listed parts) := by
  induction h with
  | nil => exact empty
  | cons hd hdocs ih =>
    cases hdocs with
    | nil => exact hd
    | cons he hdocs =>
      have hrest := (hd.append comma).append ih
      rwa [List.append_assoc] at hrest

/-- Views with a comma between them. -/
theorem listed {parent : Span} {print : View → Doc} {views : List View}
    {parts : List (List Plain.Piece)}
    (h : List.Forall₂ (fun v p ↦ (print v).Prints p) views parts) :
    (View.listed parent print views).Prints (Plain.listed parts) := by
  have hled (v : View) : (v.led parent).Prints [] := by
    unfold View.led
    split
    · exact empty
    · exact comments _ _
  induction h with
  | nil => exact empty
  | @cons v p views parts hv hviews ih =>
    have hled' : (print v ++ v.led parent).Prints p := by
      rw [← List.append_nil p]
      exact hv.append (hled v)
    cases hviews with
    | nil => exact hled'
    | cons hw hviews =>
      have hcomma : Prints "," [.symbol ","] := text rfl rfl
      have hspace : Prints " " [.space] := text rfl rfl
      have hrest := ((hled'.append hcomma).append hspace).append ih
      rwa [List.append_assoc, List.append_assoc] at hrest

end Prints

end Doc

namespace Plain

open Doc

/-! ### Views -/

theorem viewAll_eq_map (nodes : List Node) : viewAll nodes = nodes.map Node.view := by
  induction nodes with
  | nil => rfl
  | cons n rest ih => rw [viewAll, ih, List.map_cons]

section Views

variable {kind : Kind} {span : Span} {children : List Node} {n : Node} {pieces : List Piece}

/-- A node is printed by its layout, -/
theorem prints_bare (h : (View.moduleDoc kind span (children.map Node.view)).Prints pieces) :
    (Node.mk kind span children).view.bare.Prints pieces := by
  rw [Node.view, viewAll_eq_map]
  exact (Prints.comments _ _).append h

/-- and nothing but comments stand behind it. -/
theorem prints_shown (h : n.view.bare.Prints pieces) : n.view.shown.Prints pieces := by
  rw [← List.append_nil pieces]
  exact h.append (Prints.comments _ _)

theorem kind_view (n : Node) : n.view.kind = n.kind := by
  cases n
  rw [Node.view]
  rfl

theorem parts_view (h : View.isOpen n.kind) : n.view.parts = n.children.map Node.view := by
  cases n
  rw [Node.view, viewAll_eq_map]
  exact if_pos h

theorem exists_of_withoutSpans {children : List Node}
    (h : n.withoutSpans = .mk kind .none children) :
    ∃ span children', n = .mk kind span children' ∧
      children'.map Node.withoutSpans = children := by
  obtain ⟨kind', span, children'⟩ := n
  rw [Node.withoutSpans, Node.allWithoutSpans_eq_map] at h
  cases h
  exact ⟨span, children', rfl, rfl⟩

theorem forall₂_of_map_eq {ι β : Type} {children : List Node} {items : List ι} {node : ι → Node}
    {part : ι → β} {R : Node → β → Prop} (h : children.map Node.withoutSpans = items.map node)
    (hR : ∀ i ∈ items, ∀ n, n.withoutSpans = node i → R n (part i)) :
    List.Forall₂ R children (items.map part) := by
  induction items generalizing children with
  | nil =>
    obtain rfl := List.map_eq_nil_iff.mp h
    exact .nil
  | cons i items ih =>
    obtain ⟨n, rest, rfl, hn, hrest⟩ := List.map_eq_cons_iff.mp h
    obtain ⟨hi, hitems⟩ := List.forall_mem_cons.mp hR
    exact .cons (hi n hn) (ih hrest hitems)

end Views

/-! ### Expressions -/

theorem prints_word {n : Node} {w : Word} (h : n.withoutSpans = w.node) :
    n.view.bare.Prints [.word w] := by
  obtain ⟨span, children, rfl, hchildren⟩ := exists_of_withoutSpans h
  obtain rfl := List.map_eq_nil_iff.mp hchildren
  have hword : Prints w.text [.word w] := .text (List.append_nil _) rfl
  exact prints_bare (hword.append .empty)

theorem prints_quoted {n : Node} {s : Quoted} (h : n.withoutSpans = s.node) :
    n.view.bare.Prints [.string s] := by
  obtain ⟨span, children, rfl, hchildren⟩ := exists_of_withoutSpans h
  obtain rfl := List.map_eq_nil_iff.mp hchildren
  exact prints_bare (.text (by simp [Piece.text, Quoted.raw]) rfl)

theorem prints_head {n : Node} {head : Head} (h : n.withoutSpans = head.node) :
    n.view.bare.Prints [head.piece] := by
  cases head with
  | name name =>
    obtain ⟨span, children, rfl, hchildren⟩ := exists_of_withoutSpans h
    obtain rfl := List.map_eq_nil_iff.mp hchildren
    exact prints_bare (.text (List.append_nil _) rfl)
  | string s => exact prints_quoted h

/-- An operand is printed as it is, in front of any link. -/
theorem prints_callee {n : Node} {pieces : List Piece} (h : n.view.bare.Prints pieces) :
    (View.callee n.view).Prints pieces ∧ (View.operand n.view).Prints pieces := by
  constructor
  · unfold View.callee
    split <;> first | exact h | exact prints_shown h
  · unfold View.operand
    split <;> first | exact h | exact prints_shown h

/-- An object is printed in front of its member. -/
theorem prints_member {object property : Node} {span : Span} {pieces : List Piece} {w : Word}
    (h : object.view.bare.Prints pieces) (hkind : IsPlainKind object.kind)
    (hproperty : property.withoutSpans = w.node) :
    (Node.mk .member span [object, property]).view.bare.Prints
      (pieces ++ (Link.member w).pieces) := by
  have hdot : View.takesDot object.view = false := by
    rw [View.takesDot, kind_view]
    unfold IsPlainKind at hkind
    split at hkind <;> simp_all
  have hname : property.view.kind = .name w.text false := by
    rw [kind_view, ← Node.kind_withoutSpans, hproperty]
    rfl
  have hpoint : Prints "." [.symbol "."] := .text rfl rfl
  have hdotted : (View.dotted property.view).Prints (Link.member w).pieces :=
    ((Prints.comments _ _).append hpoint).append (prints_word hproperty)
  have hlink : (View.property object.view property.view).Prints (Link.member w).pieces := by
    unfold View.property
    rw [hname]
    exact (Prints.when_neg hdot).append hdotted
  exact prints_bare ((prints_callee h).2.append hlink)

/-- A callee is printed in front of the arguments of its call. -/
theorem prints_call {function group : Node} {span : Span} {pieces : List Piece} {args : List Expr}
    (h : function.view.bare.Prints pieces) (hgroup : group.withoutSpans = .group (argNodes args))
    (hargs : ∀ a ∈ args, ∀ n : Node, n.withoutSpans = a.node → n.view.bare.Prints a.pieces)
    {absent : Node} (habsent : absent.withoutSpans = .absent) :
    (Node.mk .call span [function, group, absent]).view.bare.Prints
      (pieces ++ (Link.call args).pieces) := by
  obtain ⟨span', children, rfl, hchildren⟩ := exists_of_withoutSpans hgroup
  obtain ⟨span'', children', rfl, hchildren'⟩ := exists_of_withoutSpans habsent
  obtain rfl := List.map_eq_nil_iff.mp hchildren'
  have hlist : (View.listed span View.shown (Node.mk .group span' children).view.parts).Prints
      (listed (argPieces args)) := by
    rw [argNodes_eq_map] at hchildren
    rw [parts_view rfl, argPieces_eq_map]
    refine .listed (List.forall₂_map_left_iff.mpr (forall₂_of_map_eq hchildren fun a ha n hn ↦ ?_))
    exact prints_shown (hargs a ha n hn)
  have hempty : (Node.mk .absent span'' []).view.bare.Prints [] := prints_bare .empty
  have hopen : Prints "(" [.symbol "("] := .text rfl rfl
  have hclose : Prints ")" [.symbol ")"] := .text rfl rfl
  have hcall := (((prints_callee h).1.append hempty).append
    ((hopen.append hlist).append hclose)).append (.comments .trailing span.hi)
  rw [List.append_nil, List.append_nil] at hcall
  exact prints_bare hcall

/-- **Expressions.** An expression is printed as its pieces. -/
theorem prints_expr (e : Expr) {n : Node} (h : n.withoutSpans = e.node) :
    n.view.bare.Prints e.pieces := by
  induction e using Expr.induct generalizing n with
  | of head links ih =>
    rw [Expr.pieces]
    rw [Expr.node] at h
    -- the last link is the root of the tree
    induction links using List.reverseRecOn generalizing n with
    | nil => exact prints_head h
    | append_singleton links last ihlinks =>
      have hbefore (object : Node) (hobject : object.withoutSpans = linkNode head.node links) :
          object.view.bare.Prints (head.piece :: linkPieces links) :=
        ihlinks (fun args hmem ↦ ih args (List.mem_append_left _ hmem)) hobject
      have hpieces : head.piece :: linkPieces (links ++ [last]) =
          head.piece :: linkPieces links ++ last.pieces := by
        simp [linkPieces_eq_flatMap]
      rw [linkNode_append, linkNode, linkNode] at h
      rw [hpieces]
      cases last with
      | member w =>
        obtain ⟨span, children, rfl, hchildren⟩ := exists_of_withoutSpans h
        obtain ⟨object, rest, rfl, hobject, hrest⟩ := List.map_eq_cons_iff.mp hchildren
        obtain ⟨property, rfl, hproperty⟩ := List.map_eq_singleton_iff.mp hrest
        exact prints_member (hbefore object hobject) (isPlainKind_of_withoutSpans _ hobject)
          hproperty
      | call args =>
        obtain ⟨span, children, rfl, hchildren⟩ := exists_of_withoutSpans h
        obtain ⟨function, rest, rfl, hfunction, hrest⟩ := List.map_eq_cons_iff.mp hchildren
        obtain ⟨group, rest, rfl, hgroup, hrest⟩ := List.map_eq_cons_iff.mp hrest
        obtain ⟨absent, rfl, habsent⟩ := List.map_eq_singleton_iff.mp hrest
        exact prints_call (hbefore function hfunction) hgroup
          (fun a ha n hn ↦ ih args (by simp) a ha hn) habsent

/-! ### Imports -/

theorem kind_view_of_withoutSpans {n node : Node} (h : n.withoutSpans = node) :
    n.view.kind = node.kind := by
  rw [kind_view, ← h, Node.kind_withoutSpans]

theorem prints_imported (i : Imported) {n : Node} (h : n.withoutSpans = i.node) :
    n.view.bare.Prints i.pieces := by
  obtain ⟨original, name⟩ := i
  obtain ⟨span, children, rfl, hchildren⟩ := exists_of_withoutSpans h
  obtain ⟨imported, rest, rfl, himported, hrest⟩ := List.map_eq_cons_iff.mp hchildren
  obtain ⟨local_, rfl, hlocal⟩ := List.map_eq_singleton_iff.mp hrest
  have hrenamed {pieces : List Piece}
      (h : (imported.view.ifPresent (imported.view.bare ++ " as ")).Prints pieces) :
      (Node.mk (.importNamed false) span [imported, local_]).view.bare.Prints
        (pieces ++ [.word name.word]) :=
    prints_bare (((Prints.when_neg rfl).append h).append (prints_word hlocal))
  have hkind := kind_view_of_withoutSpans himported
  refine hrenamed ?_
  rw [View.ifPresent, View.isAbsent, hkind]
  cases original with
  | none => exact .empty
  | some w =>
    have has : Prints " as " [.space, .word (fixedWord "as"), .space] := .text rfl rfl
    exact (prints_word himported).append has

/-- Names are printed in braces. -/
theorem prints_nameBraces (span : Span) {names : List Imported} (hne : names ≠ [])
    {nodes : List Node} (h : nodes.map Node.withoutSpans = names.map Imported.node) :
    (View.nameBraces span (nodes.map Node.view)).Prints
      ([.symbol "\x7b", .space] ++ listed (names.map Imported.pieces) ++
        [.space, .symbol "\x7d"]) := by
  have hnodes : nodes ≠ [] := by
    rintro rfl
    exact hne (List.map_eq_nil_iff.mp h.symm)
  have hlist : (View.listed span View.bare (nodes.map Node.view)).Prints
      (listed (names.map Imported.pieces)) :=
    .listed (List.forall₂_map_left_iff.mpr
      (forall₂_of_map_eq h fun i _ n hn ↦ prints_imported i hn))
  have hopen : Prints "\x7b " [.symbol "\x7b", .space] := .text rfl rfl
  have hspace : Prints " " [.space] := .text rfl rfl
  have hclose : Prints "\x7d" [.symbol "\x7d"] := .text rfl rfl
  have hbraces := ((hopen.append hlist).append
    (.when_pos (c := !(nodes.map Node.view).isEmpty) (by simp [hnodes]) hspace)).append hclose
  rwa [List.append_assoc _ [Piece.space]] at hbraces

/-- The specifiers that stand alone are printed in front of those in braces. -/
theorem specifierList_append (span : Span) {lone named : List View}
    (hlone : ∀ v ∈ lone, View.isNamed v = false) (hnamed : ∀ v ∈ named, View.isNamed v) :
    View.specifierList span (lone ++ named) = Doc.separated ", " (lone.map View.bare ++
      if named = [] then [] else [View.nameBraces span named]) := by
  have hnone : lone.filter View.isNamed = [] := List.filter_eq_nil_iff.mpr (by simpa using hlone)
  have hall : named.filter View.isNamed = named := List.filter_eq_self.mpr hnamed
  have hkept : lone.filter (fun v ↦ !View.isNamed v) = lone :=
    List.filter_eq_self.mpr (by simpa using hlone)
  have hdropped : named.filter (fun v ↦ !View.isNamed v) = [] :=
    List.filter_eq_nil_iff.mpr (by simpa using hnamed)
  rw [View.specifierList, List.filter_append, List.filter_append, hnone, hall, hkept, hdropped]
  cases named <;> simp

/-- Whether a specifier stands in braces can be told from its kind. -/
theorem isNamed_of_mem {nodes trees : List Node} (h : nodes.map Node.withoutSpans = trees)
    {b : Bool} (htrees : ∀ tree ∈ trees, View.isNamed tree.view = b) :
    ∀ v ∈ nodes.map Node.view, View.isNamed v = b := by
  intro v hv
  obtain ⟨n, hn, rfl⟩ := List.mem_map.mp hv
  have hkind := htrees n.withoutSpans (h ▸ List.mem_map_of_mem hn)
  rwa [View.isNamed, kind_view, Node.kind_withoutSpans, ← kind_view, ← View.isNamed] at hkind

theorem prints_importDefault {w : Word} {n : Node}
    (h : n.withoutSpans = .mk .importDefault .none [w.node]) : n.view.bare.Prints [.word w] := by
  obtain ⟨span, children, rfl, hchildren⟩ := exists_of_withoutSpans h
  obtain ⟨node, rfl, hnode⟩ := List.map_eq_singleton_iff.mp hchildren
  exact prints_bare (prints_word hnode)

theorem prints_importNamespace {w : Word} {n : Node}
    (h : n.withoutSpans = .mk .importNamespace .none [w.node]) :
    n.view.bare.Prints [.symbol "*", .space, .word (fixedWord "as"), .space, .word w] := by
  obtain ⟨span, children, rfl, hchildren⟩ := exists_of_withoutSpans h
  obtain ⟨node, rfl, hnode⟩ := List.map_eq_singleton_iff.mp hchildren
  have hstar : Prints "* as " [.symbol "*", .space, .word (fixedWord "as"), .space] :=
    .text rfl rfl
  exact prints_bare (hstar.append (prints_word hnode))

/-- What an import binds is printed between commas. -/
theorem prints_specifierList (span : Span) {default : Option Name} {list : Listed}
    {nodes : List Node} (h : nodes.map Node.withoutSpans = bindingNodes default list) :
    (View.specifierList span (nodes.map Node.view)).Prints
      (listed (bindings default list)) := by
  obtain ⟨first, others, rfl, hfirst, hothers⟩ := List.map_eq_append_iff.mp h
  have hdefault : List.Forall₂ Prints
      ((first.map Node.view).map View.bare) (default.toList.map fun n ↦ [.word n.word]) := by
    rw [List.map_map, List.forall₂_map_left_iff]
    exact forall₂_of_map_eq hfirst fun name _ n hn ↦ prints_importDefault hn
  have hlone : ∀ v ∈ first.map Node.view, View.isNamed v = false := by
    refine isNamed_of_mem hfirst fun tree htree ↦ ?_
    obtain ⟨name, -, rfl⟩ := List.mem_map.mp htree
    rfl
  rw [List.map_append, bindings]
  cases list with
  | all name =>
    obtain ⟨n, rfl, hn⟩ := List.map_eq_singleton_iff.mp hothers
    have hlone' : ∀ v ∈ first.map Node.view ++ [n.view], View.isNamed v = false := by
      refine List.forall_mem_append.mpr ⟨hlone, List.forall_mem_singleton.mpr ?_⟩
      rw [View.isNamed, kind_view_of_withoutSpans hn]
      rfl
    have hdocs := specifierList_append span hlone' (List.forall_mem_nil _)
    rw [List.append_nil, if_pos rfl, List.append_nil, List.map_append] at hdocs
    rw [List.map_singleton, hdocs]
    exact .separated (List.rel_append hdefault (.cons (prints_importNamespace hn) .nil))
  | named names =>
    have hnamed : ∀ v ∈ others.map Node.view, View.isNamed v := by
      refine isNamed_of_mem hothers fun tree htree ↦ ?_
      obtain ⟨name, -, rfl⟩ := List.mem_map.mp htree
      rfl
    rw [specifierList_append span hlone hnamed]
    refine .separated (List.rel_append hdefault ?_)
    cases names with
    | nil =>
      obtain rfl := List.map_eq_nil_iff.mp hothers
      exact .nil
    | cons name rest =>
      have hne : others.map Node.view ≠ [] := by
        rintro heq
        rw [List.map_eq_nil_iff.mp heq] at hothers
        cases hothers
      rw [if_neg hne]
      exact .cons (prints_nameBraces span (List.cons_ne_nil _ _) hothers) .nil

/-! ### Items -/

theorem prints_semicolon : Prints ";" [.symbol ";"] := .text rfl rfl

theorem prints_import {default : Option Name} {list : Listed} {source : Quoted} {n : Node}
    (h : n.withoutSpans = (Item.imports default list source).node) :
    n.view.bare.Prints (Item.imports default list source).pieces := by
  obtain ⟨span, children, rfl, hchildren⟩ := exists_of_withoutSpans h
  obtain ⟨group, rest, rfl, hgroup, hrest⟩ := List.map_eq_cons_iff.mp hchildren
  obtain ⟨source', rest, rfl, hsource, hrest⟩ := List.map_eq_cons_iff.mp hrest
  obtain ⟨attributes, rfl, hattributes⟩ := List.map_eq_singleton_iff.mp hrest
  obtain ⟨span', nodes, rfl, hnodes⟩ := exists_of_withoutSpans hgroup
  have habsent : (View.attributes attributes.view).Prints [] := by
    rw [View.attributes, View.ifPresent, View.isAbsent, kind_view_of_withoutSpans hattributes]
    exact .empty
  have hsource' : (View.source source'.view attributes.view).Prints
      [.string source, .symbol ";"] :=
    ((prints_quoted hsource).append habsent).append prints_semicolon
  have hspecifiers : (Doc.when (!(Node.mk .group span' nodes).view.parts.isEmpty)
      (View.specifierList span (Node.mk .group span' nodes).view.parts ++ " from ")).Prints
        (if bindings default list = [] then [] else
          listed (bindings default list) ++ [.space, .word (fixedWord "from"), .space]) := by
    have hempty : nodes = [] ↔ bindings default list = [] := by
      rw [← List.map_eq_nil_iff (f := Node.withoutSpans), hnodes]
      cases default <;> rcases list with _ | (_ | _) <;>
        simp [bindings, bindingNodes, Listed.nodes, Listed.parts]
    have hfrom : Prints " from " [.space, .word (fixedWord "from"), .space] := .text rfl rfl
    rw [parts_view rfl]
    by_cases hbindings : bindings default list = []
    · rw [if_pos hbindings]
      exact .when_neg (by simp [Node.children, hempty.mpr hbindings])
    · rw [if_neg hbindings]
      exact .when_pos (by simp [Node.children, mt hempty.mp hbindings])
        ((prints_specifierList span hnodes).append hfrom)
  have himport : Prints "import " [.word (fixedWord "import"), .space] := .text rfl rfl
  exact prints_bare (((himport.append (.when_neg rfl)).append hspecifiers).append hsource')

theorem prints_binding {name : Name} {n : Node}
    (h : n.withoutSpans = .mk .bindingName .none [name.word.node, .absent]) :
    n.view.bare.Prints [.word name.word] := by
  obtain ⟨span, children, rfl, hchildren⟩ := exists_of_withoutSpans h
  obtain ⟨node, rest, rfl, hnode, hrest⟩ := List.map_eq_cons_iff.mp hchildren
  obtain ⟨type, rfl, htype⟩ := List.map_eq_singleton_iff.mp hrest
  have hnone : (View.annotation type.view).Prints [] := by
    rw [View.annotation, View.ifPresent, View.isAbsent, kind_view_of_withoutSpans htype]
    exact .empty
  exact prints_bare ((prints_word hnode).append hnone)

theorem prints_declarator {name : Name} {e : Expr} {n : Node}
    (h : n.withoutSpans =
      .mk .declarator .none [.mk .bindingName .none [name.word.node, .absent], e.node]) :
    n.view.bare.Prints ([.word name.word, .space, .symbol "=", .space] ++ e.pieces) := by
  obtain ⟨span, children, rfl, hchildren⟩ := exists_of_withoutSpans h
  obtain ⟨pattern, rest, rfl, hpattern, hrest⟩ := List.map_eq_cons_iff.mp hchildren
  obtain ⟨value, rfl, hvalue⟩ := List.map_eq_singleton_iff.mp hrest
  have hpresent : value.view.isAbsent = false := by
    obtain ⟨head, links⟩ := e
    have hkind := isPlainKind_of_withoutSpans links hvalue
    rw [View.isAbsent, kind_view]
    unfold IsPlainKind at hkind
    split at hkind <;> simp_all
  have hequals : Prints " = " [.space, .symbol "=", .space] := .text rfl rfl
  have hvalue' : (value.view.ifPresent (" = " ++ value.view.shown)).Prints
      ([.space, .symbol "=", .space] ++ e.pieces) := by
    rw [View.ifPresent, hpresent]
    exact hequals.append (prints_shown (prints_expr e hvalue))
  exact prints_bare ((prints_shown (prints_binding hpattern)).append hvalue')

theorem prints_varDecl {keyword : VarKeyword} {name : Name} {e : Expr} {n : Node}
    (h : n.withoutSpans = (Item.declares keyword name e).node) :
    n.view.bare.Prints ([.word (keywordWord keyword), .space] ++
      ([.word name.word, .space, .symbol "=", .space] ++ e.pieces)) := by
  obtain ⟨span, children, rfl, hchildren⟩ := exists_of_withoutSpans h
  obtain ⟨declarator, rfl, hdeclarator⟩ := List.map_eq_singleton_iff.mp hchildren
  have hlist : (View.listed span View.bare [declarator.view]).Prints
      (listed [[.word name.word, .space, .symbol "=", .space] ++ e.pieces]) :=
    .listed (.cons (prints_declarator hdeclarator) .nil)
  have hkeyword : Prints keyword.text [.word (keywordWord keyword)] :=
    .text (List.append_nil _) rfl
  have hspace : Prints " " [.space] := .text rfl rfl
  exact prints_bare ((((Prints.when_neg rfl).append hkeyword).append hspace).append hlist)

/-- What is printed for an item up to the end of its line are its pieces. -/
theorem prints_declaration (item : Item) {n : Node} (h : n.withoutSpans = item.node) :
    (View.declaration n.view).Prints item.pieces := by
  have hkind := kind_view_of_withoutSpans h
  cases item with
  | imports default list source =>
    rw [View.declaration, hkind]
    exact prints_import h
  | declares keyword name e =>
    have hprints := (prints_varDecl h).append prints_semicolon
    rw [View.declaration, hkind]
    rwa [← List.append_assoc] at hprints
  | evaluates e hlong =>
    obtain ⟨span, children, rfl, hchildren⟩ := exists_of_withoutSpans h
    obtain ⟨value, rfl, hvalue⟩ := List.map_eq_singleton_iff.mp hchildren
    exact prints_bare ((prints_shown (prints_expr e hvalue)).append prints_semicolon)

/-- An item is printed with the end of its line and the comments around it. -/
theorem prints_item (item : Item) {n : Node} (h : n.withoutSpans = item.node) :
    (View.item n.view).Prints item.pieces := by
  have hstatement :
      View.statement n.view = View.declaration n.view ++ n.view.trailing ++ .line := by
    rw [View.statement, kind_view_of_withoutSpans h]
    cases item <;> rfl
  have hitem := (((prints_declaration item h).append
    (.comments .trailing n.view.span.hi)).append .line).append
      (.comments .trailing n.view.span.hi)
  rw [List.append_nil, List.append_nil, List.append_nil] at hitem
  rw [View.item, hstatement]
  exact hitem

/-- **Programs.** A plain program is printed as its pieces, with comments between them. -/
theorem print_program {m : Module} {items : List Item}
    (h : m.tree.withoutSpans = programNode items) :
    ∃ pieces, Adorned (programPieces items) pieces ∧ m.print = String.ofList (text pieces) ∧
      comments pieces = Fragment.comments m.fragments := by
  obtain ⟨tree, store, ending⟩ := m
  obtain ⟨span, nodes, rfl, hnodes⟩ := exists_of_withoutSpans h
  have hitems :
      (Doc.concat ((nodes.map Node.view).map View.item)).Prints (programPieces items) := by
    rw [programPieces, List.flatMap_def]
    refine .concat ?_
    rw [List.map_map, List.forall₂_map_left_iff]
    exact forall₂_of_map_eq hnodes fun item _ n hn ↦ prints_item item hn
  have hmodule : (Node.mk (.module none) span nodes).view.bare.Prints
      ([] ++ programPieces items ++ []) :=
    prints_bare ((Prints.empty.append hitems).append (.comments .trailing span.hi))
  obtain ⟨pieces, hadorned, htext, hcomments⟩ := hmodule { comments := store }
  rw [List.nil_append, List.append_nil] at hadorned
  refine ⟨pieces, hadorned, ?_, hcomments⟩
  rw [← Module.join_fragments, htext, String.ofList_toList]
  rfl

end Plain

end PageRoutes.Syntax
