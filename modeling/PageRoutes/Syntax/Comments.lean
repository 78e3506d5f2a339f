/-!
# Comments

Comments stand beside the tree, each filed under the place of the token that it leads or trails. A
place is asked for its comments once; then they are gone, so that no comment is printed twice.
Nothing in a comment ends it, so that it is one comment wherever it is printed.

## Main definitions

* `Comment` : comments with the text between their marks.
* `Comments` : the comments of a text.
-/

namespace PageRoutes.Syntax

/-- Whether a line ends at a character. -/
def isLineEnd (c : Char) : Bool := c == '\n' || c == '\r' || c == '\u2028' || c == '\u2029'

/-- The text before the first end mark of a block comment, and the text behind the mark. -/
def splitBlock : List Char → Option (List Char × List Char)
  | '*' :: '/' :: rest => some ([], rest)
  | c :: rest => (splitBlock rest).map fun (text, after) => (c :: text, after)
  | [] => none

theorem eq_of_splitBlock {text inner after : List Char}
    (h : splitBlock text = some (inner, after)) : text = inner ++ '*' :: '/' :: after := by
  fun_induction splitBlock text generalizing inner with
  | case1 rest =>
    cases h
    rfl
  | case2 c rest hmark ih =>
    obtain ⟨⟨inner, after⟩, hinner, heq⟩ := Option.map_eq_some_iff.mp h
    cases heq
    rw [ih hinner, List.cons_append]
  | case3 => cases h

/-- The text before an end mark stands before it whatever comes behind the mark. -/
theorem splitBlock_append_mark {text inner after : List Char}
    (h : splitBlock text = some (inner, after)) (rest : List Char) :
    splitBlock (inner ++ '*' :: '/' :: rest) = some (inner, rest) := by
  fun_induction splitBlock text generalizing inner with
  | case1 =>
    cases h
    rfl
  | case2 c text hmark ih =>
    obtain ⟨⟨inner, after⟩, hinner, heq⟩ := Option.map_eq_some_iff.mp h
    cases heq
    have htext := eq_of_splitBlock hinner
    rw [List.cons_append, splitBlock, ih hinner]
    · rfl
    · -- what follows the first character begins as it does in the text
      rintro more rfl hmore
      cases inner with
      | nil => cases hmore
      | cons d inner =>
        obtain ⟨rfl, -⟩ := List.cons.inj hmore
        exact hmark _ rfl htext
  | case3 => cases h

/-- Whether a text can stand in a comment, since nothing in it ends the comment: an end of a line
ends a line comment, and an end mark ends a block comment. -/
def isCommentText (isBlock : Bool) (text : List Char) : Bool :=
  if isBlock then (splitBlock (text ++ ['*', '/'])).any fun (_, after) => after.isEmpty
  else text.all fun c => !isLineEnd c

/-- An end mark behind the text of a block comment is the first one. -/
theorem splitBlock_of_isCommentText {text : List Char} (h : isCommentText true text) :
    splitBlock (text ++ ['*', '/']) = some (text, []) := by
  obtain ⟨⟨inner, after⟩, hsplit, hafter⟩ := (Option.any_eq_true _ _).mp h
  obtain rfl : after = [] := List.isEmpty_iff.mp hafter
  obtain rfl : text = inner := List.append_cancel_right (eq_of_splitBlock hsplit)
  exact hsplit

/-- A comment, without its marks. -/
@[ext]
structure Comment where
  isBlock : Bool
  text : String
  isText : isCommentText isBlock text.toList
  deriving DecidableEq, Repr

/-- The comment in front of the first end of a line in a text. -/
def Comment.ofLine (text : List Char) : Comment where
  isBlock := false
  text := String.ofList (text.takeWhile fun c => !isLineEnd c)
  isText := by
    rw [String.toList_ofList]
    exact List.all_takeWhile

/-- The comment in front of the first end mark in a text. It is empty if there is none. -/
def Comment.ofBlock (text : List Char) : Comment where
  isBlock := true
  text := String.ofList (((splitBlock text).map Prod.fst).getD [])
  isText := by
    rw [String.toList_ofList]
    cases h : splitBlock text with
    | none => rfl
    | some split => exact (Option.any_eq_true _ _).mpr ⟨_, splitBlock_append_mark h [], rfl⟩

/-- Whether a line ends in a comment or right behind it. -/
def Comment.endsLine (c : Comment) : Bool :=
  !c.isBlock || c.text.toList.any ['\n', '\r', '\u2028', '\u2029'].contains

/-- On which side of a place a comment stands. -/
inductive Side where
  | leading
  | trailing
  deriving DecidableEq, Repr

/-- A comment filed under a place. -/
structure Filed where
  side : Side
  place : Nat
  comment : Comment
  deriving Repr

/-- All comments of a text, those of one place in the order in which they are printed. -/
structure Comments where
  filed : List Filed := []

namespace Comments

/-- Whether an entry is filed on a side of a place. -/
def isAt (side : Side) (place : Nat) (f : Filed) : Bool := f.place == place && f.side == side

/-- The comments on a side of a place. -/
def atPlace (c : Comments) (side : Side) (place : Nat) : List Comment :=
  (c.filed.filter (isAt side place)).map Filed.comment

/-- Files more comments behind those that are there. -/
def add (c : Comments) (more : List Filed) : Comments := ⟨c.filed ++ more⟩

/-- The comments without those on a side of a place. -/
def remove (c : Comments) (side : Side) (place : Nat) : Comments :=
  ⟨c.filed.filter fun f => !isAt side place f⟩

end Comments

end PageRoutes.Syntax
