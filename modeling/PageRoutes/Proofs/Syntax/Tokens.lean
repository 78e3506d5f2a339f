import Mathlib.Data.List.DropRight
import PageRoutes.Syntax.Lexer
/-!
# Texts that spell tokens

A token can be read from its spelling, whatever stands behind it, as long as that does not go on
with the token. So a text that is made of spellings with blanks and comments between them is read as
the tokens that are spelled, one after the other, and all comments are kept on the way. At the end
of the text they are filed.

Only such spellings are described here as occur in the imports and calls of an entry file: words
without escapes, strings without escapes, and the symbols that stand alone or next to a word.

## Main definitions

* `Lexer.met` : the comments that a lexer has come upon.
* `Lexer.At` : lexers in front of a text, with nothing left over from the text before but comments.
* `Lexer.Gap` : blanks and comments.
* `Lexer.Spells` : the spelling of a token in front of a text.
* `Lexer.Tokenizes` : texts that are made of spellings and gaps.
* `Lexer.Faces` : lexers in front of tokens and comments.

## Main results

* `Lexer.space_of_at` : a gap is passed over, and its comments are kept.
* `Lexer.next_of_faces` : the first token of a text.
* `Lexer.next_of_faces_nil` : where no token is left the comments are filed.
-/

namespace PageRoutes.Syntax.Lexer

/-- The comments that a lexer has come upon, whether they have been filed or not. -/
def met (l : Lexer) : List Comment :=
  l.comments.filed.map Filed.comment ++ (l.unfiled.map Filed.comment ++ l.pending)

/-- A lexer in front of a text. It is not inside a template or a regular expression, and it has come
upon some comments and no fault. -/
structure At (l : Lexer) (text : List Char) (cs : List Comment) : Prop where
  rest : l.rest = text
  bound : text.length < l.bound
  brackets : ∀ b ∈ l.brackets, b = .plain
  regExpAt : l.regExpAt = none
  met : l.met.Perm cs
  noted : l.noted = []

theorem At.move {l : Lexer} {text rest : List Char} {cs : List Comment} (h : l.At text cs)
    (hrest : rest.length ≤ text.length) (pos : Nat) (lineBreak : Bool) :
    At { l with rest, pos, lineBreak } rest cs :=
  ⟨rfl, Nat.lt_of_le_of_lt hrest h.bound, h.brackets, h.regExpAt, h.met, h.noted⟩

/-- In which order comments were come upon does not matter. -/
theorem At.perm {l : Lexer} {text : List Char} {cs ds : List Comment} (h : l.At text cs)
    (hcs : cs.Perm ds) : l.At text ds :=
  ⟨h.rest, h.bound, h.brackets, h.regExpAt, h.met.trans hcs, h.noted⟩

/-- Characters that make up a word. -/
def IsWord (chars : List Char) : Prop :=
  (∃ c ∈ chars.head?, IdentifierChar.isStart c) ∧ ∀ c ∈ chars, IdentifierChar.isContinue c

-- The characters of the text are looked at, one after the other, and no others.
instance (chars : List Char) : Decidable (IsWord chars) :=
  decidable_of_iff (chars.head?.any IdentifierChar.isStart ∧ chars.all IdentifierChar.isContinue)
    (by simp only [IsWord, Option.any_eq_true, List.all_eq_true, Option.mem_def])

/-- Whether a word ends in front of a text. -/
def EndsWord (rest : List Char) : Prop :=
  ∀ c ∈ rest.head?, IdentifierChar.isContinue c = false ∧ c ≠ '\\'

/-- Whether a character can stand between the quotes of a string and stands for itself. -/
def IsPlainIn (quote c : Char) : Prop := c ≠ quote ∧ c ≠ '\\' ∧ c ≠ '\n' ∧ c ≠ '\r'

instance (quote c : Char) : Decidable (IsPlainIn quote c) := inferInstanceAs (Decidable (_ ∧ _))

instance (quote : Char) (chars : List Char) : Decidable (∀ c ∈ chars, IsPlainIn quote c) :=
  List.decidableBAll _ _

/-- Whether a symbol of one character ends in front of a text. -/
def EndsSymbol (c : Char) (rest : List Char) : Prop :=
  c ∈ ['{', '}', '(', ')', ',', ';'] ∨
    c ∈ ['.', '*', '='] ∧ ∀ d ∈ rest.head?, d ∈ [' ', '\n', '/'] ∨ IdentifierChar.isStart d

/-- A token, its spelling, and the text behind it. -/
inductive Spells : Token → List Char → List Char → Prop
  | word {chars rest} (hword : IsWord chars) (hend : EndsWord rest) :
    Spells (.word (String.ofList chars)) chars rest
  | string {quote chars rest} (hquote : quote = '\x22' ∨ quote = '\x27')
    (hplain : ∀ c ∈ chars, IsPlainIn quote c) :
    Spells (.string (String.ofList chars) (String.ofList (quote :: chars ++ [quote])))
      (quote :: chars ++ [quote]) rest
  | symbol {s c rest} (hs : s.toList = [c]) (hend : EndsSymbol c rest) :
    Spells (.symbol s) [c] rest

/-- A comment as it is spelled, with its marks. A comment without an end mark ends with its line. -/
def spelled (c : Comment) : List Char :=
  if c.isBlock then '/' :: '*' :: (c.text.toList ++ ['*', '/'])
  else '/' :: '/' :: (c.text.toList ++ ['\n'])

/-- Texts of blanks and comments, with the comments. -/
inductive Gap : List Char → List Comment → Prop
  | blanks {blanks} (hblanks : ∀ c ∈ blanks, isBlank c) : Gap blanks []
  | comment {blanks c more cs} (hblanks : ∀ c ∈ blanks, isBlank c) (hmore : Gap more cs) :
    Gap (blanks ++ (spelled c ++ more)) (c :: cs)

/-- The tokens and the comments of a text that is made of spellings with gaps between them. -/
inductive Tokenizes : List Char → List Token → List Comment → Prop
  | nil {gap cs} (hgap : Gap gap cs) : Tokenizes gap [] cs
  | cons {gap cs spelling rest t ts later} (hgap : Gap gap cs) (hspells : Spells t spelling rest)
    (hrest : Tokenizes rest ts later) :
    Tokenizes (gap ++ (spelling ++ rest)) (t :: ts) (cs ++ later)

/-! ### Characters -/

/-- The codes of the blanks. -/
def blankCodes : List Nat :=
  [9, 10, 11, 12, 13, 32, 0x85, 0xA0, 0x1680, 0x2000, 0x2001, 0x2002, 0x2003, 0x2004, 0x2005,
    0x2006, 0x2007, 0x2008, 0x2009, 0x200A, 0x2028, 0x2029, 0x202F, 0x205F, 0x3000, 0xFEFF]

/-- No blank begins an identifier. -/
theorem isStart_of_isBlank {c : Char} (h : isBlank c) : IdentifierChar.isStart c = false := by
  have hcode : c.toNat ∈ blankCodes := by
    have hspace : c = ' ' ↔ c.toNat = 32 := (Char.toNat_inj (d := ' ')).symm
    simp only [isBlank, Bool.or_eq_true, Bool.and_eq_true, decide_eq_true_eq, beq_iff_eq,
      hspace] at h
    simp only [blankCodes, List.mem_cons, List.not_mem_nil, or_false]
    omega
  have hnone : ∀ n ∈ blankCodes, IdentifierChar.isStart (Char.ofNat n) = false := by
    decide +kernel
  simpa using hnone _ hcode

/-- A character that begins an identifier is none of those that begin another token. -/
theorem ne_of_isStart {c : Char} (h : IdentifierChar.isStart c) {d : Char}
    (hd : IdentifierChar.isStart d = false) : c ≠ d := by
  rintro rfl
  rw [h] at hd
  cases hd

theorem isDigit_of_isStart {c : Char} (h : IdentifierChar.isStart c) : c.isDigit = false := by
  rw [Bool.eq_false_iff]
  intro hdigit
  have hcode : c.toNat ∈ [48, 49, 50, 51, 52, 53, 54, 55, 56, 57] := by
    obtain ⟨hlow, hhigh⟩ := Char.isDigit_iff_toNat.mp hdigit
    simp only [List.mem_cons, List.not_mem_nil, or_false]
    change 48 ≤ c.toNat at hlow
    change c.toNat ≤ 57 at hhigh
    omega
  have hnone : ∀ n ∈ [48, 49, 50, 51, 52, 53, 54, 55, 56, 57],
      IdentifierChar.isStart (Char.ofNat n) = false := by decide
  have hno := hnone _ hcode
  rw [Char.ofNat_toNat, h] at hno
  cases hno

/-! ### Steps -/

section Steps

variable {α β : Type} (l : Lexer)

theorem bind_apply (p : Lex α) (f : α → Lex β) :
    (p >>= f) l = match p l with
      | .ok a l' => f a l'
      | .error e l' => .error e l' := by
  change EStateM.bind p f l = _
  rw [EStateM.bind]
  cases p l <;> rfl

theorem map_apply (f : α → β) (p : Lex α) :
    (f <$> p) l = match p l with
      | .ok a l' => .ok (f a) l'
      | .error e l' => .error e l' := by
  change EStateM.map f p l = _
  rw [EStateM.map]
  cases p l <;> rfl

theorem pure_apply (a : α) : (pure a : Lex α) l = .ok a l := rfl

theorem get_apply : (get : Lex Lexer) l = .ok l l := rfl

theorem set_apply (l' : Lexer) : (set l' : Lex PUnit) l = .ok ⟨⟩ l' := rfl

theorem modify_apply (f : Lexer → Lexer) : (modify f : Lex PUnit) l = .ok ⟨⟩ (f l) := rfl

theorem peek_apply : peek l = .ok l.rest.head? l := rfl

theorem remaining_apply : remaining l = .ok l.rest l := rfl

theorem place_apply : place l = .ok l.pos l := rfl

theorem fuel_apply : fuel l = .ok l.bound l := rfl

theorem skip_apply {c : Char} {rest : List Char} (h : l.rest = c :: rest) :
    skip l = .ok ⟨⟩ { l with rest, pos := l.pos + c.utf8Size } := by
  rw [skip, modify_apply, h]

theorem takeWhile_apply (p : Char → Bool) :
    takeWhile p l = .ok (l.rest.takeWhile p)
      { l with
        rest := l.rest.dropWhile p
        pos := l.pos + byteLength (l.rest.takeWhile p) } := rfl

end Steps

/-! ### Blanks -/

section Blanks

variable {l : Lexer} {blanks rest : List Char}

theorem skipBlanks_eq (l : Lexer) :
    skipBlanks l = .ok ()
      { l with
        rest := l.rest.dropWhile isBlank
        pos := l.pos + byteLength (l.rest.takeWhile isBlank)
        lineBreak := (l.rest.takeWhile isBlank).any isLineEnd || l.lineBreak } := by
  rw [skipBlanks, bind_apply, takeWhile_apply]
  cases h : (l.rest.takeWhile isBlank).any isLineEnd <;> simp [pure_apply, modify_apply, h]

/-- Blanks are skipped. -/
theorem skipBlanks_of_at {text : List Char} {cs : List Comment} (h : l.At text cs) :
    ∃ l', skipBlanks l = .ok () l' ∧ l'.At (text.dropWhile isBlank) cs := by
  refine ⟨_, skipBlanks_eq l, ?_⟩
  rw [h.rest]
  exact h.move (List.dropWhile_suffix _).length_le _ _

end Blanks

/-! ### Comments -/

section Comments

variable {l : Lexer} {gap text rest : List Char} {c : Comment} {cs ds : List Comment}

/-- A comment is kept, on whichever side of a token it stands. -/
theorem keep_of_at (h : l.At text cs) (leadsNext : Bool) :
    ∃ l', keep c leadsNext l = .ok () l' ∧ l'.At text (c :: cs) := by
  refine ⟨_, modify_apply l _, ?_⟩
  cases leadsNext with
  | true =>
    have hmet : (l.comments.filed.map Filed.comment ++
        (l.unfiled.map Filed.comment ++ c :: l.pending)).Perm (c :: cs) := by
      have hmet := h.met
      rw [met, ← List.append_assoc] at hmet
      rw [← List.append_assoc]
      exact List.perm_middle.trans (hmet.cons c)
    exact ⟨h.rest, h.bound, h.brackets, h.regExpAt, hmet, h.noted⟩
  | false =>
    have hmet : (l.comments.filed.map Filed.comment ++
        (c :: l.unfiled.map Filed.comment ++ l.pending)).Perm (c :: cs) :=
      List.perm_middle.trans (h.met.cons c)
    exact ⟨h.rest, h.bound, h.brackets, h.regExpAt, hmet, h.noted⟩

/-- Characters are moved over. -/
theorem skipMany_of_at (h : l.At (text ++ rest) cs) :
    ∃ l', skipMany text.length l = .ok () l' ∧ l'.At rest cs := by
  induction text generalizing l with
  | nil => exact ⟨l, rfl, h⟩
  | cons c text ih =>
    have hmoved : At { l with rest := text ++ rest, pos := l.pos + c.utf8Size } (text ++ rest) cs :=
      h.move (by simp) _ _
    obtain ⟨l', hl', hat⟩ := ih hmoved
    refine ⟨l', ?_, hat⟩
    rw [List.length_cons, skipMany, bind_apply, skip_apply l h.rest]
    exact hl'

/-- The characters of a class are taken up to the first one outside it. -/
theorem takeWhile_of_at {p : Char → Bool} (h : l.At (text ++ rest) cs) (htext : ∀ c ∈ text, p c)
    (hrest : ∀ c ∈ rest.head?, p c = false) :
    ∃ l', takeWhile p l = .ok text l' ∧ l'.At rest cs := by
  have hnone : rest.takeWhile p = [] ∧ rest.dropWhile p = rest := by
    cases rest with
    | nil => exact ⟨rfl, rfl⟩
    | cons c rest => simp [hrest c rfl]
  have htake : l.rest.takeWhile p = text := by
    rw [h.rest, List.takeWhile_append_of_pos htext, hnone.1, List.append_nil]
  have hdrop : l.rest.dropWhile p = rest := by
    rw [h.rest, List.dropWhile_append_of_pos htext, hnone.2]
  rw [takeWhile_apply, htake, hdrop]
  exact ⟨_, rfl, h.move (by simp) _ _⟩

/-- A comment that ends with its line is read up to there. -/
theorem lineComment_of_at (h : l.At (spelled c ++ rest) cs) (hline : c.isBlock = false) :
    ∃ l', lineComment 2 l = .ok () l' ∧ l'.At ('\n' :: rest) (c :: cs) := by
  have hkept : ∀ x ∈ c.text.toList, !isLineEnd x := by
    have htext := c.isText
    rw [hline] at htext
    exact List.all_eq_true.mp htext
  have htext : spelled c ++ rest = ['/', '/'] ++ (c.text.toList ++ '\n' :: rest) := by
    simp [spelled, hline]
  obtain ⟨l₁, hmark, hat₁⟩ := skipMany_of_at (htext ▸ h)
  obtain ⟨l₂, htake, hat₂⟩ := takeWhile_of_at (p := fun c ↦ !isLineEnd c) hat₁ hkept
    (by simp [isLineEnd])
  obtain ⟨l₃, hkeep, hat₃⟩ := keep_of_at (c := c) hat₂ (l.lineBreak || l.afterOperator)
  refine ⟨l₃, ?_, hat₃⟩
  have hc : Comment.ofLine l₁.rest = c := by
    refine Comment.ext hline.symm ?_
    change String.ofList (l₁.rest.takeWhile fun c ↦ !isLineEnd c) = c.text
    rw [hat₁.rest, List.takeWhile_append_of_pos hkept, List.takeWhile_cons_of_neg (by decide),
      List.append_nil, String.ofList_toList]
  change skipMany 2 l = _ at hmark
  simp only [lineComment, bind_apply, get_apply, hmark, remaining_apply, htake, hc, hkeep]

/-- A comment between marks is read with the blanks behind it. -/
theorem blockComment_of_at (h : l.At (spelled c ++ rest) cs) (hblock : c.isBlock = true) :
    ∃ l', blockComment l = .ok () l' ∧ l'.At (rest.dropWhile isBlank) (c :: cs) := by
  have hinner := splitBlock_of_isCommentText (hblock ▸ c.isText)
  have htext : spelled c ++ rest = ['/', '*'] ++ (c.text.toList ++ '*' :: '/' :: rest) := by
    simp [spelled, hblock]
  obtain ⟨l₁, hmark, hat₁⟩ := skipMany_of_at (htext ▸ h)
  have hsplit : splitBlock l₁.rest = some (c.text.toList, rest) := by
    rw [hat₁.rest]
    exact splitBlock_append_mark hinner rest
  have hc : Comment.ofBlock l₁.rest = c := by
    refine Comment.ext hblock.symm ?_
    change String.ofList (((splitBlock l₁.rest).map Prod.fst).getD []) = c.text
    rw [hsplit]
    exact String.ofList_toList
  -- What remains to be done is the same whether a line has ended in the comment or not.
  have hend (leadsNext : Bool) {l₂ : Lexer} (hat₂ : l₂.At rest cs) :
      ∃ l', (do
          skipBlanks
          let next ← peek
          keep c (leadsNext && next != some ';') : Lex Unit) l₂ = .ok () l' ∧
        l'.At (rest.dropWhile isBlank) (c :: cs) := by
    obtain ⟨l₃, hblanks, hat₃⟩ := skipBlanks_of_at hat₂
    obtain ⟨l₄, hkeep, hat₄⟩ := keep_of_at (c := c) hat₃
      (leadsNext && (rest.dropWhile isBlank).head? != some ';')
    refine ⟨l₄, ?_, hat₄⟩
    simp only [bind_apply, hblanks, peek_apply, hat₃.rest, hkeep]
  have hlength : rest.length ≤ (c.text.toList ++ '*' :: '/' :: rest).length := by
    simp only [List.length_append, List.length_cons]
    omega
  have hmove (lineBreak : Bool) : At
      { moveOver (c.text.toList ++ ['*', '/']) rest l₁ with lineBreak } rest cs :=
    hat₁.move hlength _ _
  change skipMany 2 l = _ at hmark
  simp only [blockComment, bind_apply, get_apply, hmark, remaining_apply, hsplit, modify_apply, hc]
  split
  · exact hend _ (hmove true)
  · exact hend _ (hmove l₁.lineBreak)

/-- A comment behind blanks is passed over. -/
theorem skipSpace_of_comment {l' : Lexer} (hskip : skipBlanks l = .ok () l')
    (h : l'.At (spelled c ++ rest) cs) (n : Nat) :
    ∃ l₁ text, skipSpace (n + 1) l = skipSpace n l₁ ∧ l₁.At text (c :: cs) ∧
      text.dropWhile isBlank = rest.dropWhile isBlank := by
  rw [skipSpace]
  simp only [bind_apply, hskip, remaining_apply, h.rest]
  cases hblock : c.isBlock with
  | true =>
    obtain ⟨l₁, hcomment, hat⟩ := blockComment_of_at h hblock
    have htext : spelled c ++ rest = '/' :: '*' :: (c.text.toList ++ ['*', '/'] ++ rest) := by
      simp [spelled, hblock]
    refine ⟨l₁, _, ?_, hat, List.dropWhile_idempotent _ _⟩
    rw [htext]
    simp only [bind_apply, hcomment]
  | false =>
    obtain ⟨l₁, hcomment, hat⟩ := lineComment_of_at h hblock
    have htext : spelled c ++ rest = '/' :: '/' :: (c.text.toList ++ '\n' :: rest) := by
      simp [spelled, hblock]
    refine ⟨l₁, _, ?_, hat, List.dropWhile_cons_of_pos (by decide)⟩
    rw [htext]
    simp only [bind_apply, hcomment]

/-- **Gaps.** Blanks and comments are passed over up to what is no blank and begins no comment. -/
theorem skipSpace_of_gap (hgap : Gap gap ds) (hrest : ∀ c ∈ rest.head?, isBlank c = false ∧ c ≠ '/')
    (h : l.At text cs) (htext : text.dropWhile isBlank = (gap ++ rest).dropWhile isBlank) {n : Nat}
    (hn : gap.length < n) : ∃ l', skipSpace n l = .ok () l' ∧ l'.At rest (ds ++ cs) := by
  obtain ⟨n, rfl⟩ := Nat.exists_eq_succ_of_ne_zero (Nat.ne_zero_of_lt hn)
  obtain ⟨l', hskip, hat⟩ := skipBlanks_of_at h
  induction hgap generalizing l l' text cs n with
  | @blanks gap hblanks =>
    have hdrop : text.dropWhile isBlank = rest := by
      rw [htext, List.dropWhile_append_of_pos hblanks]
      cases rest with
      | nil => rfl
      | cons c rest => exact List.dropWhile_cons_of_neg (by simp [(hrest c rfl).1])
    rw [hdrop] at hat
    refine ⟨l', ?_, hat⟩
    rw [skipSpace]
    simp only [bind_apply, hskip, remaining_apply, hat.rest]
    split
    · exact absurd rfl (hrest '/' rfl).2
    · exact absurd rfl (hrest '/' rfl).2
    · rfl
  | @comment gap c more ds hblanks hmore ih =>
    have hdrop : text.dropWhile isBlank = spelled c ++ (more ++ rest) := by
      rw [htext, List.append_assoc, List.dropWhile_append_of_pos hblanks, List.append_assoc]
      rw [spelled]
      split <;> exact List.dropWhile_cons_of_neg (by decide)
    have hlength : more.length < n := by
      rw [spelled] at hn
      split at hn <;> simp at hn <;> omega
    obtain ⟨n, rfl⟩ := Nat.exists_eq_succ_of_ne_zero (Nat.ne_zero_of_lt hlength)
    obtain ⟨l₁, text₁, hcomment, hat₁, htext₁⟩ := skipSpace_of_comment hskip (hdrop ▸ hat) (n + 1)
    obtain ⟨l₂, hskip₂, hat₂⟩ := skipBlanks_of_at hat₁
    obtain ⟨l₃, hrun, hat₃⟩ := ih hat₁ htext₁ n hlength l₂ hskip₂ hat₂
    exact ⟨l₃, hcomment.trans hrun, hat₃.perm List.perm_middle⟩

/-- Blanks and comments in front of a token are passed over. -/
theorem space_of_at (h : l.At (gap ++ rest) cs) (hgap : Gap gap ds)
    (hrest : ∀ c ∈ rest.head?, isBlank c = false ∧ c ≠ '/') :
    ∃ l', space l = .ok () l' ∧ l'.At rest (ds ++ cs) := by
  have hbound : gap.length < l.bound := by
    have hlength := h.bound
    rw [List.length_append] at hlength
    omega
  obtain ⟨l', hskip, hat⟩ := skipSpace_of_gap hgap hrest h rfl hbound
  refine ⟨l', ?_, hat⟩
  rw [← hskip, space, bind_apply, fuel_apply]

end Comments


/-! ### Lengths -/

theorem foldl_utf8Size (text : List Char) (n : Nat) :
    text.foldl (fun n c ↦ n + c.utf8Size) n = n + byteLength text := by
  induction text generalizing n with
  | nil => rfl
  | cons c rest ih => rw [byteLength, List.foldl_cons, List.foldl_cons, ih, ih, Nat.zero_add,
      Nat.add_assoc]

@[simp] theorem byteLength_nil : byteLength [] = 0 := rfl

theorem byteLength_cons (c : Char) (rest : List Char) :
    byteLength (c :: rest) = c.utf8Size + byteLength rest := by
  rw [byteLength, List.foldl_cons, foldl_utf8Size, Nat.zero_add]

theorem byteLength_append (a b : List Char) :
    byteLength (a ++ b) = byteLength a + byteLength b := by
  rw [byteLength, List.foldl_append, foldl_utf8Size, foldl_utf8Size, Nat.zero_add]

/-- The bytes of a text are those of its beginning. -/
theorem takeBytes_append (a b : List Char) : takeBytes (a ++ b) (byteLength a) = a := by
  induction a with
  | nil =>
    cases b with
    | nil => rfl
    | cons c rest => simp [takeBytes, Char.utf8Size_pos]
  | cons c rest ih =>
    rw [List.cons_append, takeBytes, byteLength_cons, if_neg (by omega), Nat.add_sub_cancel_left,
      ih]

/-! ### Single tokens -/

section Tokens

variable {l : Lexer} {m : LexMode} {rest : List Char} {cs : List Comment}

/-- A word is read up to its end. -/
theorem word_of_at {chars : List Char} (h : l.At (chars ++ rest) cs) (hword : IsWord chars)
    (hend : EndsWord rest) :
    ∃ l', word m l = .ok (.word (String.ofList chars)) l' ∧ l'.At rest cs := by
  have htake : l.rest.takeWhile IdentifierChar.isContinue = chars := by
    rw [h.rest, List.takeWhile_append_of_pos hword.2]
    cases rest with
    | nil => simp
    | cons c rest => simp [(hend c rfl).1]
  have hdrop : l.rest.dropWhile IdentifierChar.isContinue = rest := by
    rw [h.rest, List.dropWhile_append_of_pos hword.2]
    cases rest with
    | nil => rfl
    | cons c rest => exact List.dropWhile_cons_of_neg (by simp [(hend c rfl).1])
  have hescape : (rest.head? == some '\\') = false := by
    rw [beq_eq_false_iff_ne]
    exact fun hhead ↦ (hend _ hhead).2 rfl
  have hchars (fuel : Nat) : ∃ l', wordChars m l.pos true (fuel + 1) l = .ok (chars, false) l' ∧
      l'.At rest cs := by
    rw [wordChars]
    simp only [bind_apply, takeWhile_apply, peek_apply, htake, hdrop, hescape]
    exact ⟨_, rfl, h.move (by simp) _ _⟩
  obtain ⟨n, hn⟩ := Nat.exists_eq_add_of_lt h.bound
  obtain ⟨l', hl', hat⟩ := hchars ((chars ++ rest).length + n)
  rw [← hn] at hl'
  refine ⟨l', ?_, hat⟩
  simp only [word, bind_apply, place_apply, fuel_apply, hl']
  rfl

/-- A string without escapes is read up to its closing quote. -/
theorem string_of_at {quote : Char} {chars : List Char}
    (h : l.At (quote :: chars ++ [quote] ++ rest) cs) (hquote : quote = '\x22' ∨ quote = '\x27')
    (hplain : ∀ c ∈ chars, IsPlainIn quote c) :
    ∃ l', string m quote l =
        .ok (.string (String.ofList chars) (String.ofList (quote :: chars ++ [quote]))) l' ∧
      l'.At rest cs := by
  have hinner : ∀ c ∈ chars, (c != quote && c != '\\' && c != '\n' && c != '\r') := fun c hc ↦ by
    obtain ⟨h1, h2, h3, h4⟩ := hplain c hc
    simp [h1, h2, h3, h4]
  have hchars (n : Nat) (l : Lexer) (hl : l.rest = chars ++ quote :: rest) :
      stringChars m quote (n + 1) l = .ok (chars, true)
        { l with rest, pos := l.pos + byteLength chars + quote.utf8Size } := by
    rw [stringChars, bind_apply, takeWhile_apply, hl, List.takeWhile_append_of_pos hinner,
      List.dropWhile_append_of_pos hinner, List.takeWhile_cons_of_neg (by simp),
      List.dropWhile_cons_of_neg (by simp), List.append_nil]
    rcases hquote with rfl | rfl <;> rfl
  have hrest : l.rest = quote :: (chars ++ quote :: rest) := by simp [h.rest]
  have hraw : takeBytes l.rest
      (l.pos + quote.utf8Size + byteLength chars + quote.utf8Size - l.pos) =
        quote :: chars ++ [quote] := by
    have hlength : l.pos + quote.utf8Size + byteLength chars + quote.utf8Size - l.pos =
        byteLength (quote :: chars ++ [quote]) := by
      simp only [List.cons_append, byteLength_cons, byteLength_append, byteLength_nil]
      omega
    rw [hlength, h.rest, takeBytes_append]
  obtain ⟨n, hn⟩ := Nat.exists_eq_add_of_lt h.bound
  refine ⟨{ l with rest, pos := l.pos + quote.utf8Size + byteLength chars + quote.utf8Size }, ?_,
    h.move (by simp; omega) _ _⟩
  simp only [string, bind_apply, get_apply, skip_apply l hrest, fuel_apply, hn]
  rw [hchars _ _ rfl]
  simp only [rawFrom, bind_apply, pure_apply, place_apply, hraw, ite_true]

/-- A mark that begins otherwise does not stand in front of a text. -/
theorem isPrefixOf_eq_false {c : Char} (mark : String) (h : ∃ a ∈ mark.toList.head?, a ≠ c) :
    mark.toList.isPrefixOf (c :: rest) = false := by
  obtain ⟨a, ha, hne⟩ := h
  obtain ⟨tail, htail⟩ := List.head?_eq_some_iff.mp ha
  simp [htail, List.isPrefixOf, hne]

/-- No mark of an odd comment begins as the spellings do. -/
theorem oddComment?_eq_none {c : Char} (hc : c ∉ ['<', '-', '>', '|'])
    (heq : c = '=' → rest.head? ≠ some '=') (lineBreak : Bool) :
    oddComment? m lineBreak (c :: rest) = none := by
  simp only [List.mem_cons, List.not_mem_nil, or_false, not_or] at hc
  obtain ⟨hless, hminus, hgreater, hbar⟩ := hc
  have hequals : "=======".toList.isPrefixOf (c :: rest) = false := by
    by_cases hc : c = '='
    · cases rest with
      | nil => simp [List.isPrefixOf]
      | cons d rest =>
        have hd : d ≠ '=' := by simpa using heq hc
        simp [List.isPrefixOf, hd.symm]
    · exact isPrefixOf_eq_false _ ⟨'=', rfl, Ne.symm hc⟩
  have hmerge : mergeMarks.any (fun m ↦ m.toList.isPrefixOf (c :: rest)) = false := by
    simp only [mergeMarks, List.any_cons, List.any_nil, hequals,
      isPrefixOf_eq_false "<<<<<<< " ⟨'<', rfl, Ne.symm hless⟩,
      isPrefixOf_eq_false ">>>>>>> " ⟨'>', rfl, Ne.symm hgreater⟩,
      isPrefixOf_eq_false "||||||| " ⟨'|', rfl, Ne.symm hbar⟩, Bool.or_self]
  rw [oddComment?, isPrefixOf_eq_false "<!--" ⟨'<', rfl, Ne.symm hless⟩,
    isPrefixOf_eq_false "-->" ⟨'-', rfl, Ne.symm hminus⟩, hmerge]
  simp

theorem EndsSymbol.mem {c : Char} (h : EndsSymbol c rest) :
    c ∈ ['{', '}', '(', ')', ',', ';', '.', '*', '='] := by
  rcases h with hc | ⟨hc, -⟩ <;>
    simp only [List.mem_cons, List.not_mem_nil, or_false] at hc ⊢ <;> grind

/-- A point that ends as a symbol begins no number. -/
theorem EndsSymbol.not_number {c : Char} (h : EndsSymbol c rest) :
    (c == '.' && (rest.head?.map Char.isDigit).getD false) = false := by
  rcases h with hc | ⟨-, hafter⟩
  · have hpoint : c ≠ '.' := by
      rintro rfl
      exact absurd hc (by decide)
    simp [hpoint]
  · have hdigit : ∀ d ∈ rest.head?, d.isDigit = false := by
      intro d hd
      rcases hafter d hd with hmark | hstart
      · have hdigit : [' ', '\n', '/'].all fun c ↦ !c.isDigit := by decide
        simpa using List.all_eq_true.mp hdigit d hmark
      · exact isDigit_of_isStart hstart
    cases rest with
    | nil => simp
    | cons d rest => simp [hdigit d rfl]

/-- Behind an equals sign that ends as a symbol there is no other one. -/
theorem EndsSymbol.head?_ne {c : Char} (h : EndsSymbol c rest) :
    c = '=' → rest.head? ≠ some '=' := by
  rintro rfl hhead
  exact ((h.resolve_left (by decide)).2 '=' hhead).elim (by decide) (by decide)

/-- The symbol that a text begins with, if it ends there. -/
theorem symbolAt?_of_ends {s : String} {c : Char} (hs : s.toList = [c]) (hend : EndsSymbol c rest) :
    symbolAt? m (c :: rest) = some s := by
  obtain rfl : s = String.ofList [c] := by rw [← hs, String.ofList_toList]
  rcases hend with hc | ⟨hc, hafter⟩ <;> simp only [List.mem_cons, List.not_mem_nil, or_false] at hc
  · rcases hc with rfl | rfl | rfl | rfl | rfl | rfl <;> rfl
  · cases rest with
    | nil => rcases hc with rfl | rfl | rfl <;> rfl
    | cons d rest =>
      have hne {e : Char} (hspace : e ∉ [' ', '\n', '/'])
          (hstart : IdentifierChar.isStart e = false) : e ≠ d := by
        rintro rfl
        rcases hafter e rfl with h | h
        · exact hspace h
        · rw [hstart] at h
          cases h
      have hpoint : '.' ≠ d := hne (by decide) (by decide)
      have hstar : '*' ≠ d := hne (by decide) (by decide)
      have hequals : '=' ≠ d := hne (by decide) (by decide)
      have hgreater : '>' ≠ d := hne (by decide) (by decide)
      rcases hc with rfl | rfl | rfl <;>
        simp [symbolAt?, symbolAt?.longest, symbols, hpoint, hstar, hequals, hgreater]

/-- Characters with which a spelling begins. -/
def IsLead (c : Char) : Prop :=
  IdentifierChar.isStart c ∨ c ∈ ['\x22', '\x27', '{', '}', '(', ')', ',', ';', '.', '*', '=']

theorem IsLead.ne {c d : Char} (h : IsLead c) (hstart : IdentifierChar.isStart d = false)
    (hd : d ∉ ['\x22', '\x27', '{', '}', '(', ')', ',', ';', '.', '*', '=']) : c ≠ d := by
  rintro rfl
  exact h.elim (by simp [hstart]) hd

theorem IsLead.isBlank_eq_false {c : Char} (h : IsLead c) : isBlank c = false := by
  rcases h with hstart | hc
  · rw [Bool.eq_false_iff]
    intro hblank
    rw [isStart_of_isBlank hblank] at hstart
    cases hstart
  · have hall : ['\x22', '\x27', '{', '}', '(', ')', ',', ';', '.', '*', '='].all
      (fun c ↦ !isBlank c) := by decide
    simpa using List.all_eq_true.mp hall c hc

theorem Spells.exists_lead {t : Token} {spelling : List Char} (h : Spells t spelling rest) :
    ∃ c tail, spelling = c :: tail ∧ IsLead c := by
  cases h with
  | word hword =>
    obtain ⟨c, hc, hstart⟩ := hword.1
    obtain ⟨tail, rfl⟩ := List.head?_eq_some_iff.mp hc
    exact ⟨c, tail, rfl, .inl hstart⟩
  | @string quote chars _ hquote =>
    refine ⟨quote, chars ++ [quote], rfl, .inr ?_⟩
    rcases hquote with rfl | rfl <;> decide
  | @symbol s c _ _ hend =>
    refine ⟨c, [], rfl, .inr ?_⟩
    have hsymbol := hend.mem
    simp only [List.mem_cons, List.not_mem_nil, or_false] at hsymbol ⊢
    grind

theorem plainToken_word {chars : List Char} (h : l.At (chars ++ rest) cs) (hword : IsWord chars)
    (hend : EndsWord rest) (n : Nat) :
    ∃ l', plainToken m (n + 1) l = .ok (some (.word (String.ofList chars))) l' ∧ l'.At rest cs := by
  obtain ⟨c, hc, hstart⟩ := hword.1
  obtain ⟨tail, rfl⟩ := List.head?_eq_some_iff.mp hc
  obtain ⟨l', hl', hat⟩ := word_of_at (m := m) h hword hend
  refine ⟨l', ?_, hat⟩
  have hne {d : Char} (hd : IdentifierChar.isStart d = false) : c ≠ d := ne_of_isStart hstart hd
  have hodd : oddComment? m l.lineBreak (c :: (tail ++ rest)) = none := oddComment?_eq_none
    (by simp [hne (d := '<') rfl, hne (d := '-') rfl, hne (d := '>') rfl, hne (d := '|') rfl])
    (fun heq ↦ absurd heq (hne rfl)) _
  rw [plainToken]
  simp [bind_apply, get_apply, h.rest, hodd, isDigit_of_isStart hstart, hne (d := '.') rfl,
    hne (d := '\x22') rfl, hne (d := '\x27') rfl, beginsWord, hstart, map_apply, hl']

theorem plainToken_string {quote : Char} {chars : List Char}
    (h : l.At (quote :: chars ++ [quote] ++ rest) cs) (hquote : quote = '\x22' ∨ quote = '\x27')
    (hplain : ∀ c ∈ chars, IsPlainIn quote c) (n : Nat) :
    ∃ l', plainToken m (n + 1) l = .ok
        (some (.string (String.ofList chars) (String.ofList (quote :: chars ++ [quote])))) l' ∧
      l'.At rest cs := by
  obtain ⟨l', hl', hat⟩ := string_of_at (m := m) h hquote hplain
  refine ⟨l', ?_, hat⟩
  have hodd : oddComment? m l.lineBreak (quote :: (chars ++ [quote] ++ rest)) = none :=
    oddComment?_eq_none (by rcases hquote with rfl | rfl <;> decide)
      (by rcases hquote with rfl | rfl <;> simp) _
  have hmap : (some <$> string m quote) l = .ok
      (some (.string (String.ofList chars) (String.ofList (quote :: chars ++ [quote])))) l' := by
    rw [map_apply, hl']
  rw [plainToken]
  simp only [bind_apply, get_apply, h.rest, List.cons_append, hodd]
  rcases hquote with rfl | rfl <;> exact hmap

theorem plainToken_symbol {s : String} {c : Char} (h : l.At ([c] ++ rest) cs)
    (hs : s.toList = [c]) (hend : EndsSymbol c rest) (n : Nat) :
    ∃ l', plainToken m (n + 1) l = .ok (some (.symbol s)) l' ∧ l'.At rest cs := by
  refine ⟨{ l with rest, pos := l.pos + c.utf8Size }, ?_, h.move (by simp) _ _⟩
  have hplain : ['{', '}', '(', ')', ',', ';', '.', '*', '='].all fun c ↦
      c ∉ ['<', '-', '>', '|'] ∧ c.isDigit = false ∧ (c == '\x22' || c == '\x27') = false ∧
        beginsWord c = false := by decide
  obtain ⟨hmark, hdigit, hquote, hword⟩ :=
    of_decide_eq_true (List.all_eq_true.mp hplain c hend.mem)
  have hlength : s.length = 1 := by rw [← String.length_toList, hs, List.length_singleton]
  have hskip : skipMany 1 l = .ok () { l with rest, pos := l.pos + c.utf8Size } := by
    rw [skipMany, bind_apply, skip_apply l h.rest]
    rfl
  rw [plainToken]
  simp only [bind_apply, get_apply, h.rest, List.cons_append, List.nil_append,
    oddComment?_eq_none hmark hend.head?_ne, hdigit, hend.not_number, hquote, hword,
    symbolAt?_of_ends hs hend, hlength, Bool.false_eq_true, ite_false, hskip]
  rfl

/-- The token that is spelled in front of a lexer. -/
theorem plainToken_of_spells {t : Token} {spelling : List Char} (h : l.At (spelling ++ rest) cs)
    (hspells : Spells t spelling rest) (n : Nat) :
    ∃ l', plainToken m (n + 1) l = .ok (some t) l' ∧ l'.At rest cs := by
  cases hspells with
  | word hword hend => exact plainToken_word h hword hend n
  | string hquote hplain => exact plainToken_string h hquote hplain n
  | symbol hs hend => exact plainToken_symbol h hs hend n

/-! ### Whole texts -/

theorem mem_bracketsAfter {t : Token} {spelling : List Char} (h : Spells t spelling rest)
    {brackets : List Bracket} (hbrackets : ∀ b ∈ brackets, b = .plain) :
    ∀ b ∈ bracketsAfter t brackets, b = .plain := by
  cases h with
  | word => exact hbrackets
  | string => exact hbrackets
  | @symbol s c _ hs hend =>
    obtain rfl : s = String.ofList [c] := by rw [← hs, String.ofList_toList]
    have hdrop : ∀ b ∈ brackets.drop 1, b = .plain := fun b hb ↦
      hbrackets b (List.mem_of_mem_drop hb)
    have hcons : ∀ b ∈ .plain :: brackets, b = .plain := by simpa using hbrackets
    rcases hend with hc | ⟨hc, -⟩ <;> simp only [List.mem_cons, List.not_mem_nil, or_false] at hc
    · rcases hc with rfl | rfl | rfl | rfl | rfl | rfl
      · exact hcons
      · exact hdrop
      · exact hcons
      · exact hdrop
      · exact hbrackets
      · exact hbrackets
    · rcases hc with rfl | rfl | rfl <;> exact hbrackets

/-- A comment begins with a slash. -/
theorem head?_spelled (c : Comment) (rest : List Char) : (spelled c ++ rest).head? = some '/' := by
  rw [spelled]
  split <;> rfl

/-- A gap begins with a blank or a comment. -/
theorem Gap.head?_eq {gap : List Char} {cs : List Comment} (h : Gap gap cs) :
    ∀ c ∈ gap.head?, isBlank c ∨ c = '/' := by
  have hblank {blanks : List Char} (hblanks : ∀ c ∈ blanks, isBlank c) :
      ∀ c ∈ blanks.head?, isBlank c ∨ c = '/' :=
    fun c hc ↦ .inl (hblanks c (List.mem_of_mem_head? hc))
  cases h with
  | blanks hblanks => exact hblank hblanks
  | @comment blanks c more cs hblanks =>
    cases blanks with
    | nil =>
      rintro x hx
      rw [List.nil_append, head?_spelled] at hx
      exact .inr (Option.some.inj hx).symm
    | cons x blanks => exact fun c hc ↦ .inl (hblanks c (by simp_all))

theorem Gap.blank {c : Char} {gap : List Char} {cs : List Comment} (hc : isBlank c)
    (h : Gap gap cs) : Gap (c :: gap) cs := by
  cases h with
  | blanks hblanks => exact .blanks (List.forall_mem_cons.mpr ⟨hc, hblanks⟩)
  | @comment blanks d more cs hblanks hmore =>
    have hblanks' : ∀ x ∈ c :: blanks, isBlank x := List.forall_mem_cons.mpr ⟨hc, hblanks⟩
    exact .comment hblanks' hmore

/-- A text that is made of spellings, by what stands behind its first gap. -/
theorem Tokenizes.exists_gap {text : List Char} {ts : List Token} (h : Tokenizes text ts cs) :
    ∃ gap inner now later, text = gap ++ inner ∧ cs = now ++ later ∧ Gap gap now ∧
      (∀ c ∈ inner.head?, IsLead c) ∧
      ((ts = [] ∧ inner = [] ∧ later = []) ∨ ∃ t ts' spelling rest, ts = t :: ts' ∧
        inner = spelling ++ rest ∧ Spells t spelling rest ∧ Tokenizes rest ts' later) := by
  cases h with
  | nil hgap => exact ⟨text, [], cs, [], by simp, by simp, hgap, by simp, .inl ⟨rfl, rfl, rfl⟩⟩
  | @cons gap now spelling rest t ts later hgap hspells hrest =>
    obtain ⟨c, tail, rfl, hlead⟩ := hspells.exists_lead
    exact ⟨gap, _, now, later, rfl, rfl, hgap, by simpa using hlead,
      .inr ⟨t, ts, _, rest, rfl, rfl, hspells, hrest⟩⟩

theorem Tokenizes.blank {c : Char} {ts : List Token} (hc : isBlank c) (h : Tokenizes rest ts cs) :
    Tokenizes (c :: rest) ts cs := by
  cases h with
  | nil hgap => exact .nil (hgap.blank hc)
  | cons hgap hspells hrest => exact .cons (hgap.blank hc) hspells hrest

/-- A blank in front of a gap can be left out, -/
theorem Gap.of_cons {c : Char} {gap : List Char} {cs : List Comment} (hc : isBlank c)
    (h : Gap (c :: gap) cs) : Gap gap cs := by
  generalize htext : c :: gap = text at h
  cases h with
  | blanks hblanks =>
    subst htext
    exact .blanks (List.forall_mem_cons.mp hblanks).2
  | @comment blanks d more cs hblanks hmore =>
    cases blanks with
    | nil =>
      have hslash := congrArg List.head? htext
      rw [List.nil_append, head?_spelled] at hslash
      obtain rfl : c = '/' := Option.some.inj hslash
      exact absurd hc (by decide)
    | cons x blanks =>
      obtain ⟨rfl, rfl⟩ := List.cons.inj htext
      exact .comment (List.forall_mem_cons.mp hblanks).2 hmore

/-- and so can one in front of spellings. -/
theorem Tokenizes.of_cons {c : Char} {ts : List Token} (hc : isBlank c)
    (h : Tokenizes (c :: rest) ts cs) : Tokenizes rest ts cs := by
  generalize htext : c :: rest = text at h
  cases h with
  | nil hgap => exact .nil (Gap.of_cons hc (htext ▸ hgap))
  | @cons gap now spelling rest' t ts later hgap hspells hrest =>
    cases gap with
    | nil =>
      obtain ⟨d, tail, rfl, hlead⟩ := hspells.exists_lead
      obtain ⟨rfl, -⟩ := List.cons.inj htext
      rw [hlead.isBlank_eq_false] at hc
      cases hc
    | cons d gap =>
      obtain ⟨rfl, rfl⟩ := List.cons.inj htext
      exact .cons (hgap.of_cons hc) hspells hrest

theorem Tokenizes.comment (c : Comment) {ts : List Token} (h : Tokenizes rest ts cs) :
    Tokenizes (spelled c ++ rest) ts (c :: cs) := by
  cases h with
  | nil hgap => exact .nil (.comment (List.forall_mem_nil _) hgap)
  | @cons gap now spelling rest t ts later hgap hspells hrest =>
    have hgap' : Gap ([] ++ (spelled c ++ gap)) (c :: now) :=
      .comment (List.forall_mem_nil _) hgap
    rw [← List.append_assoc]
    exact .cons hgap' hspells hrest

theorem Tokenizes.length_le {text : List Char} {ts : List Token} (h : Tokenizes text ts cs) :
    ts.length ≤ text.length := by
  induction h with
  | nil => exact Nat.zero_le _
  | cons _ hspells _ ih =>
    obtain ⟨c, tail, rfl, -⟩ := hspells.exists_lead
    simp only [List.length_cons, List.length_append]
    omega

theorem Tokenizes.spelled {t : Token} {spelling : List Char} {ts : List Token}
    (hspells : Spells t spelling rest) (h : Tokenizes rest ts cs) :
    Tokenizes (spelling ++ rest) (t :: ts) cs :=
  .cons (.blanks (List.forall_mem_nil _)) hspells h

/-- A text that is made of spellings does not name an interpreter. -/
theorem shebang?_of_tokenizes {text : List Char} {ts : List Token} (h : Tokenizes text ts cs) :
    shebang? text = none := by
  obtain ⟨gap, inner, _, _, rfl, _, hgap, hlead, -⟩ := h.exists_gap
  have hhead : ∀ c ∈ (gap ++ inner).head?, c ≠ '#' := by
    intro c hc
    cases gap with
    | nil => exact (hlead c hc).ne (by decide) (by decide)
    | cons d gap =>
      obtain rfl : d = c := by simpa using hc
      rintro rfl
      exact absurd (hgap.head?_eq '#' rfl) (by decide)
  rw [shebang?.eq_2]
  rintro rest heq
  exact hhead '#' (by simp [heq]) rfl

/-- A lexer in front of tokens, with the comments that it has come upon and those between the
tokens. -/
def Faces (l : Lexer) (ts : List Token) (cs : List Comment) : Prop :=
  ∃ text met later, l.At text met ∧ Tokenizes text ts later ∧ (met ++ later).Perm cs

/-- The reading of a token. -/
theorem token_of_faces {ts : List Token} (h : l.Faces ts cs) :
    (ts = [] ∧ ∃ l', token m l = .ok none l' ∧ l'.At [] cs) ∨
      ∃ t later start l', ts = t :: later ∧ token m l = .ok (some (t, start)) l' ∧
        l'.Faces later cs ∧ ∀ brackets, (∀ b ∈ brackets, b = Bracket.plain) →
          ∀ b ∈ bracketsAfter t brackets, b = .plain := by
  obtain ⟨text, met, found, hat, htokens, hcs⟩ := h
  have hshebang : (if l.isFirst then shebang? l.rest else none) = none := by
    rw [hat.rest, shebang?_of_tokenizes htokens, ite_self]
  have hquasi : (l.brackets.head? == some .quasi) = false := by
    rw [beq_eq_false_iff_ne]
    intro hhead
    cases hat.brackets _ (List.mem_of_mem_head? hhead)
  obtain ⟨gap, inner, now, later, rfl, rfl, hgap, hlead, hinner⟩ := htokens.exists_gap
  have hbegin : At
      { l with tokenAt := l.pos, lineBreak := l.isFirst, isFirst := false, regExpAt := none }
      (gap ++ inner) met :=
    ⟨hat.rest, hat.bound, hat.brackets, rfl, hat.met, hat.noted⟩
  obtain ⟨l', hspace, hat'⟩ := space_of_at hbegin hgap fun c hc ↦
    ⟨(hlead c hc).isBlank_eq_false, (hlead c hc).ne (by decide) (by decide)⟩
  have hmet : (now ++ met ++ later).Perm cs := by
    rw [← List.append_assoc] at hcs
    exact (List.perm_append_comm.append_right later).trans hcs
  rw [token]
  simp only [bind_apply, modify_apply, get_apply, set_apply, hat.regExpAt, hshebang, hquasi,
    Bool.false_eq_true, ite_false, hspace, hat'.rest]
  have hstart : At { l' with rest := inner, tokenAt := l'.pos } inner (now ++ met) :=
    ⟨rfl, hat'.bound, hat'.brackets, hat'.regExpAt, hat'.met, hat'.noted⟩
  rcases hinner with ⟨hts, rfl, rfl⟩ | ⟨t, later', spelling, rest, rfl, rfl, hspells, hrest⟩
  · rw [List.append_nil] at hmet
    exact .inl ⟨hts, _, rfl, hstart.perm hmet⟩
  · obtain ⟨n, hn⟩ := Nat.exists_eq_add_of_lt hat'.bound
    obtain ⟨l'', htoken, hat''⟩ := plainToken_of_spells (m := m) hstart hspells
      ((spelling ++ rest).length + n)
    obtain ⟨c, tail, rfl, -⟩ := hspells.exists_lead
    refine .inr ⟨t, later', { l' with rest := c :: tail ++ rest, tokenAt := l'.pos }, l'', rfl, ?_,
      ⟨rest, _, later, hat'', hrest, hmet⟩, fun _ ↦ mem_bracketsAfter hspells⟩
    rw [← hn] at htoken
    simp only [List.cons_append, List.isEmpty_cons, Bool.false_eq_true, ite_false, bind_apply,
      fuel_apply] at htoken ⊢
    simp only [htoken]
    rfl

/-- **Tokens.** The first token in front of a lexer. -/
theorem next_of_faces {t : Token} {ts : List Token} (h : l.Faces (t :: ts) cs) :
    ∃ x l', next m l = (some x, l') ∧ x.token = t ∧ l'.Faces ts cs := by
  obtain ⟨hts, -⟩ | ⟨t', later, start, l', heq, htoken, hfaces, hbrackets⟩ :=
    token_of_faces (m := m) h
  · cases hts
  · cases heq
    obtain ⟨text, met, later, hat, hrest, hcs⟩ := hfaces
    refine ⟨_, _, by rw [next, EStateM.run, htoken], rfl, text, met, later, ?_, hrest, hcs⟩
    refine ⟨hat.rest, hat.bound, hbrackets _ hat.brackets, hat.regExpAt, ?_, hat.noted⟩
    refine List.Perm.trans ?_ hat.met
    simp only [Lexer.met, after, List.map_append, List.map_map, Function.comp_def, List.map_id',
      List.append_nil]
    exact List.perm_append_comm.append_left _

/-- Whether all comments of a text are filed and no fault has been noted. -/
structure IsDone (cs : List Comment) (l : Lexer) : Prop where
  comments : (l.comments.filed.map Filed.comment).Perm cs
  noted : l.noted = []

/-- **The end.** There is no token where none is left, and then all comments are filed. -/
theorem next_of_faces_nil (h : l.Faces [] cs) :
    ∃ l', next m l = (none, l') ∧ l'.Faces [] cs ∧ IsDone cs l' := by
  obtain ⟨-, l', htoken, hat⟩ | ⟨_, _, _, _, heq, -⟩ := token_of_faces (m := m) h
  · have hfiled : (l'.fileComments.comments.filed.map Filed.comment).Perm cs := by
      refine List.Perm.trans ?_ hat.met
      simp only [Lexer.met, fileComments, Comments.add, List.map_append, List.map_map,
        Function.comp_def, List.map_reverse, List.map_id']
      exact ((List.reverse_perm _).append (List.reverse_perm _)).append_left _
    have hmet : l'.fileComments.met.Perm cs := by
      rwa [Lexer.met, show l'.fileComments.unfiled = [] from rfl,
        show l'.fileComments.pending = [] from rfl, List.map_nil, List.append_nil, List.append_nil]
    exact ⟨l'.fileComments, by rw [next, EStateM.run, htoken],
      ⟨[], cs, [], ⟨hat.rest, hat.bound, hat.brackets, hat.regExpAt, hmet, hat.noted⟩,
        .nil (.blanks (List.forall_mem_nil _)), by simp⟩, hfiled, hat.noted⟩
  · cases heq

end Tokens

end PageRoutes.Syntax.Lexer
