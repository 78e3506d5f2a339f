import PageRoutes.Proofs.Segment.Parameters
import Mathlib.Data.List.Chain
/-!
# Tokens of a name

A name is cut into bracket groups and the literal text between them. A group is an opening bracket,
a text without brackets, and a closing bracket. Groups never overlap, so there is one cut only: the
groups of the cut are all groups of the name, and brackets that belong to none of them, be they
alone or around a group, are literal text.

The path of a name with a group writes the tokens one after the other, a group as a colon with its
text, and puts a slash between two groups with nothing between them. The path is made from left to
right, one character at a time, with an open bracket held back until it is clear whether it begins a
group.

## Main definitions

* `Segment.Token`, `Segment.IsCut` : tokens, and the cut of a text into them.
* `Segment.tokens` : the tokens of a text, read from left to right.
* `Segment.writeTokens` : tokens as path text.

## Main results

* `Segment.tokens_eq_iff` : the cut of a text exists and is the only one.
* `Segment.marks_eq_flatMap_tokens` : the marks of a text are those of its tokens.
* `Segment.dynamicPath?_eq_tokens` : the path of a name.
-/

namespace PageRoutes.Segment

/-- A token of a name: a bracket group with the text in it, or literal text. -/
inductive Token where
  | group (text : List Char)
  | literal (text : List Char)

/-- Whether a token is a bracket group. -/
def Token.isGroup : Token → Bool
  | .group _ => true
  | .literal _ => false

/-- The characters of a token. -/
def Token.chars : Token → List Char
  | .group text => '[' :: (text ++ [']'])
  | .literal text => text

/-- Whether a text has no brackets in it. -/
def IsBracketFree (text : List Char) : Prop := '[' ∉ text ∧ ']' ∉ text

/-- Whether there is a bracket group somewhere in a text. -/
def HasGroup (cs : List Char) : Prop :=
  ∃ text, IsBracketFree text ∧ (Token.group text).chars <:+: cs

/-- Whether tokens are a text, cut into groups and the longest pieces of text between them. -/
structure IsCut (ts : List Token) (cs : List Char) : Prop where
  flatMap_chars : ts.flatMap Token.chars = cs
  isBracketFree : ∀ text, .group text ∈ ts → IsBracketFree text
  not_hasGroup : ∀ text, .literal text ∈ ts → ¬HasGroup text
  literal_ne_nil : ∀ text, .literal text ∈ ts → text ≠ []
  isChain : ts.IsChain fun s t ↦ s.isGroup ∨ t.isGroup

/-! ### The group that a text begins with -/

/-- Whether a character is no bracket. -/
def isInner (c : Char) : Bool := c != '[' && c != ']'

/-- The text of the bracket group that a text begins with, and what stands behind the group. -/
def leadingGroup? : List Char → Option (List Char × List Char)
  | '[' :: rest =>
    match rest.dropWhile isInner with
    | ']' :: behind => some (rest.takeWhile isInner, behind)
    | _ => none
  | _ => none

theorem isBracketFree_iff {text : List Char} : IsBracketFree text ↔ ∀ c ∈ text, isInner c := by
  simp only [IsBracketFree, isInner, Bool.and_eq_true, bne_iff_ne]
  constructor
  · rintro ⟨hopen, hclose⟩ c hc
    exact ⟨fun h ↦ hopen (h ▸ hc), fun h ↦ hclose (h ▸ hc)⟩
  · intro h
    exact ⟨fun hopen ↦ (h _ hopen).1 rfl, fun hclose ↦ (h _ hclose).2 rfl⟩

theorem chars_group_append (text behind : List Char) :
    (Token.group text).chars ++ behind = '[' :: (text ++ ']' :: behind) := by
  simp [Token.chars]

/-- A text begins with one group at most. -/
theorem leadingGroup?_eq_some_iff {cs text behind : List Char} :
    leadingGroup? cs = some (text, behind) ↔
      IsBracketFree text ∧ cs = (Token.group text).chars ++ behind := by
  rw [isBracketFree_iff, chars_group_append]
  constructor
  · intro h
    rw [leadingGroup?.eq_def] at h
    split at h
    · next rest =>
      split at h
      · next more hdrop =>
        obtain ⟨rfl, rfl⟩ := Prod.mk.inj (Option.some.inj h)
        refine ⟨fun c hc ↦ List.mem_takeWhile_imp hc, ?_⟩
        rw [← hdrop, List.takeWhile_append_dropWhile]
      · cases h
    · cases h
  · rintro ⟨htext, rfl⟩
    have hclose : ¬isInner ']' := by decide
    have htake : (text ++ ']' :: behind).takeWhile isInner = text := by
      rw [List.takeWhile_append_of_pos htext, List.takeWhile_cons_of_neg hclose, List.append_nil]
    have hdrop : (text ++ ']' :: behind).dropWhile isInner = ']' :: behind := by
      rw [List.dropWhile_append_of_pos htext, List.dropWhile_cons_of_neg hclose]
    simp [leadingGroup?, htake, hdrop]

theorem length_lt_of_leadingGroup? {cs text behind : List Char}
    (h : leadingGroup? cs = some (text, behind)) : behind.length < cs.length := by
  obtain ⟨-, rfl⟩ := leadingGroup?_eq_some_iff.mp h
  rw [chars_group_append]
  simp only [List.length_cons, List.length_append]
  omega

theorem isSome_leadingGroup?_iff {cs : List Char} :
    (leadingGroup? cs).isSome ↔ ∃ text, IsBracketFree text ∧ (Token.group text).chars <+: cs := by
  rw [Option.isSome_iff_exists]
  constructor
  · rintro ⟨⟨text, behind⟩, hgroup⟩
    obtain ⟨htext, hcs⟩ := leadingGroup?_eq_some_iff.mp hgroup
    exact ⟨text, htext, behind, hcs.symm⟩
  · rintro ⟨text, htext, behind, hcs⟩
    exact ⟨(text, behind), leadingGroup?_eq_some_iff.mpr ⟨htext, hcs.symm⟩⟩

theorem not_hasGroup_nil : ¬HasGroup [] := by
  rintro ⟨text, -, hwithin⟩
  simp [Token.chars] at hwithin

/-- A text has a group in it if it begins with one, or if there is one further on. -/
theorem hasGroup_cons_iff {c : Char} {cs : List Char} :
    HasGroup (c :: cs) ↔ (leadingGroup? (c :: cs)).isSome ∨ HasGroup cs := by
  rw [isSome_leadingGroup?_iff, HasGroup, HasGroup, ← exists_or]
  simp only [List.infix_cons_iff, and_or_left]

theorem isSome_leadingGroup?_append {cs : List Char} (h : (leadingGroup? cs).isSome)
    (rest : List Char) : (leadingGroup? (cs ++ rest)).isSome := by
  obtain ⟨text, htext, hbegins⟩ := isSome_leadingGroup?_iff.mp h
  exact isSome_leadingGroup?_iff.mpr ⟨text, htext, hbegins.trans (List.prefix_append cs rest)⟩

/-- A group that a text begins with does not reach beyond an opening bracket. -/
theorem isSome_leadingGroup?_of_append {cs rest : List Char} (hcs : cs ≠ [])
    (hrest : ∀ c ∈ rest.head?, c = '[') (h : (leadingGroup? (cs ++ rest)).isSome) :
    (leadingGroup? cs).isSome := by
  obtain ⟨text, htext, behind, happend⟩ := isSome_leadingGroup?_iff.mp h
  obtain ⟨c, cs, rfl⟩ := List.exists_cons_of_ne_nil hcs
  rw [chars_group_append, List.cons_append] at happend
  obtain ⟨rfl, htail⟩ := List.cons.inj happend
  refine isSome_leadingGroup?_iff.mpr ⟨text, htext, ?_⟩
  rcases List.append_eq_append_iff.mp htail with ⟨more, rfl, hmore⟩ | ⟨more, rfl, hmore⟩
  · cases more with
    | nil => exact absurd (hrest ']' (congrArg List.head? hmore).symm) (by decide)
    | cons d more =>
      obtain ⟨rfl, rfl⟩ := List.cons.inj hmore
      exact ⟨more, chars_group_append text more⟩
  · -- The group goes on in the rest, and there is no opening bracket in it.
    cases more with
    | nil => exact absurd (hrest ']' (by simp [hmore])) (by decide)
    | cons d more =>
      have hopen : d = '[' := hrest d (by simp [hmore])
      exact absurd (by simp [hopen]) htext.1

/-! ### Tokens from left to right -/

/-- Puts a character in front of tokens, as a part of the first one if this is literal. -/
def pushLiteral (c : Char) : List Token → List Token
  | .literal text :: rest => .literal (c :: text) :: rest
  | ts => .literal [c] :: ts

/-- The tokens of a text, read from left to right. -/
def tokens : List Char → List Token
  | [] => []
  | c :: rest =>
    match _h : leadingGroup? (c :: rest) with
    | some (text, behind) => .group text :: tokens behind
    | none => pushLiteral c (tokens rest)
termination_by cs => cs.length
decreasing_by
  · exact length_lt_of_leadingGroup? ‹_›
  · exact Nat.lt_succ_self _

theorem tokens_of_group {text behind : List Char} (htext : IsBracketFree text) :
    tokens ((Token.group text).chars ++ behind) = .group text :: tokens behind := by
  have hlead : leadingGroup? ((Token.group text).chars ++ behind) = some (text, behind) :=
    leadingGroup?_eq_some_iff.mpr ⟨htext, rfl⟩
  rw [chars_group_append] at hlead ⊢
  rw [tokens]
  split
  · next hgroup =>
    obtain ⟨rfl, rfl⟩ := Prod.mk.inj (Option.some.inj (hlead.symm.trans hgroup))
    rfl
  · next hnone =>
    rw [hlead] at hnone
    cases hnone

theorem tokens_of_leadingGroup?_eq_none {c : Char} {rest : List Char}
    (h : leadingGroup? (c :: rest) = none) : tokens (c :: rest) = pushLiteral c (tokens rest) := by
  rw [tokens]
  split
  · next hgroup =>
    rw [h] at hgroup
    cases hgroup
  · rfl

theorem pushLiteral_of_isGroup {ts : List Token} (h : ∀ t ∈ ts.head?, t.isGroup) (c : Char) :
    pushLiteral c ts = .literal [c] :: ts := by
  cases ts with
  | nil => rfl
  | cons t ts =>
    cases t with
    | group text => rfl
    | literal text => exact absurd (h _ rfl) (by simp [Token.isGroup])

/-- Literal text in front of a group is one token. -/
theorem tokens_of_literal {text rest : List Char} (hne : text ≠ []) (htext : ¬HasGroup text)
    (hrest : ∀ c ∈ rest.head?, c = '[') (hgroup : ∀ t ∈ (tokens rest).head?, t.isGroup) :
    tokens (text ++ rest) = .literal text :: tokens rest := by
  induction text with
  | nil => exact absurd rfl hne
  | cons c text ih =>
    obtain ⟨hlead, hfurther⟩ := not_or.mp (mt hasGroup_cons_iff.mpr htext)
    have hnone : leadingGroup? (c :: (text ++ rest)) = none :=
      Option.not_isSome_iff_eq_none.mp (mt (isSome_leadingGroup?_of_append hne hrest) hlead)
    rw [List.cons_append, tokens_of_leadingGroup?_eq_none hnone]
    cases text with
    | nil => exact pushLiteral_of_isGroup hgroup c
    | cons d text =>
      rw [ih (List.cons_ne_nil d text) hfurther]
      rfl

/-! ### The cut of a text -/

theorem IsCut.tail {t : Token} {ts : List Token} {cs : List Char} (h : IsCut (t :: ts) cs) :
    IsCut ts (ts.flatMap Token.chars) where
  flatMap_chars := rfl
  isBracketFree text hmem := h.isBracketFree text (List.mem_cons_of_mem t hmem)
  not_hasGroup text hmem := h.not_hasGroup text (List.mem_cons_of_mem t hmem)
  literal_ne_nil text hmem := h.literal_ne_nil text (List.mem_cons_of_mem t hmem)
  isChain := h.isChain.tail

/-- Behind literal text a cut goes on with a group, or not at all. -/
theorem IsCut.isGroup_of_mem_head? {text cs : List Char} {ts : List Token}
    (h : IsCut (.literal text :: ts) cs) : ∀ t ∈ ts.head?, t.isGroup := by
  intro t ht
  have hnext := (List.isChain_cons.mp h.isChain).1 t ht
  simpa [Token.isGroup] using hnext

theorem head?_flatMap_chars {ts : List Token} (h : ∀ t ∈ ts.head?, t.isGroup) :
    ∀ c ∈ (ts.flatMap Token.chars).head?, c = '[' := by
  cases ts with
  | nil => simp
  | cons t ts =>
    cases t with
    | group text => simp [Token.chars, eq_comm]
    | literal text => exact absurd (h _ rfl) (by simp [Token.isGroup])

/-- Every cut of a text is the one from left to right. -/
theorem IsCut.tokens_eq {ts : List Token} {cs : List Char} (h : IsCut ts cs) : tokens cs = ts := by
  induction ts generalizing cs with
  | nil =>
    rw [← h.flatMap_chars, List.flatMap_nil, tokens]
  | cons t ts ih =>
    have hrest := ih h.tail
    rw [← h.flatMap_chars, List.flatMap_cons]
    cases t with
    | group text => rw [tokens_of_group (h.isBracketFree text List.mem_cons_self), hrest]
    | literal text =>
      have hgroup := h.isGroup_of_mem_head?
      have hliteral := tokens_of_literal (h.literal_ne_nil text List.mem_cons_self)
        (h.not_hasGroup text List.mem_cons_self) (head?_flatMap_chars hgroup)
        (by rwa [hrest])
      rw [Token.chars, hliteral, hrest]

theorem isCut_group {text : List Char} {ts : List Token} {cs : List Char}
    (htext : IsBracketFree text) (h : IsCut ts cs) :
    IsCut (.group text :: ts) ((Token.group text).chars ++ cs) where
  flatMap_chars := by rw [List.flatMap_cons, h.flatMap_chars]
  isBracketFree other hmem := by
    rcases List.mem_cons.mp hmem with heq | hmem
    · rwa [Token.group.inj heq]
    · exact h.isBracketFree other hmem
  not_hasGroup other hmem := h.not_hasGroup other (by simpa using hmem)
  literal_ne_nil other hmem := h.literal_ne_nil other (by simpa using hmem)
  isChain := List.isChain_cons.mpr ⟨fun _ _ ↦ .inl rfl, h.isChain⟩

theorem isCut_literal {text : List Char} {ts : List Token} {cs : List Char} (hne : text ≠ [])
    (htext : ¬HasGroup text) (hgroup : ∀ t ∈ ts.head?, t.isGroup) (h : IsCut ts cs) :
    IsCut (.literal text :: ts) (text ++ cs) where
  flatMap_chars := by rw [List.flatMap_cons, h.flatMap_chars, Token.chars]
  isBracketFree other hmem := h.isBracketFree other (by simpa using hmem)
  not_hasGroup other hmem := by
    rcases List.mem_cons.mp hmem with heq | hmem
    · rwa [Token.literal.inj heq]
    · exact h.not_hasGroup other hmem
  literal_ne_nil other hmem := by
    rcases List.mem_cons.mp hmem with heq | hmem
    · rwa [Token.literal.inj heq]
    · exact h.literal_ne_nil other hmem
  isChain := List.isChain_cons.mpr ⟨fun t ht ↦ .inr (hgroup t ht), h.isChain⟩

/-- A character that begins no group becomes a part of the literal text in front. -/
theorem IsCut.pushLiteral {c : Char} {ts : List Token} {cs : List Char} (h : IsCut ts cs)
    (hnone : leadingGroup? (c :: cs) = none) : IsCut (pushLiteral c ts) (c :: cs) := by
  have hlead (text rest : List Char) (hcs : cs = text ++ rest) :
      ¬(leadingGroup? (c :: text)).isSome := by
    intro hsome
    have happend := isSome_leadingGroup?_append hsome rest
    rw [List.cons_append, ← hcs, hnone] at happend
    cases happend
  by_cases hgroup : ∀ t ∈ ts.head?, t.isGroup
  · rw [pushLiteral_of_isGroup hgroup]
    refine isCut_literal (List.cons_ne_nil c []) ?_ hgroup h
    rw [hasGroup_cons_iff, not_or]
    exact ⟨hlead [] cs rfl, not_hasGroup_nil⟩
  · match ts, h, hgroup with
    | [], _, hgroup => exact absurd (by simp) hgroup
    | .group text :: ts, _, hgroup => exact absurd (by simp [Token.isGroup]) hgroup
    | .literal text :: ts, h, _ =>
      have hcs : text ++ ts.flatMap Token.chars = cs := h.flatMap_chars
      rw [← hcs, ← List.cons_append]
      refine isCut_literal (List.cons_ne_nil c text) ?_ h.isGroup_of_mem_head? h.tail
      rw [hasGroup_cons_iff, not_or]
      exact ⟨hlead text _ hcs.symm, h.not_hasGroup text List.mem_cons_self⟩

/-- The tokens from left to right are a cut. -/
theorem isCut_tokens (cs : List Char) : IsCut (tokens cs) cs := by
  fun_induction tokens cs with
  | case1 => exact ⟨rfl, by simp, by simp, by simp, .nil⟩
  | case2 c rest text behind hgroup ih =>
    obtain ⟨htext, hcs⟩ := leadingGroup?_eq_some_iff.mp hgroup
    rw [hcs]
    exact isCut_group htext ih
  | case3 c rest hnone ih => exact ih.pushLiteral hnone

/-- **The cut.** A text has one cut only, the one from left to right. -/
theorem tokens_eq_iff {ts : List Token} {cs : List Char} : tokens cs = ts ↔ IsCut ts cs :=
  ⟨fun h ↦ h ▸ isCut_tokens cs, IsCut.tokens_eq⟩

/-! ### The marks of tokens -/

/-- The marks of a token. -/
def Token.marks : Token → List Mark
  | .group text => [.param text]
  | .literal text => text.map .literal

theorem flatMap_marks_pushLiteral (c : Char) (ts : List Token) :
    (pushLiteral c ts).flatMap Token.marks = .literal c :: ts.flatMap Token.marks := by
  fun_cases pushLiteral c ts with
  | case1 text rest => rfl
  | case2 => rfl

/-- An open bracket is literal if no closing one comes before the next bracket. -/
theorem marksFrom_some_of_not_close {cs : List Char}
    (h : ∀ behind, cs.dropWhile isInner ≠ ']' :: behind) (pending : List Char) :
    marksFrom (some pending) cs =
      .literal '[' :: (pending.reverse.map .literal ++ marksFrom none cs) := by
  induction cs generalizing pending with
  | nil => simp [marksFrom]
  | cons c cs ih =>
    by_cases hinner : isInner c
    · rw [List.dropWhile_cons_of_pos hinner] at h
      obtain ⟨hopen, hclose⟩ : c ≠ '[' ∧ c ≠ ']' := by simpa [isInner] using hinner
      have hpending : marksFrom (some pending) (c :: cs) = marksFrom (some (c :: pending)) cs := by
        rw [marksFrom]
        · exact hopen
        · exact hclose
      have hnone : marksFrom none (c :: cs) = .literal c :: marksFrom none cs :=
        marksFrom_none_append (List.mem_singleton.not.mpr (Ne.symm hopen)) cs
      rw [hpending, ih h, hnone]
      simp
    · have hclose : c ≠ ']' := by
        rintro rfl
        exact h cs (List.dropWhile_cons_of_neg hinner)
      obtain rfl : c = '[' := by
        by_contra hopen
        exact hinner (by simp [isInner, hopen, hclose])
      rw [marksFrom, marksFrom]
      rfl

theorem marks_cons_of_leadingGroup?_eq_none {c : Char} {rest : List Char}
    (h : leadingGroup? (c :: rest) = none) : marks (c :: rest) = .literal c :: marks rest := by
  by_cases hopen : c = '['
  · subst hopen
    have hclose (behind : List Char) : rest.dropWhile isInner ≠ ']' :: behind := by
      intro hdrop
      simp [leadingGroup?, hdrop] at h
    rw [marks, marksFrom, marksFrom_some_of_not_close hclose]
    rfl
  · rw [marks, ← List.singleton_append, marksFrom_none_append (by simpa using Ne.symm hopen)]
    rfl

/-- **Marks.** The marks of a text are those of its tokens. -/
theorem marks_eq_flatMap_tokens (cs : List Char) : marks cs = (tokens cs).flatMap Token.marks := by
  fun_induction tokens cs with
  | case1 => rfl
  | case2 c rest text behind hgroup ih =>
    obtain ⟨htext, hcs⟩ := leadingGroup?_eq_some_iff.mp hgroup
    rw [hcs, chars_group_append, marks, marksFrom, marksFrom_some_append htext.1 htext.2,
      List.flatMap_cons, ← ih]
    rfl
  | case3 c rest hnone ih =>
    rw [marks_cons_of_leadingGroup?_eq_none hnone, flatMap_marks_pushLiteral, ih]

/-! ### The path of tokens -/

/-- What stands between a group and the tokens behind it: a slash if these begin with a group. -/
def separator : List Token → List Char
  | .group _ :: _ => ['/']
  | _ => []

/-- Tokens as path text: a group as a colon with its text, and literal text as it is. -/
def writeTokens : List Token → List Char
  | [] => []
  | .literal text :: rest => text ++ writeTokens rest
  | .group text :: rest => ':' :: (text ++ (separator rest ++ writeTokens rest))

theorem writeMarks_flatMap_marks {ts : List Token}
    (h : ∀ text, .literal text ∈ ts → text ≠ []) (afterParam : Bool) :
    writeMarks afterParam (ts.flatMap Token.marks) =
      (if afterParam then separator ts else []) ++ writeTokens ts := by
  induction ts generalizing afterParam with
  | nil => cases afterParam <;> rfl
  | cons t ts ih =>
    have hrest := ih fun text hmem ↦ h text (List.mem_cons_of_mem t hmem)
    cases t with
    | group text =>
      rw [List.flatMap_cons, Token.marks, List.singleton_append, writeMarks, hrest]
      simp [writeTokens, separator]
    | literal text =>
      have hempty : text.isEmpty = false := by simpa using h text List.mem_cons_self
      rw [List.flatMap_cons, Token.marks, writeMarks_literal_append, hempty, Bool.and_false, hrest]
      simp [writeTokens, separator]

theorem any_isParam_flatMap_marks (ts : List Token) :
    (ts.flatMap Token.marks).any Mark.isParam = ts.any Token.isGroup := by
  induction ts with
  | nil => rfl
  | cons t ts ih =>
    rw [List.flatMap_cons, List.any_append, List.any_cons, ih]
    cases t with
    | group text => rfl
    | literal text => simp [Token.marks, Token.isGroup, Mark.isParam]

/-- The path of a name writes its tokens. -/
theorem dynamicPath?_eq_writeTokens (name : String) :
    dynamicPath? name =
      if (tokens name.toList).any Token.isGroup then
        some (String.ofList ('/' :: writeTokens (tokens name.toList)))
      else none := by
  have hwrite := writeMarks_flatMap_marks (isCut_tokens name.toList).literal_ne_nil false
  rw [dynamicPath?, marks_eq_flatMap_tokens, any_isParam_flatMap_marks, hwrite]
  rfl

/-- **The path of a name.** A name has one cut into tokens. It has a path of its own if and only if
one of them is a group, and this path is a slash and then the tokens in their order, groups as
parameters and literal text as it is, with one more slash between two groups next to each other. -/
theorem dynamicPath?_eq_tokens (name : String) :
    (∀ ts, IsCut ts name.toList ↔ ts = tokens name.toList) ∧
      dynamicPath? name =
        if (tokens name.toList).any Token.isGroup then
          some (String.ofList ('/' :: writeTokens (tokens name.toList)))
        else none := by
  refine ⟨fun ts ↦ ?_, dynamicPath?_eq_writeTokens name⟩
  rw [← tokens_eq_iff, eq_comm]

/-- Brackets around a group and a bracket that stands alone are literal, and an empty group is a
group. -/
example : ["a[b[c]d]é[][", "[][x]", "][é"].map dynamicPath? =
    [some "/a[b:cd]é:[", some "/:/:x", none] := by
  decide

end PageRoutes.Segment
