import PageRoutes.Proofs.Segment.Normalized
import Mathlib.Data.List.SplitBy
/-!
# Camel-case boundaries

A name is cut at its camel-case boundaries and joined again with hyphens. A search for boundaries
that goes on behind both letters of one finds all of them, because no letter is both small and
capital and so none ends one boundary and begins the next.

Boundaries are made of letters of ASCII only, while lower-casing knows the letters of all scripts.
In an alphabet with more letters a name may have more boundaries, and at these it is not cut. Its
normalised form is then another one than the alphabet asks for, since lower-casing neither makes
hyphens nor takes any away.

## Main definitions

* `Segment.hyphenateAt` : the pieces of a text between boundaries, joined with hyphens.
* `Segment.searchAndHyphenate` : the same by a search without overlap.
* `Segment.Alphabet` : small and capital letters, with those of ASCII among them.

## Main results

* `Segment.hyphenate_eq_hyphenateAt`, `Segment.searchAndHyphenate_eq_hyphenateAt` : the three agree.
* `Segment.toLower_hyphenateAt_eq_iff` : texts cut at more boundaries, in lower case.
* `Segment.normalize_camelCase` : where a name is cut, and when an alphabet asks for the same.
-/

namespace PageRoutes.Segment

open LetterCase

variable {p q : Char → Char → Bool}

/-! ### Pieces between boundaries -/

/-- The longest pieces of a text without a boundary in them, joined with hyphens. -/
def hyphenateAt (p : Char → Char → Bool) (cs : List Char) : List Char :=
  ['-'].intercalate (cs.splitBy fun a b ↦ !p a b)

/-- A character in front of a text belongs to the first piece, or is a piece of its own. -/
theorem splitBy_cons_cons {r : Char → Char → Bool} (a b : Char) (rest : List Char) :
    ∃ first others, (b :: rest).splitBy r = (b :: first) :: others ∧
      (a :: b :: rest).splitBy r =
        if r a b then (a :: b :: first) :: others else [a] :: (b :: first) :: others := by
  have hne : (b :: rest).splitBy r ≠ [] := List.splitBy_ne_nil.mpr (List.cons_ne_nil b rest)
  obtain ⟨piece, others, hsplit⟩ := List.exists_cons_of_ne_nil hne
  have hpiece : piece ≠ [] := List.ne_nil_of_mem_splitBy (hsplit ▸ List.mem_cons_self)
  obtain ⟨c, first, rfl⟩ := List.exists_cons_of_ne_nil hpiece
  obtain ⟨hflatten, hnil, hchains, hends⟩ := List.splitBy_eq_iff.mp hsplit
  obtain ⟨rfl, hrest⟩ := List.cons.inj hflatten
  refine ⟨first, others, hsplit, ?_⟩
  split
  · next hr =>
    obtain ⟨hfirst, hothers⟩ := List.forall_mem_cons.mp hchains
    refine List.splitBy_eq_iff.mpr ⟨by simp [hrest], by simpa using hnil, ?_, ?_⟩
    · exact List.forall_mem_cons.mpr ⟨hfirst.cons_cons hr, hothers⟩
    · rw [List.isChain_cons] at hends ⊢
      refine ⟨fun next hnext ↦ ?_, hends.2⟩
      obtain ⟨_, hhead, hlast⟩ := hends.1 next hnext
      refine ⟨List.cons_ne_nil _ _, hhead, ?_⟩
      rw [List.getLast_cons (List.cons_ne_nil b first)]
      exact hlast
  · next hr =>
    have happend : ([a] ++ b :: rest).splitBy r = [a].splitBy r ++ (b :: rest).splitBy r :=
      List.splitBy_append_cons rest (by simpa using hr)
    rw [hsplit] at happend
    exact happend

/-- A hyphen stands behind a character that begins a boundary, and behind no other. -/
theorem hyphenateAt_cons_cons (a b : Char) (rest : List Char) :
    hyphenateAt p (a :: b :: rest) =
      a :: ((if p a b then ['-'] else []) ++ hyphenateAt p (b :: rest)) := by
  obtain ⟨first, others, hsplit, hcons⟩ := splitBy_cons_cons (r := fun a b ↦ !p a b) a b rest
  rw [hyphenateAt, hyphenateAt, hcons, hsplit]
  cases p a b with
  | true => simp
  | false => simp

/-- The hyphens of a name stand between the pieces of the name. -/
theorem hyphenate_eq_hyphenateAt (cs : List Char) : hyphenate cs = hyphenateAt isBoundary cs := by
  induction cs with
  | nil => rfl
  | cons a cs ih =>
    cases cs with
    | nil => rfl
    | cons b rest =>
      rw [hyphenate, hyphenateAt_cons_cons, ih]
      cases isBoundary a b with
      | true => rfl
      | false => rfl

/-! ### The search without overlap -/

/-- Puts hyphens into boundaries. Behind a boundary the search goes on after its second letter. -/
def searchAndHyphenate (p : Char → Char → Bool) : List Char → List Char
  | a :: b :: rest =>
    if p a b then a :: '-' :: b :: searchAndHyphenate p rest
    else a :: searchAndHyphenate p (b :: rest)
  | cs => cs

/-- The search misses nothing if no boundary begins with the letter that ends another one. -/
theorem searchAndHyphenate_eq_hyphenateAt (hp : ∀ a b c, p a b → p b c = false)
    (cs : List Char) : searchAndHyphenate p cs = hyphenateAt p cs := by
  fun_induction searchAndHyphenate p cs with
  | case1 a b rest hboundary ih =>
    have hsecond : hyphenateAt p (b :: rest) = b :: hyphenateAt p rest := by
      cases rest with
      | nil => rfl
      | cons c rest => rw [hyphenateAt_cons_cons, hp a b c hboundary]; rfl
    rw [hyphenateAt_cons_cons, if_pos hboundary, hsecond, ih]
    rfl
  | case2 a b rest hboundary ih => rw [hyphenateAt_cons_cons, if_neg hboundary, ih]; rfl
  | case3 cs hshort =>
    match cs, hshort with
    | [], _ => rfl
    | [a], _ => rfl
    | a :: b :: rest, hshort => exact absurd rfl (hshort a b rest)

/-- No letter of ASCII is both small and capital. -/
theorem isBoundary_eq_false_of_isBoundary (a b c : Char) (h : isBoundary a b) :
    isBoundary b c = false := by
  refine Bool.eq_false_iff.mpr fun hnext ↦ ?_
  have hupper : b.isUpper := (Bool.and_eq_true_iff.mp h).2
  have hlower : b.isLower := (Bool.and_eq_true_iff.mp hnext).1
  have hsmall : 0x61 ≤ b.toNat :=
    UInt32.le_iff_toNat_le.mp (of_decide_eq_true (Bool.and_eq_true_iff.mp hlower).1)
  exact absurd (toNat_lt_of_isUpper hupper) (Nat.not_lt.mpr hsmall)

/-! ### Hyphens of a text in lower case -/

/-- Lower-casing makes hyphens of hyphens only, and of each of them one. -/
theorem count_lowerFrom (before cs : List Char) :
    (lowerFrom before cs).count '-' = cs.count '-' := by
  induction cs generalizing before with
  | nil => rfl
  | cons c rest ih =>
    rw [lowerFrom, List.count_append, ih]
    by_cases hhyphen : c = '-'
    · rw [hhyphen, List.count_cons_self, Nat.add_comm]
      rfl
    · rw [List.count_cons_of_ne hhyphen, List.count_eq_zero.mpr, Nat.zero_add]
      intro hmem
      split at hmem
      · have hsigmas : '-' ≠ 'ς' ∧ '-' ≠ 'σ' := by decide
        split at hmem
        · exact hsigmas.1 (List.mem_singleton.mp hmem)
        · exact hsigmas.2 (List.mem_singleton.mp hmem)
      · exact hhyphen (eq_of_mem_lowerChar (by decide) (by decide) hmem)

theorem count_toLower (cs : List Char) : (toLower cs).count '-' = cs.count '-' :=
  count_lowerFrom [] cs

/-! ### More boundaries -/

/-- Hyphens are put into the same places if the same neighbours are boundaries. -/
theorem hyphenateAt_congr {cs : List Char} (h : ∀ a b, [a, b] <:+: cs → p a b = q a b) :
    hyphenateAt p cs = hyphenateAt q cs := by
  induction cs with
  | nil => rfl
  | cons a cs ih =>
    cases cs with
    | nil => rfl
    | cons b rest =>
      rw [hyphenateAt_cons_cons, hyphenateAt_cons_cons, h a b ⟨[], rest, rfl⟩,
        ih fun c d hpair ↦ h c d (List.infix_cons hpair)]

theorem count_hyphenateAt_cons_cons (a b : Char) (rest : List Char) :
    (hyphenateAt p (a :: b :: rest)).count '-' =
      [a].count '-' + (if p a b then 1 else 0) + (hyphenateAt p (b :: rest)).count '-' := by
  rw [hyphenateAt_cons_cons, ← List.singleton_append, List.count_append, List.count_append,
    Nat.add_assoc]
  cases p a b with
  | true => rfl
  | false => rfl

theorem ite_le_ite (hpq : ∀ a b, q a b → p a b) (a b : Char) :
    (if q a b then 1 else 0) ≤ if p a b then 1 else 0 := by
  split
  · next hq => rw [if_pos (hpq a b hq)]
  · exact Nat.zero_le _

/-- More boundaries make no fewer hyphens. -/
theorem count_hyphenateAt_le (hpq : ∀ a b, q a b → p a b) (cs : List Char) :
    (hyphenateAt q cs).count '-' ≤ (hyphenateAt p cs).count '-' := by
  induction cs with
  | nil => rfl
  | cons a cs ih =>
    cases cs with
    | nil => rfl
    | cons b rest =>
      rw [count_hyphenateAt_cons_cons, count_hyphenateAt_cons_cons]
      have hone := ite_le_ite hpq a b
      omega

theorem pair_infix_cons_cons_iff {a b c d : Char} {rest : List Char} :
    [a, b] <:+: c :: d :: rest ↔ a = c ∧ b = d ∨ [a, b] <:+: d :: rest := by
  rw [List.infix_cons_iff, List.cons_prefix_cons, List.cons_prefix_cons]
  simp

/-- If they make no more either, then a text has no boundaries but the fewer ones. -/
theorem forall_of_count_hyphenateAt_eq (hpq : ∀ a b, q a b → p a b) {cs : List Char}
    (h : (hyphenateAt p cs).count '-' = (hyphenateAt q cs).count '-') :
    ∀ a b, [a, b] <:+: cs → p a b → q a b := by
  induction cs with
  | nil => simp
  | cons c cs ih =>
    cases cs with
    | nil =>
      intro a b hpair
      simpa using hpair.length_le
    | cons d rest =>
      rw [count_hyphenateAt_cons_cons, count_hyphenateAt_cons_cons] at h
      have hone := ite_le_ite hpq c d
      have hle := count_hyphenateAt_le hpq (d :: rest)
      have hhere : (if p c d then 1 else 0) ≤ if q c d then 1 else 0 := by omega
      have hrest : (hyphenateAt p (d :: rest)).count '-' = (hyphenateAt q (d :: rest)).count '-' :=
        by omega
      intro a b hpair hp
      rcases pair_infix_cons_cons_iff.mp hpair with ⟨rfl, rfl⟩ | hpair
      · by_contra hq
        rw [if_pos hp, if_neg hq] at hhere
        omega
      · exact ih hrest a b hpair hp

/-- **More boundaries.** A text that is cut at more boundaries is the same in lower case if and only
if it has none of the others in it. -/
theorem toLower_hyphenateAt_eq_iff (hpq : ∀ a b, q a b → p a b) {cs : List Char} :
    toLower (hyphenateAt q cs) = toLower (hyphenateAt p cs) ↔
      ∀ a b, [a, b] <:+: cs → p a b → q a b := by
  constructor
  · intro h
    have hcount := congrArg (List.count '-') h
    rw [count_toLower, count_toLower] at hcount
    exact forall_of_count_hyphenateAt_eq hpq hcount.symm
  · intro h
    have hsame (a b : Char) (hpair : [a, b] <:+: cs) : q a b = p a b :=
      Bool.eq_iff_iff.mpr ⟨hpq a b, h a b hpair⟩
    rw [hyphenateAt_congr hsame]

/-! ### Alphabets -/

/-- Small and capital letters, with those of ASCII among them. -/
structure Alphabet where
  isLower : Char → Bool
  isUpper : Char → Bool
  isLower_of_ascii : ∀ c : Char, c.isLower → isLower c
  isUpper_of_ascii : ∀ c : Char, c.isUpper → isUpper c

/-- Whether two neighbouring characters are a small letter and a capital one. -/
def Alphabet.isBoundary (letters : Alphabet) (a b : Char) : Bool :=
  letters.isLower a && letters.isUpper b

theorem Alphabet.isBoundary_of_ascii (letters : Alphabet) {a b : Char}
    (h : Segment.isBoundary a b) : letters.isBoundary a b := by
  obtain ⟨hlower, hupper⟩ := Bool.and_eq_true_iff.mp h
  exact Bool.and_eq_true_iff.mpr
    ⟨letters.isLower_of_ascii a hlower, letters.isUpper_of_ascii b hupper⟩

/-- The letters that lower-casing changes, and the forms that it makes of them. -/
def Alphabet.paired : Alphabet where
  isLower c := c.isLower || lowerRows.any fun r ↦
    r.image ≤ c.toNat && c.toNat ≤ r.image + (r.last - r.first) &&
      (c.toNat - r.image) % r.stride == 0
  isUpper c := lowerChar c != [c]
  isLower_of_ascii c h := by rw [h, Bool.true_or]
  isUpper_of_ascii c h := by
    refine bne_iff_ne.mpr fun hlowered ↦ ?_
    rw [IsLowered.isUpper_eq hlowered] at h
    cases h

/-- **Camel case.** The normalised form of a name is its lower-case form with one hyphen in each
camel-case boundary of ASCII letters and with no other new hyphen. The search without overlap finds
the same boundaries. The name is cut as an alphabet with more letters asks for if and only if all
its boundaries in this alphabet are made of letters of ASCII. -/
theorem normalize_camelCase (name : String) :
    normalize name = String.ofList (toLower (hyphenateAt isBoundary name.toList)) ∧
      searchAndHyphenate isBoundary name.toList = hyphenateAt isBoundary name.toList ∧
      ∀ letters : Alphabet,
        normalize name = String.ofList (toLower (hyphenateAt letters.isBoundary name.toList)) ↔
          ∀ a b, [a, b] <:+: name.toList → letters.isBoundary a b → isBoundary a b := by
  refine ⟨?_, ?_, fun letters ↦ ?_⟩
  · rw [normalize, hyphenate_eq_hyphenateAt]
  · exact searchAndHyphenate_eq_hyphenateAt isBoundary_eq_false_of_isBoundary name.toList
  · rw [normalize, hyphenate_eq_hyphenateAt, String.ofList_inj]
    exact toLower_hyphenateAt_eq_iff fun a b ↦ letters.isBoundary_of_ascii

/-- A boundary of two letters with marks, and one with a capital letter with a mark, at which no
hyphen is put. -/
theorem exists_boundary_without_hyphen :
    ∃ marked half : String, marked = "menüÜbersicht" ∧ half = "aboutÉcole" ∧
      normalize marked = "menüübersicht" ∧
      String.ofList (toLower (hyphenateAt Alphabet.paired.isBoundary marked.toList)) =
        "menü-übersicht" ∧
      normalize half = "aboutécole" ∧
      String.ofList (toLower (hyphenateAt Alphabet.paired.isBoundary half.toList)) =
        "about-école" := by
  refine ⟨_, _, rfl, rfl, ?_, ?_, ?_, ?_⟩
  · decide +kernel
  · decide +kernel
  · decide +kernel
  · decide +kernel

end PageRoutes.Segment
