import PageRoutes.Proofs.Segment.RoutePath
/-!
# Normalising a name piece by piece

Lower-casing looks at the letters around a capital sigma, and hyphens are put between letters, so
the pieces of a name have an influence on each other. A character that is no letter and that ends
words, such as a bracket, cuts this influence off: what is in front of it and what is behind it are
normalised apart.

Characters in front of the small letters of ASCII, digits and punctuation, are never made by
lower-casing from other characters.

## Main definitions

* `LetterCase.IsBreak` : characters that are no letters and end words.
* `Segment.kebab` : the normalised form of a list of characters.

## Main results

* `Segment.kebab_append_cons` : a name with a break in it.
* `Segment.not_mem_kebab` : normalising makes no new punctuation.
* `Segment.kebab_eq_map` : names of ASCII characters.
-/

namespace PageRoutes

namespace LetterCase

/-! ### Characters that are not made -/

/-- Above ASCII no lower-case form is a character before the small letters. -/
theorem le_lowerCode {n : Nat} (h : 0x80 ≤ n) : 0x61 ≤ lowerCode n := by
  have hrows : ∀ r ∈ lowerRows, 0x61 ≤ r.image := by decide +kernel
  rw [lowerCode]
  split
  · next r hfind =>
    exact Nat.le_trans (hrows r (List.mem_of_find?_eq_some hfind)) (Nat.le_add_right _ _)
  · omega

/-- A character other than the one with the code zero is made from its own code only. -/
theorem code_eq_of_eq_ofNat {n : Nat} {c : Char} (hc : c.toNat ≠ 0) (h : c = Char.ofNat n) :
    n = c.toNat := by
  by_cases hvalid : n.isValidChar
  · rw [h, Char.ofNat, dif_pos hvalid]
    rfl
  · rw [h, Char.ofNat, dif_neg hvalid] at hc
    exact absurd rfl hc

/-- A character before the small letters is the lower-case form of itself only. -/
theorem eq_of_mem_lowerChar {c d : Char} (hpos : d.toNat ≠ 0) (hd : d.toNat < 0x61)
    (h : d ∈ lowerChar c) : c = d := by
  rw [lowerChar] at h
  split at h
  · next hascii =>
    have htable : ∀ n < 0x80, (Char.ofNat n).toLower.toNat < 0x61 →
        (Char.ofNat n).toLower = Char.ofNat n := by decide
    have hlower := htable c.toNat hascii
    rw [Char.ofNat_toNat, ← List.mem_singleton.mp h] at hlower
    exact (hlower hd).symm
  · next hascii =>
    split at h
    · rcases List.mem_cons.mp h with rfl | h
      · exact absurd hd (by decide)
      · obtain rfl := List.mem_singleton.mp h
        exact absurd hd (by decide)
    · have hcode : lowerCode c.toNat = d.toNat :=
        code_eq_of_eq_ofNat hpos (List.mem_singleton.mp h)
      have hle := le_lowerCode (Nat.not_lt.mp hascii)
      omega

theorem not_mem_lowerFrom {d : Char} (hpos : d.toNat ≠ 0) (hd : d.toNat < 0x61) {cs : List Char}
    (h : d ∉ cs) (before : List Char) : d ∉ lowerFrom before cs := by
  induction cs generalizing before with
  | nil => simp [lowerFrom]
  | cons c rest ih =>
    rw [List.mem_cons, not_or] at h
    obtain ⟨hc, hrest⟩ := h
    rw [lowerFrom, List.mem_append, not_or]
    refine ⟨?_, ih hrest _⟩
    split
    · intro hmem
      have hsigma : 0x61 ≤ 'ς'.toNat ∧ 0x61 ≤ 'σ'.toNat := by decide
      rw [List.mem_singleton.mp hmem] at hd
      split at hd
      · omega
      · omega
    · exact fun hmem ↦ hc (eq_of_mem_lowerChar hpos hd hmem).symm

/-! ### Breaks -/

/-- A character that is no letter and that ends words. -/
structure IsBreak (b : Char) : Prop where
  isIgnorable_eq : isIgnorable b = false
  isCased_eq : isCased b = false
  lowerChar_eq : lowerChar b = [b]

variable {b : Char}

theorem IsBreak.ne_sigma (hb : IsBreak b) : b ≠ 'Σ' := by
  rintro rfl
  exact absurd hb.isCased_eq (by decide +kernel)

theorem meetsCased_cons (c : Char) (rest : List Char) :
    meetsCased (c :: rest) = if isIgnorable c then meetsCased rest else isCased c := by
  rw [meetsCased, List.dropWhile_cons]
  cases isIgnorable c with
  | true => rfl
  | false => rfl

/-- Nothing is seen of what stands behind a break. -/
theorem meetsCased_append_cons (hb : IsBreak b) (xs ys : List Char) :
    meetsCased (xs ++ b :: ys) = meetsCased xs := by
  induction xs with
  | nil => simp [meetsCased, hb.isIgnorable_eq, hb.isCased_eq]
  | cons c rest ih => rw [List.cons_append, meetsCased_cons, meetsCased_cons, ih]

/-- What stands in front of a break has no influence behind it. -/
theorem lowerFrom_append_cons (hb : IsBreak b) (before more cs : List Char) :
    lowerFrom (before ++ b :: more) cs = lowerFrom before cs := by
  induction cs generalizing before with
  | nil => rfl
  | cons c rest ih =>
    rw [lowerFrom, lowerFrom, meetsCased_append_cons hb, ← List.cons_append, ih]

/-- What stands behind a break has no influence in front of it. -/
theorem lowerFrom_append (hb : IsBreak b) (before xs ys : List Char) :
    lowerFrom before (xs ++ b :: ys) = lowerFrom before xs ++ b :: lowerFrom [] ys := by
  induction xs generalizing before with
  | nil =>
    rw [List.nil_append, lowerFrom, lowerFrom, if_neg (by simpa using hb.ne_sigma), hb.lowerChar_eq]
    exact congrArg (b :: ·) (lowerFrom_append_cons hb [] before ys)
  | cons c rest ih =>
    rw [List.cons_append, lowerFrom, lowerFrom, meetsCased_append_cons hb, ih, List.append_assoc]

/-- **Lower case at a break.** What is in front of a break and what is behind it are lower-cased
apart. -/
theorem toLower_append_cons (hb : IsBreak b) (xs ys : List Char) :
    toLower (xs ++ b :: ys) = toLower xs ++ b :: toLower ys :=
  lowerFrom_append hb [] xs ys

/-- Characters of ASCII are lower-cased one by one. -/
theorem lowerFrom_eq_map {cs : List Char} (h : ∀ c ∈ cs, c.toNat < 0x80) (before : List Char) :
    lowerFrom before cs = cs.map Char.toLower := by
  induction cs generalizing before with
  | nil => rfl
  | cons c rest ih =>
    obtain ⟨hc, hrest⟩ := List.forall_mem_cons.mp h
    have hsigma : c ≠ 'Σ' := by
      rintro rfl
      exact absurd hc (by decide)
    rw [lowerFrom, if_neg (by simpa using hsigma), lowerChar, if_pos hc, ih hrest]
    rfl

end LetterCase

namespace Segment

open LetterCase

/-- The normalised form of the characters of a name. -/
def kebab (cs : List Char) : List Char := toLower (hyphenate cs)

theorem toList_normalize (name : String) : (normalize name).toList = kebab name.toList := by
  rw [normalize, String.toList_ofList, kebab]

/-! ### Hyphens -/

theorem not_mem_hyphenate {d : Char} (hd : d ≠ '-') {cs : List Char} (h : d ∉ cs) :
    d ∉ hyphenate cs := by
  fun_induction hyphenate cs with
  | case1 a b rest _ ih | case2 a b rest _ ih =>
    rw [List.mem_cons, not_or] at h
    obtain ⟨ha, hrest⟩ := h
    simp [ha, hd, ih hrest]
  | case3 => exact h

/-- All letters that a boundary can be made of are ASCII. -/
theorem toNat_lt_of_isAlpha {c : Char} (h : c.isAlpha) : c.toNat < 0x80 := by
  have hends : 'Z'.val.toNat < 0x80 ∧ 'z'.val.toNat < 0x80 := by decide
  rcases Bool.or_eq_true_iff.mp h with h | h
  · have hle : c.val ≤ 'Z'.val := (of_decide_eq_true h).2
    exact Nat.lt_of_le_of_lt (UInt32.le_iff_toNat_le.mp hle) hends.1
  · have hle : c.val ≤ 'z'.val := of_decide_eq_true (Bool.and_eq_true_iff.mp h).2
    exact Nat.lt_of_le_of_lt (UInt32.le_iff_toNat_le.mp hle) hends.2

/-- A break is no letter. -/
theorem isUpper_isLower_of_isBreak {b : Char} (hb : IsBreak b) :
    b.isUpper = false ∧ b.isLower = false := by
  suffices halpha : b.isAlpha = false from Bool.or_eq_false_iff.mp halpha
  by_cases hascii : b.toNat < 0x80
  · have hcased := hb.isCased_eq
    rwa [isCased, if_pos hascii] at hcased
  · exact Bool.eq_false_iff.mpr (mt toNat_lt_of_isAlpha hascii)

theorem hyphenate_cons_of_isBreak {b : Char} (hb : IsBreak b) (ys : List Char) :
    hyphenate (b :: ys) = b :: hyphenate ys := by
  cases ys with
  | nil => rfl
  | cons c rest => simp [hyphenate, isBoundary, (isUpper_isLower_of_isBreak hb).2]

/-- No hyphen is put in front of a break or behind it. -/
theorem hyphenate_append_cons {b : Char} (hb : IsBreak b) (xs ys : List Char) :
    hyphenate (xs ++ b :: ys) = hyphenate xs ++ b :: hyphenate ys := by
  fun_induction hyphenate xs with
  | case1 c d rest hboundary ih | case2 c d rest hboundary ih =>
    simpa [hyphenate, hboundary] using ih
  | case3 xs hshort =>
    cases xs with
    | nil => exact hyphenate_cons_of_isBreak hb ys
    | cons c rest =>
      cases rest with
      | nil =>
        have hlast : isBoundary c b = false := by
          simp [isBoundary, (isUpper_isLower_of_isBreak hb).1]
        rw [List.singleton_append, hyphenate, hlast, hyphenate_cons_of_isBreak hb]
        rfl
      | cons d rest => exact absurd rfl (hshort c d rest)

/-- **Normalising at a break.** What is in front of a break and what is behind it are normalised
apart. -/
theorem kebab_append_cons {b : Char} (hb : IsBreak b) (xs ys : List Char) :
    kebab (xs ++ b :: ys) = kebab xs ++ b :: kebab ys := by
  rw [kebab, hyphenate_append_cons hb, toLower_append_cons hb]
  rfl

/-- **Punctuation.** Normalising makes no character before the small letters but the hyphen. -/
theorem not_mem_kebab {d : Char} (hpos : d.toNat ≠ 0) (hd : d.toNat < 0x61) (hhyphen : d ≠ '-')
    {cs : List Char} (h : d ∉ cs) : d ∉ kebab cs :=
  not_mem_lowerFrom hpos hd (not_mem_hyphenate hhyphen h) []

/-! ### Camel-case boundaries -/

/-- Whether a name has a camel-case boundary in it. -/
def HasBoundary (cs : List Char) : Prop := ∃ a b, [a, b] <:+: cs ∧ isBoundary a b

theorem hasBoundary_cons_cons_iff {a b : Char} {rest : List Char} :
    HasBoundary (a :: b :: rest) ↔ isBoundary a b ∨ HasBoundary (b :: rest) := by
  constructor
  · rintro ⟨c, d, hinfix, hboundary⟩
    rcases List.infix_cons_iff.mp hinfix with hprefix | hinfix
    · obtain ⟨rfl, hsecond⟩ := List.cons_prefix_cons.mp hprefix
      obtain ⟨rfl, -⟩ := List.cons_prefix_cons.mp hsecond
      exact .inl hboundary
    · exact .inr ⟨c, d, hinfix, hboundary⟩
  · rintro (hboundary | ⟨c, d, hinfix, hboundary⟩)
    · exact ⟨a, b, ⟨[], rest, rfl⟩, hboundary⟩
    · exact ⟨c, d, List.infix_cons hinfix, hboundary⟩

/-- **Hyphens.** The characters of a hyphenated name are those of the name, and a hyphen if there is
a boundary. -/
theorem mem_hyphenate_iff {c : Char} {cs : List Char} :
    c ∈ hyphenate cs ↔ c ∈ cs ∨ c = '-' ∧ HasBoundary cs := by
  fun_induction hyphenate cs with
  | case1 a b rest hboundary ih =>
    rw [List.mem_cons, List.mem_cons, ih, List.mem_cons (l := b :: rest),
      hasBoundary_cons_cons_iff]
    simp only [hboundary, true_or, and_true]
    grind
  | case2 a b rest hboundary ih =>
    rw [List.mem_cons, ih, List.mem_cons (l := b :: rest), hasBoundary_cons_cons_iff]
    simp only [hboundary, Bool.false_eq_true, false_or, or_assoc]
  | case3 cs hshort =>
    have hnone : ¬HasBoundary cs := by
      rintro ⟨a, b, hinfix, -⟩
      have hlength := hinfix.length_le
      match cs, hshort with
      | [], _ | [_], _ => simp at hlength
      | a :: b :: rest, hshort => exact hshort a b rest rfl
    simp [hnone]

/-- The characters of an ASCII name are lower-cased one by one. -/
theorem kebab_eq_map {cs : List Char} (h : ∀ c ∈ cs, c.toNat < 0x80) :
    kebab cs = (hyphenate cs).map Char.toLower := by
  refine lowerFrom_eq_map (fun c hc ↦ ?_) []
  rcases mem_hyphenate_iff.mp hc with hmem | ⟨rfl, -⟩
  · exact h c hmem
  · decide

end Segment

end PageRoutes
