import PageRoutes.Proofs.Segment.Normalize
/-!
# Normalised names

A name is normalised if and only if lower-casing leaves each of its characters as it is, away from
any context. Such a name has no capital letter of ASCII, so it has no camel-case boundary. It has no
capital sigma either, so nothing in it depends on the characters around.

Lower-casing makes only characters of this kind. For the letters of the table this is a property of
its rows: no row holds a code point that another row, or the same one, maps to. The two characters
made of `İ` and the two small sigmas are of this kind, too. So normalising a normalised name changes
nothing.

## Main definitions

* `LetterCase.IsLowered` : characters that lower-casing leaves as they are.

## Main results

* `LetterCase.lowerCode_lowerCode` : the table maps no code point that it has made.
* `LetterCase.isLowered_of_mem_lowerFrom` : what lower-casing makes.
* `Segment.kebab_eq_self_iff` : the names that are normalised.
* `Segment.normalize_normalize` : normalising twice.
-/

namespace PageRoutes

namespace LetterCase

/-! ### The table -/

/-- The code points that the table maps. -/
def mappedCodes : List Nat :=
  lowerRows.flatMap fun r ↦ List.range' r.first ((r.last - r.first) / r.stride + 1) r.stride

/-- The code points that the table makes. -/
def madeCodes : List Nat :=
  lowerRows.flatMap fun r ↦ List.range' r.image ((r.last - r.first) / r.stride + 1) r.stride

/-- A code point is mapped to one that the table makes, or to itself. -/
theorem lowerCode_eq_self_or (n : Nat) :
    lowerCode n = n ∨ n ∈ mappedCodes ∧ lowerCode n ∈ madeCodes := by
  rw [lowerCode]
  split
  · next r hfind =>
    have hholds := List.find?_some hfind
    simp only [Bool.and_eq_true, decide_eq_true_eq, beq_iff_eq] at hholds
    obtain ⟨⟨hfirst, hlast⟩, hstep⟩ := hholds
    have hr := List.mem_of_find?_eq_some hfind
    have hoffset : n - r.first = r.stride * ((n - r.first) / r.stride) := by
      have hdivision := Nat.div_add_mod (n - r.first) r.stride
      omega
    have hbound : (n - r.first) / r.stride < (r.last - r.first) / r.stride + 1 :=
      Nat.lt_succ_of_le (Nat.div_le_div_right (Nat.sub_le_sub_right hlast _))
    refine .inr ⟨List.mem_flatMap.mpr ⟨r, hr, ?_⟩, List.mem_flatMap.mpr ⟨r, hr, ?_⟩⟩
    · exact List.mem_range'.mpr ⟨_, hbound, by omega⟩
    · exact List.mem_range'.mpr ⟨_, hbound, congrArg (r.image + ·) hoffset⟩
  · exact .inl rfl

/-- The number whose bits are at the given places. -/
def bitsAt (places : List Nat) : Nat := places.foldr (fun n bits ↦ 1 <<< n ||| bits) 0

theorem testBit_bitsAt (places : List Nat) (n : Nat) : (bitsAt places).testBit n ↔ n ∈ places := by
  induction places with
  | nil => simp [bitsAt]
  | cons m places ih =>
    rw [List.mem_cons, ← ih, bitsAt, List.foldr_cons, Nat.testBit_or, Nat.one_shiftLeft,
      Nat.testBit_two_pow, Bool.or_eq_true, decide_eq_true_iff, eq_comm]
    rfl

/-- The table makes no code point that changes in lower case. -/
theorem not_mem_of_mem_madeCodes {n : Nat} (h : n ∈ madeCodes) : n ∉ 'İ'.toNat :: mappedCodes := by
  -- Two lists are compared at once as the bits of two numbers.
  have hbits : bitsAt ('İ'.toNat :: mappedCodes) &&& bitsAt madeCodes = 0 := by decide +kernel
  intro hmapped
  have hboth : (bitsAt ('İ'.toNat :: mappedCodes) &&& bitsAt madeCodes).testBit n := by
    rw [Nat.testBit_and, (testBit_bitsAt _ n).mpr hmapped, (testBit_bitsAt _ n).mpr h]
    rfl
  rw [hbits, Nat.zero_testBit] at hboth
  cases hboth

/-- **The table.** It maps no code point that it has made. -/
theorem lowerCode_lowerCode (n : Nat) : lowerCode (lowerCode n) = lowerCode n := by
  rcases lowerCode_eq_self_or n with hself | ⟨-, hmade⟩
  · rw [hself, hself]
  · rcases lowerCode_eq_self_or (lowerCode n) with hself | ⟨hmapped, -⟩
    · exact hself
    · exact absurd (List.mem_cons_of_mem _ hmapped) (not_mem_of_mem_madeCodes hmade)

/-- The table does not make the letter whose form is two characters long. -/
theorem lowerCode_ne {n : Nat} (h : n ≠ 'İ'.toNat) : lowerCode n ≠ 'İ'.toNat := by
  rcases lowerCode_eq_self_or n with hself | ⟨-, hmade⟩
  · rwa [hself]
  · intro hdotted
    exact not_mem_of_mem_madeCodes hmade (hdotted ▸ List.mem_cons_self)

/-! ### Characters in lower case -/

/-- Whether lower-casing leaves a character as it is, away from any context. -/
def IsLowered (c : Char) : Prop := lowerChar c = [c]

/-- What holds of all code points of ASCII holds of all characters of ASCII. -/
theorem forall_of_ascii {p : Char → Prop} (h : ∀ n < 0x80, p (Char.ofNat n)) {c : Char}
    (hascii : c.toNat < 0x80) : p c := by
  have hchar := h c.toNat hascii
  rwa [Char.ofNat_toNat] at hchar

/-- The capital letters of ASCII stand before the small ones. -/
theorem toNat_lt_of_isUpper {c : Char} (h : c.isUpper) : c.toNat < 0x61 :=
  Nat.lt_of_le_of_lt (UInt32.le_iff_toNat_le.mp (of_decide_eq_true h).2) (by decide)

/-- Among the characters of ASCII only the capital letters change. -/
theorem isLowered_iff_of_ascii {c : Char} (hascii : c.toNat < 0x80) :
    IsLowered c ↔ c.isUpper = false := by
  have htable : ∀ n < 0x80, (Char.ofNat n).toLower = Char.ofNat n ↔
      (Char.ofNat n).isUpper = false := by decide
  rw [IsLowered, lowerChar, if_pos hascii, List.singleton_inj]
  exact forall_of_ascii (p := fun c ↦ c.toLower = c ↔ c.isUpper = false) htable hascii

/-- Above ASCII the characters that the table does not map are left as they are. -/
theorem isLowered_of_lowerCode {c : Char} (hle : 0x80 ≤ c.toNat) (hne : c ≠ 'İ')
    (h : lowerCode c.toNat = c.toNat) : IsLowered c := by
  rw [IsLowered, lowerChar, if_neg (Nat.not_lt.mpr hle), if_neg (by simpa using hne), h,
    Char.ofNat_toNat]

/-- A capital letter of ASCII is not in lower case. -/
theorem IsLowered.isUpper_eq {c : Char} (h : IsLowered c) : c.isUpper = false := by
  by_cases hascii : c.toNat < 0x80
  · exact (isLowered_iff_of_ascii hascii).mp h
  · refine Bool.eq_false_iff.mpr fun hupper ↦ hascii ?_
    exact Nat.lt_trans (toNat_lt_of_isUpper hupper) (by decide)

theorem IsLowered.ne_sigma {c : Char} (h : IsLowered c) : c ≠ 'Σ' := by
  rintro rfl
  have hform : lowerChar 'Σ' = ['σ'] := by decide +kernel
  rw [IsLowered, hform] at h
  exact absurd h (by decide)

/-- The table makes characters that it leaves as they are. -/
theorem isLowered_ofNat_lowerCode {c : Char} (hle : 0x80 ≤ c.toNat) (hne : c ≠ 'İ') :
    IsLowered (Char.ofNat (lowerCode c.toNat)) := by
  by_cases hvalid : (lowerCode c.toNat).isValidChar
  · have hcode : (Char.ofNat (lowerCode c.toNat)).toNat = lowerCode c.toNat := by
      rw [Char.ofNat, dif_pos hvalid]
      rfl
    by_cases hascii : lowerCode c.toNat < 0x80
    · -- Letters like the Kelvin sign come down to ASCII, and there to small letters.
      rw [← hcode] at hascii
      refine (isLowered_iff_of_ascii hascii).mpr (Bool.eq_false_iff.mpr fun hupper ↦ ?_)
      have hcapital := toNat_lt_of_isUpper hupper
      have hsmall := le_lowerCode hle
      omega
    · refine isLowered_of_lowerCode ?_ (fun hdotted ↦ ?_) ?_
      · rw [hcode]
        exact Nat.not_lt.mp hascii
      · rw [hdotted] at hcode
        exact lowerCode_ne (fun h ↦ hne (Char.toNat_inj.mp h)) hcode.symm
      · rw [hcode]
        exact lowerCode_lowerCode c.toNat
  · rw [Char.ofNat, dif_neg hvalid]
    exact (isLowered_iff_of_ascii (by decide)).mpr (by decide)

/-- The lower-case form of a character is in lower case. -/
theorem isLowered_of_mem_lowerChar {c d : Char} (h : d ∈ lowerChar c) : IsLowered d := by
  rw [lowerChar] at h
  split at h
  · next hascii =>
    have htable : ∀ n < 0x80, (Char.ofNat n).toLower.toNat < 0x80 ∧
        (Char.ofNat n).toLower.isUpper = false := by decide
    obtain ⟨hlower, hupper⟩ := forall_of_ascii (p := fun c ↦ c.toLower.toNat < 0x80 ∧
      c.toLower.isUpper = false) htable hascii
    rw [List.mem_singleton.mp h]
    exact (isLowered_iff_of_ascii hlower).mpr hupper
  · next hascii =>
    split at h
    · rcases List.mem_cons.mp h with rfl | h
      · exact (isLowered_iff_of_ascii (by decide)).mpr (by decide)
      · rw [List.mem_singleton.mp h]
        exact isLowered_of_lowerCode (by decide) (by decide) (by decide +kernel)
    · next hdotted =>
      rw [List.mem_singleton.mp h]
      exact isLowered_ofNat_lowerCode (Nat.not_lt.mp hascii) (by simpa using hdotted)

/-- **Lower case.** Lower-casing makes only characters that it leaves as they are. -/
theorem isLowered_of_mem_lowerFrom {before cs : List Char} {d : Char}
    (h : d ∈ lowerFrom before cs) : IsLowered d := by
  induction cs generalizing before with
  | nil => simp [lowerFrom] at h
  | cons c rest ih =>
    rw [lowerFrom, List.mem_append] at h
    rcases h with hform | hrest
    · split at hform
      · have hsigmas : IsLowered 'ς' ∧ IsLowered 'σ' :=
          ⟨isLowered_of_lowerCode (by decide) (by decide) (by decide +kernel),
            isLowered_of_lowerCode (by decide) (by decide) (by decide +kernel)⟩
        rw [List.mem_singleton.mp hform]
        split
        · exact hsigmas.1
        · exact hsigmas.2
      · exact isLowered_of_mem_lowerChar hform
    · exact ih hrest

/-- Characters in lower case are left as they are in any context. -/
theorem lowerFrom_eq_self {cs : List Char} (h : ∀ c ∈ cs, IsLowered c) (before : List Char) :
    lowerFrom before cs = cs := by
  induction cs generalizing before with
  | nil => rfl
  | cons c rest ih =>
    obtain ⟨hc, hrest⟩ := List.forall_mem_cons.mp h
    rw [lowerFrom, if_neg (by simpa using hc.ne_sigma), hc, ih hrest]
    rfl

end LetterCase

namespace Segment

open LetterCase

/-! ### Normalised names -/

/-- There is no camel-case boundary in front of a character in lower case. -/
theorem hyphenate_eq_self {cs : List Char} (h : ∀ c ∈ cs, IsLowered c) : hyphenate cs = cs := by
  fun_induction hyphenate cs with
  | case1 a b rest hboundary =>
    have hb : IsLowered b := h b (by simp)
    rw [isBoundary, hb.isUpper_eq, Bool.and_false] at hboundary
    cases hboundary
  | case2 a b rest hboundary ih =>
    rw [ih fun c hc ↦ h c (List.mem_cons_of_mem a hc)]
  | case3 => rfl

/-- **Normalised names.** Normalising leaves the names as they are that are in lower case, and no
other. -/
theorem kebab_eq_self_iff {cs : List Char} : kebab cs = cs ↔ ∀ c ∈ cs, IsLowered c := by
  constructor
  · intro h c hc
    rw [← h] at hc
    exact isLowered_of_mem_lowerFrom hc
  · intro h
    rw [kebab, hyphenate_eq_self h]
    exact lowerFrom_eq_self h []

theorem kebab_kebab (cs : List Char) : kebab (kebab cs) = kebab cs :=
  kebab_eq_self_iff.mpr fun _ hc ↦ isLowered_of_mem_lowerFrom hc

/-- **Normalising twice.** The normalised form of any name is its own normalised form. -/
theorem normalize_normalize (name : String) : normalize (normalize name) = normalize name := by
  rw [← String.toList_inj, toList_normalize, toList_normalize, kebab_kebab]

/-- The Kelvin sign is no letter of a boundary, and the small letter that it becomes is none with a
capital letter behind it. A sigma that ends a word stays as it is. -/
example : ["x\u212AB", "ΛΌΓΟΣ", "λόγος"].map normalize = ["xkb", "λόγος", "λόγος"] := by
  decide +kernel

end Segment

end PageRoutes
