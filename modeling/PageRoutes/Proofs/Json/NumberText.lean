import Mathlib.Tactic.FieldSimp
import PageRoutes.Json.Writer
import PageRoutes.Proofs.Decimal.Shortest
/-!
# The text of a number determines it

A number is written as digits, with a sign in front of them, a point and digits behind it, and an
exponent, each if it is needed. These parts can be read off the text, and they determine the number:
an integer has neither a point nor an exponent, and a floating-point number has one of them and is
the only one of the format to which its decimal rounds.

## Main definitions

* `Json.Spelling` : the parts of a number as they are written.
* `Json.spelling` : the parts of the text of a number.

## Main results

* `Json.Spelling.text_injective` : the parts can be read off the text.
* `Json.value_decimalSpelling` : the decimal that is written is the one that was meant.
* `Json.numberText_injective` : the text of a number determines it.
-/

namespace PageRoutes

/-- A number as it is kept: a floating-point number with all bits of its significand. -/
def JsonNumber.IsCanonical : JsonNumber → Prop
  | .float _ magnitude => magnitude.IsCanonical
  | _ => True

namespace Json

/-- Two texts that begin with characters of one kind, up to a character of another kind. -/
theorem append_inj_of_span {p : Char → Prop} {a b x y : List Char} (ha : ∀ c ∈ a, p c)
    (hb : ∀ c ∈ b, p c) (hx : ∀ c ∈ x.head?, ¬p c) (hy : ∀ c ∈ y.head?, ¬p c)
    (h : a ++ x = b ++ y) : a = b ∧ x = y := by
  induction a generalizing b with
  | nil =>
    cases b with
    | nil => exact ⟨rfl, h⟩
    | cons c b =>
      rw [List.nil_append] at h
      exact absurd (hb c List.mem_cons_self) (hx c (by simp [h]))
  | cons c a ih =>
    cases b with
    | nil =>
      rw [List.nil_append] at h
      exact absurd (ha c List.mem_cons_self) (hy c (by simp [← h]))
    | cons c' b =>
      rw [List.cons_append, List.cons_append, List.cons.injEq] at h
      obtain ⟨rfl, hrest⟩ := h
      obtain ⟨rfl, hxy⟩ := ih (fun c hc ↦ ha c (List.mem_cons_of_mem _ hc))
        (fun c hc ↦ hb c (List.mem_cons_of_mem _ hc)) hrest
      exact ⟨rfl, hxy⟩

/-! ### Spellings -/

/-- The parts of a number without its sign, as they are written. -/
structure Spelling where
  whole : List Char
  fraction : List Char
  exponent : Option Int

namespace Spelling

/-- The digits behind the point, with the point. -/
def fractionText (s : Spelling) : List Char :=
  if s.fraction = [] then [] else '.' :: s.fraction

/-- The exponent behind its letter. -/
def exponentText (s : Spelling) : List Char :=
  match s.exponent with
  | none => []
  | some i => 'e' :: (toString i).toList

/-- The text of a number that is spelled so. -/
def text (s : Spelling) : List Char := s.whole ++ (s.fractionText ++ s.exponentText)

/-- The number that is spelled so. -/
def value (s : Spelling) : ℚ :=
  Nat.ofDigitChars 10 (s.whole ++ s.fraction) 0 * 10 ^ (s.exponent.getD 0 - s.fraction.length)

/-- Whether a spelling has digits in front of its point, and nothing but digits around it. -/
structure IsDecimal (s : Spelling) : Prop where
  whole_ne_nil : s.whole ≠ []
  whole_digits : ∀ c ∈ s.whole, c.isDigit
  fraction_digits : ∀ c ∈ s.fraction, c.isDigit

variable {s t : Spelling}

theorem toDigits_injective {m n : Nat} (h : Nat.toDigits 10 m = Nat.toDigits 10 n) : m = n := by
  have hm := Nat.ofDigitChars_ten_toDigits (n := m)
  rwa [h, Nat.ofDigitChars_ten_toDigits, eq_comm] at hm

theorem isDigit_of_mem_toDigits {n : Nat} {c : Char} (h : c ∈ Nat.toDigits 10 n) : c.isDigit :=
  Nat.isDigit_of_mem_toDigits (by omega) (by omega) h

theorem toList_toString (n : Nat) : (toString n).toList = Nat.toDigits 10 n := by
  rw [Nat.toString_eq_repr, Nat.toList_repr]

/-- A sign in front of digits can be told from the first of them. -/
theorem cons_ne_toDigits (c : Char) (hc : ¬c.isDigit) (rest : List Char) (n : Nat) :
    c :: rest ≠ Nat.toDigits 10 n := by
  intro h
  exact hc (isDigit_of_mem_toDigits (h ▸ List.mem_cons_self))

theorem toList_toString_negSucc (n : Nat) :
    (toString (Int.negSucc n)).toList = '-' :: Nat.toDigits 10 (n + 1) := by
  have happend : toString (Int.negSucc n) = "-" ++ toString (n + 1) := rfl
  rw [happend, String.toList_append, toList_toString]
  rfl

theorem toString_int_injective {i j : Int} (h : (toString i).toList = (toString j).toList) :
    i = j := by
  have hsign : ¬Char.isDigit '-' := by decide
  have hnat (n : Nat) : (toString (Int.ofNat n)).toList = Nat.toDigits 10 n := toList_toString n
  cases i with
  | ofNat m =>
    cases j with
    | ofNat n =>
      rw [hnat, hnat] at h
      rw [toDigits_injective h]
    | negSucc n =>
      rw [hnat, toList_toString_negSucc] at h
      exact absurd h.symm (cons_ne_toDigits _ hsign _ _)
  | negSucc m =>
    cases j with
    | ofNat n =>
      rw [hnat, toList_toString_negSucc] at h
      exact absurd h (cons_ne_toDigits _ hsign _ _)
    | negSucc n =>
      rw [toList_toString_negSucc, toList_toString_negSucc, List.cons.injEq] at h
      have := toDigits_injective h.2
      rw [Nat.succ.inj this]

theorem exponentText_injective (h : s.exponentText = t.exponentText) : s.exponent = t.exponent := by
  rw [exponentText, exponentText] at h
  cases hs : s.exponent with
  | none =>
    cases ht : t.exponent with
    | none => rfl
    | some j => simp [hs, ht] at h
  | some i =>
    cases ht : t.exponent with
    | none => simp [hs, ht] at h
    | some j =>
      rw [hs, ht] at h
      rw [toString_int_injective (List.cons.inj h).2]

/-- Behind digits stands the letter of the exponent or nothing. -/
theorem head?_exponentText (s : Spelling) : ∀ c ∈ s.exponentText.head?, c = 'e' := by
  rw [exponentText]
  split <;> simp

/-- Behind the digits in front of the point stands something else. -/
theorem head?_fractionText_append (s : Spelling) :
    ∀ c ∈ (s.fractionText ++ s.exponentText).head?, ¬c.isDigit := by
  intro c hc
  rw [fractionText] at hc
  split at hc
  · rw [head?_exponentText s c hc]
    decide
  · obtain rfl : '.' = c := by simpa using hc
    decide

/-- **Spellings.** The parts of a number can be read off its text. -/
theorem text_injective (hs : s.IsDecimal) (ht : t.IsDecimal) (h : s.text = t.text) : s = t := by
  obtain ⟨hwhole, htail⟩ := append_inj_of_span hs.whole_digits ht.whole_digits
    (head?_fractionText_append s) (head?_fractionText_append t) h
  have hletter (u : Spelling) : ∀ c ∈ u.exponentText.head?, ¬c.isDigit := by
    intro c hc
    rw [head?_exponentText u c hc]
    decide
  -- The point tells whether there are digits behind it.
  have hparts : s.fraction = t.fraction ∧ s.exponentText = t.exponentText := by
    by_cases hsNone : s.fraction = []
    · by_cases htNone : t.fraction = []
      · rw [fractionText, fractionText, if_pos hsNone, if_pos htNone] at htail
        exact ⟨hsNone.trans htNone.symm, htail⟩
      · rw [fractionText, fractionText, if_pos hsNone, if_neg htNone] at htail
        have hpoint := head?_exponentText s '.' (by simpa using congrArg List.head? htail)
        simp at hpoint
    · by_cases htNone : t.fraction = []
      · rw [fractionText, fractionText, if_neg hsNone, if_pos htNone] at htail
        have hpoint := head?_exponentText t '.' (by simpa using congrArg List.head? htail.symm)
        simp at hpoint
      · rw [fractionText, fractionText, if_neg hsNone, if_neg htNone, List.cons_append,
          List.cons_append, List.cons.injEq] at htail
        exact append_inj_of_span hs.fraction_digits ht.fraction_digits (hletter s) (hletter t)
          htail.2
  obtain ⟨whole, fraction, exponent⟩ := s
  obtain ⟨whole', fraction', exponent'⟩ := t
  obtain rfl : whole = whole' := hwhole
  obtain rfl : fraction = fraction' := hparts.1
  obtain rfl : exponent = exponent' := exponentText_injective hparts.2
  rfl

end Spelling

/-! ### Decimals -/

/-- The parts of a positive decimal. -/
def decimalSpelling (digits : Nat) (exponent : Int) : Spelling :=
  let ds := Nat.toDigits 10 digits
  let count := ds.length
  let point := Int.ofNat count + exponent
  if 0 ≤ exponent && point ≤ 16 then ⟨ds ++ List.replicate exponent.toNat '0', ['0'], none⟩
  else if 0 < point && point ≤ 16 then ⟨ds.take point.toNat, ds.drop point.toNat, none⟩
  else if -5 < point && point ≤ 0 then ⟨['0'], List.replicate (-point).toNat '0' ++ ds, none⟩
  else ⟨ds.take 1, ds.drop 1, some (point - 1)⟩

/-- **Decimals.** A decimal is written as it is spelled. -/
theorem text_decimalSpelling (digits : Nat) (exponent : Int) :
    (decimalSpelling digits exponent).text = (decimalText digits exponent).toList := by
  have hne : Nat.toDigits 10 digits ≠ [] := Nat.toDigits_ne_nil
  unfold decimalSpelling decimalText
  extract_lets ds count point fraction
  have hcount : 0 < count := Nat.length_toDigits_pos
  have hpoint : point = count + exponent := rfl
  split
  · simp [Spelling.text, Spelling.fractionText, Spelling.exponentText]
  · next hwide =>
    split
    · next hinside =>
      have hfraction : ds.drop point.toNat ≠ [] := by
        simp only [Bool.and_eq_true, decide_eq_true_eq] at hwide hinside
        have : ¬0 ≤ exponent := fun h ↦ hwide ⟨h, hinside.2⟩
        rw [ne_eq, List.drop_eq_nil_iff, not_le]
        change point.toNat < count
        omega
      simp [Spelling.text, Spelling.fractionText, Spelling.exponentText, hfraction]
    · split
      · have hfraction : List.replicate (-point).toNat '0' ++ ds ≠ [] := by
          simp [ds, hne]
        rw [Spelling.text, Spelling.fractionText, Spelling.exponentText, if_neg hfraction]
        simp
      · have hfraction : (if ds.drop 1 = [] then [] else '.' :: ds.drop 1) = fraction := by
          have hone : ds.drop 1 = [] ↔ count = 1 := by
            rw [List.drop_eq_nil_iff]
            change count ≤ 1 ↔ count = 1
            omega
          simp only [fraction, hone, beq_iff_eq]
        rw [Spelling.text, Spelling.fractionText, Spelling.exponentText, hfraction]
        simp

theorem isDecimal_decimalSpelling (digits : Nat) (exponent : Int) :
    (decimalSpelling digits exponent).IsDecimal := by
  have hne : Nat.toDigits 10 digits ≠ [] := Nat.toDigits_ne_nil
  have hdigits (c : Char) (h : c ∈ Nat.toDigits 10 digits) : c.isDigit :=
    Spelling.isDigit_of_mem_toDigits h
  have hzero : '0'.isDigit := by decide
  have hzeros (n : Nat) (c : Char) (h : c ∈ List.replicate n '0') : c.isDigit := by
    rw [List.eq_of_mem_replicate h]
    exact hzero
  unfold decimalSpelling
  extract_lets ds count point
  split
  · refine ⟨by simp [ds, hne], fun c hc ↦ ?_, by simp⟩
    rcases List.mem_append.mp hc with hc | hc
    · exact hdigits c hc
    · exact hzeros _ c hc
  · split
    · next hinside =>
      refine ⟨?_, fun c hc ↦ hdigits c (List.mem_of_mem_take hc),
        fun c hc ↦ hdigits c (List.mem_of_mem_drop hc)⟩
      rw [ne_eq, List.take_eq_nil_iff]
      simp only [Bool.and_eq_true, decide_eq_true_eq] at hinside
      rintro (hpoint | hnil)
      · omega
      · exact hne hnil
    · split
      · refine ⟨by simp, by simp, fun c hc ↦ ?_⟩
        rcases List.mem_append.mp hc with hc | hc
        · exact hzeros _ c hc
        · exact hdigits c hc
      · refine ⟨?_, fun c hc ↦ hdigits c (List.mem_of_mem_take hc),
          fun c hc ↦ hdigits c (List.mem_of_mem_drop hc)⟩
        rw [ne_eq, List.take_eq_nil_iff]
        rintro (hone | hnil)
        · cases hone
        · exact hne hnil

/-- The number of a spelling whose digits are those of a natural number, moved by some places. -/
theorem Spelling.value_of_digits {s : Spelling} {digits : Nat} {exponent : Int} (places : Nat)
    (hdigits : Nat.ofDigitChars 10 (s.whole ++ s.fraction) 0 = digits * 10 ^ places)
    (hexponent : s.exponent.getD 0 - s.fraction.length = exponent - places) :
    s.value = digits * 10 ^ exponent := by
  rw [Spelling.value, hdigits, hexponent, zpow_sub₀ (by norm_num), zpow_natCast]
  push_cast
  field_simp

/-- **Decimals.** The number that is spelled is the one that was meant. -/
theorem value_decimalSpelling (digits : Nat) (exponent : Int) :
    (decimalSpelling digits exponent).value = digits * 10 ^ exponent := by
  have hvalue : Nat.ofDigitChars 10 (Nat.toDigits 10 digits) 0 = digits :=
    Nat.ofDigitChars_ten_toDigits
  unfold decimalSpelling
  extract_lets ds count point
  have hcount : 0 < count := Nat.length_toDigits_pos
  have hpoint : point = count + exponent := rfl
  split
  · next hwide =>
    simp only [Bool.and_eq_true, decide_eq_true_eq] at hwide
    refine Spelling.value_of_digits (exponent.toNat + 1) ?_ ?_
    · rw [Nat.ofDigitChars_append, Nat.ofDigitChars_append, hvalue, Nat.ofDigitChars_replicate_zero]
      simp [Nat.ofDigitChars_cons]
      ring
    · simp
      omega
  · next hwide =>
    split
    · next hinside =>
      simp only [Bool.and_eq_true, decide_eq_true_eq] at hwide hinside
      have hnegative : ¬0 ≤ exponent := fun h ↦ hwide ⟨h, hinside.2⟩
      refine Spelling.value_of_digits 0 ?_ ?_
      · rw [List.take_append_drop, hvalue, pow_zero, mul_one]
      · have hlength : (ds.drop point.toNat).length = count - point.toNat := List.length_drop
        simp only [hlength, Option.getD_none]
        omega
    · split
      · next hsmall =>
        refine Spelling.value_of_digits 0 ?_ ?_
        · rw [← List.append_assoc, Nat.ofDigitChars_append, Nat.ofDigitChars_append,
            Nat.ofDigitChars_replicate_zero, Nat.ofDigitChars_cons, Nat.ofDigitChars_nil,
            Nat.sub_self, Nat.mul_zero, pow_zero, mul_one]
          exact hvalue
        · have hlength : (List.replicate (-point).toNat '0' ++ ds).length =
              (-point).toNat + count := by
            rw [List.length_append, List.length_replicate]
          simp only [Bool.and_eq_true, decide_eq_true_eq] at hsmall
          simp only [hlength, Option.getD_none]
          omega
      · refine Spelling.value_of_digits 0 ?_ ?_
        · rw [List.take_append_drop, hvalue, pow_zero, mul_one]
        · have hlength : (ds.drop 1).length = count - 1 := List.length_drop
          simp only [hlength, Option.getD_some]
          omega

/-- A decimal has a point or an exponent. -/
theorem isMarked_decimalSpelling (digits : Nat) (exponent : Int) :
    (decimalSpelling digits exponent).fraction ≠ [] ∨
      (decimalSpelling digits exponent).exponent ≠ none := by
  have hne : Nat.toDigits 10 digits ≠ [] := Nat.toDigits_ne_nil
  unfold decimalSpelling
  extract_lets ds count point
  have hpoint : point = count + exponent := rfl
  split
  · exact .inl (List.cons_ne_nil _ _)
  · next hwide =>
    split
    · next hinside =>
      simp only [Bool.and_eq_true, decide_eq_true_eq] at hwide hinside
      have hnegative : ¬0 ≤ exponent := fun h ↦ hwide ⟨h, hinside.2⟩
      left
      rw [ne_eq, List.drop_eq_nil_iff, not_le]
      change point.toNat < count
      omega
    · split
      · exact .inl (by simp [ds, hne])
      · exact .inr (Option.some_ne_none _)

/-! ### Numbers -/

/-- The spelling of an integer without its sign. -/
def integerSpelling (n : Nat) : Spelling := ⟨Nat.toDigits 10 n, [], none⟩

/-- The spelling of a floating-point number without its sign. -/
def floatSpelling (x : Binary64) : Spelling :=
  if x.significand = 0 then ⟨['0'], ['0'], none⟩
  else decimalSpelling (Shortest.decimal x).1 (Shortest.decimal x).2

/-- Whether a number is written with a sign, and its spelling behind the sign. -/
def spelling : JsonNumber → Bool × Spelling
  | .natural n => (false, integerSpelling n)
  | .negative n => (true, integerSpelling n)
  | .float isNegative magnitude => (isNegative, floatSpelling magnitude)

theorem text_integerSpelling (n : Nat) : (integerSpelling n).text = (toString n).toList := by
  rw [Spelling.toList_toString]
  simp [integerSpelling, Spelling.text, Spelling.fractionText, Spelling.exponentText]

theorem isDecimal_integerSpelling (n : Nat) : (integerSpelling n).IsDecimal :=
  ⟨Nat.toDigits_ne_nil, fun _ hc ↦ Spelling.isDigit_of_mem_toDigits hc, fun _ hc ↦ nomatch hc⟩

theorem isDecimal_floatSpelling (x : Binary64) : (floatSpelling x).IsDecimal := by
  rw [floatSpelling]
  split
  · exact ⟨by simp, by simp, by simp⟩
  · exact isDecimal_decimalSpelling _ _

theorem isDecimal_spelling (n : JsonNumber) : (spelling n).2.IsDecimal := by
  cases n with
  | natural n => exact isDecimal_integerSpelling n
  | negative n => exact isDecimal_integerSpelling n
  | float isNegative magnitude => exact isDecimal_floatSpelling magnitude

/-- The text of a number is that of its spelling behind its sign. -/
theorem toList_numberText (n : JsonNumber) :
    (numberText n).toList = (if (spelling n).1 then ['-'] else []) ++ (spelling n).2.text := by
  cases n with
  | natural n => exact (text_integerSpelling n).symm
  | negative n =>
    rw [numberText, String.toList_append, ← text_integerSpelling]
    rfl
  | float isNegative magnitude =>
    rw [numberText, floatText, spelling, floatSpelling]
    by_cases hzero : magnitude.significand = 0
    · cases isNegative <;> simp [hzero, Spelling.text, Spelling.fractionText, Spelling.exponentText]
    · cases isNegative <;> simp [hzero, text_decimalSpelling]

/-- Behind the sign stands a digit. -/
theorem head?_text {s : Spelling} (hs : s.IsDecimal) : s.text.head? ≠ some '-' := by
  obtain ⟨whole, fraction, exponent⟩ := s
  cases whole with
  | nil => exact absurd rfl hs.whole_ne_nil
  | cons c whole =>
    rintro h
    obtain rfl : c = '-' := by simpa [Spelling.text] using h
    exact absurd (hs.whole_digits '-' List.mem_cons_self) (by decide)

/-- The sign and the spelling of a number can be read off its text. -/
theorem spelling_injective {m n : JsonNumber} (h : numberText m = numberText n) :
    spelling m = spelling n := by
  have htext := congrArg String.toList h
  have hm := isDecimal_spelling m
  have hn := isDecimal_spelling n
  rw [toList_numberText, toList_numberText] at htext
  cases hmSign : (spelling m).1 with
  | true =>
    cases hnSign : (spelling n).1 with
    | true =>
      simp only [hmSign, hnSign, if_true, List.cons_append, List.nil_append, List.cons.injEq,
        true_and] at htext
      exact Prod.ext (hmSign.trans hnSign.symm) (Spelling.text_injective hm hn htext)
    | false =>
      simp only [hmSign, hnSign, if_true, Bool.false_eq_true, if_false, List.nil_append] at htext
      exact absurd (by rw [← htext]; rfl) (head?_text hn)
  | false =>
    cases hnSign : (spelling n).1 with
    | true =>
      simp only [hmSign, hnSign, if_true, Bool.false_eq_true, if_false, List.nil_append] at htext
      exact absurd (by rw [htext]; rfl) (head?_text hm)
    | false =>
      simp only [hmSign, hnSign, Bool.false_eq_true, if_false, List.nil_append] at htext
      exact Prod.ext (hmSign.trans hnSign.symm) (Spelling.text_injective hm hn htext)

/-- The number that is spelled: zero, or a positive decimal that rounds to it. -/
theorem value_floatSpelling {x : Binary64} (hx : x.IsCanonical) :
    (x.significand = 0 ∧ (floatSpelling x).value = 0) ∨
      (0 < (floatSpelling x).value ∧ x.Rounds (floatSpelling x).value) := by
  by_cases hzero : x.significand = 0
  · refine .inl ⟨hzero, ?_⟩
    rw [floatSpelling, if_pos hzero, Spelling.value]
    simp [Nat.ofDigitChars_cons]
  · obtain ⟨hdigits, hrounds⟩ := Shortest.rounds_decimal hx (Nat.pos_of_ne_zero hzero)
    rw [floatSpelling, if_neg hzero, value_decimalSpelling]
    exact .inr ⟨by positivity, hrounds⟩

/-- **Floating-point numbers.** The spelling of a number of the format determines it. -/
theorem floatSpelling_injective {x y : Binary64} (hx : x.IsCanonical) (hy : y.IsCanonical)
    (h : floatSpelling x = floatSpelling y) : x = y := by
  rcases value_floatSpelling hx with ⟨hxZero, hxValue⟩ | ⟨hxPos, hxRounds⟩
  · rcases value_floatSpelling hy with ⟨hyZero, -⟩ | ⟨hyPos, -⟩
    · have hxLeast := hx.le_significand.resolve_right (by omega)
      have hyLeast := hy.le_significand.resolve_right (by omega)
      obtain ⟨s, e⟩ := x
      obtain ⟨s', e'⟩ := y
      obtain rfl : s = s' := hxZero.trans hyZero.symm
      obtain rfl : e = e' := hxLeast.trans hyLeast.symm
      rfl
    · rw [← h, hxValue] at hyPos
      exact absurd hyPos (lt_irrefl _)
  · rcases value_floatSpelling hy with ⟨-, hyValue⟩ | ⟨-, hyRounds⟩
    · rw [h, hyValue] at hxPos
      exact absurd hxPos (lt_irrefl _)
    · rw [← h] at hyRounds
      exact Binary64.eq_of_rounds hx hy hxRounds hyRounds

/-- Integers are spelled otherwise than floating-point numbers. -/
theorem integerSpelling_ne_floatSpelling (n : Nat) (x : Binary64) :
    integerSpelling n ≠ floatSpelling x := by
  intro h
  have hmarked : (floatSpelling x).fraction ≠ [] ∨ (floatSpelling x).exponent ≠ none := by
    rw [floatSpelling]
    split
    · exact .inl (List.cons_ne_nil _ _)
    · exact isMarked_decimalSpelling _ _
  rw [← h] at hmarked
  simp [integerSpelling] at hmarked

theorem integerSpelling_injective {m n : Nat} (h : integerSpelling m = integerSpelling n) :
    m = n :=
  Spelling.toDigits_injective (congrArg Spelling.whole h)

/-- **Numbers.** The text of a number determines it. -/
theorem numberText_injective {m n : JsonNumber} (hm : m.IsCanonical) (hn : n.IsCanonical)
    (h : numberText m = numberText n) : m = n := by
  have hspelling := spelling_injective h
  cases m with
  | natural m =>
    cases n with
    | natural n => rw [integerSpelling_injective (Prod.mk.inj hspelling).2]
    | negative n => cases (Prod.mk.inj hspelling).1
    | float _ y => exact absurd (Prod.mk.inj hspelling).2 (integerSpelling_ne_floatSpelling m y)
  | negative m =>
    cases n with
    | natural n => cases (Prod.mk.inj hspelling).1
    | negative n => rw [integerSpelling_injective (Prod.mk.inj hspelling).2]
    | float _ y => exact absurd (Prod.mk.inj hspelling).2 (integerSpelling_ne_floatSpelling m y)
  | float isNegative x =>
    cases n with
    | natural n =>
      exact absurd (Prod.mk.inj hspelling).2.symm (integerSpelling_ne_floatSpelling n x)
    | negative n =>
      exact absurd (Prod.mk.inj hspelling).2.symm (integerSpelling_ne_floatSpelling n x)
    | float isNegative' y =>
      obtain ⟨rfl, hsame⟩ := Prod.mk.inj hspelling
      rw [floatSpelling_injective hm hn hsame]

end Json

end PageRoutes
