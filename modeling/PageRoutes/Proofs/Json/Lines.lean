import Mathlib.Data.List.Basic
import PageRoutes.Json.Writer
/-!
# The lines of a JSON text

The text of a JSON value breaks its line between the brackets of arrays and objects only. Strings
and numbers stand on one line: a line break in a string is written as an escape.

## Main definitions

* `Json.IsLine` : texts without a line break.

## Main results

* `Json.isLine_quote`, `Json.isLine_numberText` : strings and numbers stand on one line.
-/

namespace PageRoutes.Json

/-- An induction over JSON values in which arrays and objects come after what is in them. -/
theorem induct {P : Json → Prop} (null : P .null) (bool : ∀ b, P (.bool b))
    (number : ∀ n, P (.number n)) (string : ∀ s, P (.string s))
    (array : ∀ items, (∀ v ∈ items, P v) → P (.array items))
    (object : ∀ members : List (String × Json), (∀ m ∈ members, P m.2) → P (.object members))
    (v : Json) : P v :=
  Json.rec (motive_2 := fun items ↦ ∀ v ∈ items, P v)
    (motive_3 := fun members ↦ ∀ m ∈ members, P m.2) (motive_4 := fun m ↦ P m.2)
    null bool number string array object (fun _ h ↦ nomatch h)
    (fun _ _ hv hrest ↦ List.forall_mem_cons.mpr ⟨hv, hrest⟩) (fun _ h ↦ nomatch h)
    (fun _ _ hm hrest ↦ List.forall_mem_cons.mpr ⟨hm, hrest⟩) (fun _ _ h ↦ h) v

theorem prettyItems_eq_map (level : Nat) (items : List Json) :
    prettyItems level items = items.map (pretty level) := by
  induction items with
  | nil => rfl
  | cons v rest ih => rw [prettyItems, ih, List.map_cons]

theorem prettyMembers_eq_map (level : Nat) (members : List (String × Json)) :
    prettyMembers level members = members.map fun m ↦ quote m.1 ++ ": " ++ pretty level m.2 := by
  induction members with
  | nil => rfl
  | cons m rest ih => rw [prettyMembers, ih, List.map_cons]

/-! ### Texts on one line -/

/-- Whether a text has no line break in it. -/
def IsLine (text : String) : Prop := '\n' ∉ text.toList

instance (text : String) : Decidable (IsLine text) := inferInstanceAs (Decidable (_ ∉ _))

theorem IsLine.append {a b : String} (ha : IsLine a) (hb : IsLine b) : IsLine (a ++ b) := by
  simpa [IsLine, String.toList_append] using ⟨ha, hb⟩

theorem isLine_indentation (level : Nat) : IsLine (indentation level) := by
  simp [IsLine, indentation]

theorem hexDigit_ne (n : Nat) : hexDigit n ≠ '\n' := by
  have hall : ∀ m < 16, (Nat.toDigits 16 m).headD '0' ≠ '\n' := by decide
  exact hall (n % 16) (Nat.mod_lt n (by omega))

theorem not_mem_escapeChar (c : Char) : '\n' ∉ escapeChar c := by
  have hhigh := hexDigit_ne (c.toNat / 16)
  have hlow := hexDigit_ne c.toNat
  grind [escapeChar]

/-- **Strings.** A string literal stands on one line, whatever characters are in the string. -/
theorem isLine_quote (s : String) : IsLine (quote s) := by
  simp [IsLine, quote, not_mem_escapeChar]

theorem not_mem_toDigits (n : Nat) : '\n' ∉ Nat.toDigits 10 n := by
  intro h
  have hdigit := Nat.isDigit_of_mem_toDigits (by omega) (by omega) h
  simp at hdigit

theorem isLine_toString (n : Nat) : IsLine (toString n) := by
  rw [IsLine, Nat.toString_eq_repr, Nat.toList_repr]
  exact not_mem_toDigits n

theorem isLine_toString_int (i : Int) : IsLine (toString i) := by
  cases i with
  | ofNat n => exact isLine_toString n
  | negSucc n => exact IsLine.append (a := "-") (by decide) (isLine_toString (n + 1))

theorem isLine_decimalText (digits : Nat) (exponent : Int) :
    IsLine (decimalText digits exponent) := by
  have hdigits := not_mem_toDigits digits
  have htake (n : Nat) : '\n' ∉ (Nat.toDigits 10 digits).take n :=
    fun h ↦ hdigits (List.mem_of_mem_take h)
  have hdrop (n : Nat) : '\n' ∉ (Nat.toDigits 10 digits).drop n :=
    fun h ↦ hdigits (List.mem_of_mem_drop h)
  unfold decimalText
  extract_lets ds count point fraction
  have hfraction : '\n' ∉ fraction := by
    simp only [fraction]
    split
    · exact List.not_mem_nil
    · simpa [ds, -List.drop_one] using hdrop 1
  split
  · simp [IsLine, ds, hdigits]
  · split
    · simp [IsLine, ds, htake, hdrop]
    · split
      · simp [IsLine, ds, hdigits]
      · refine IsLine.append (IsLine.append ?_ (by decide)) (isLine_toString_int _)
        simp [IsLine, ds, htake, hfraction]

/-- **Numbers.** The text of a number stands on one line. -/
theorem isLine_numberText (n : JsonNumber) : IsLine (numberText n) := by
  cases n with
  | natural n => exact isLine_toString n
  | negative n => exact IsLine.append (a := "-") (by decide) (isLine_toString n)
  | float isNegative magnitude =>
    have hsign : IsLine (if isNegative then "-" else "") := by
      split <;> decide
    rw [numberText, floatText]
    split
    · exact hsign.append (by decide)
    · exact hsign.append (isLine_decimalText _ _)

end PageRoutes.Json
