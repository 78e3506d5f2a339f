import Mathlib.Data.List.Basic
import PageRoutes.Route
import PageRoutes.Syntax.Lexer
/-!
# What an import expression imports

The import of a page has the path of the page as a string literal. A literal stands for a sequence
of 16-bit code units. By the rules for it every character between the quotes stands for itself, but
for the quote, the backslash and the two line breaks LF and CR; a backslash begins an escape.

Backslashes and quotes of a path are escaped and all else is written as it is. The literal is thus
well-formed, and stands for the path, unless there is a line break in the path. A path with a line
break gives a text that is no literal at all.

## Main definitions

* `StringLiteral` : string literals of a module, with the code units that they stand for.
* `Route.importEscape` : the escape of one character of a path.

## Main results

* `Route.body_flatMap_importEscape_iff` : what escaped text stands for between quotes.
* `Route.stringLiteral_importExpr_iff` : what the literal of an import expression stands for.
-/

namespace PageRoutes

/-! ### String literals -/

/-- The code units of the character with a code. Codes above 16 bits have two of them. -/
def codeUnits (code : Nat) : List Nat :=
  if code < 0x10000 then [code]
  else [0xD800 + (code - 0x10000) / 0x400, 0xDC00 + (code - 0x10000) % 0x400]

/-- A text as a sequence of code units. -/
def utf16 (text : List Char) : List Nat := text.flatMap fun c ↦ codeUnits c.toNat

namespace StringLiteral

open Syntax

/-- The line separator and the paragraph separator, which a literal may contain. -/
def separators : List Char := ['\u2028', '\u2029']

/-- The escapes of control characters by a letter, with the codes of the characters. -/
def controls : List (Char × Nat) :=
  [('b', 0x08), ('t', 0x09), ('n', 0x0A), ('v', 0x0B), ('f', 0x0C), ('r', 0x0D)]

/-- Whether a character behind a backslash stands for itself. -/
def IsPlainEscape (c : Char) : Prop :=
  c ∉ controls.map Prod.fst ++ ['x', 'u', '\n', '\r'] ++ separators ∧ c.isDigit = false

instance (c : Char) : Decidable (IsPlainEscape c) := inferInstanceAs (Decidable (_ ∧ _))

/-- Escapes: the characters behind the backslash, in front of the rest of a text, and the code units
that they stand for. Modules have no octal escapes. -/
inductive Escape (rest : List Char) : List Char → List Nat → Prop
  /-- A line that goes on stands for nothing. -/
  | continuation {c : Char} : c ∈ '\n' :: separators → Escape rest [c] []
  | carriageReturn : rest.head? ≠ some '\n' → Escape rest ['\r'] []
  | lineBreak : Escape rest ['\r', '\n'] []
  | control {c : Char} {unit : Nat} : (c, unit) ∈ controls → Escape rest [c] [unit]
  | plain {c : Char} : IsPlainEscape c → Escape rest [c] (codeUnits c.toNat)
  | null : (∀ c ∈ rest.head?, c.isDigit = false) → Escape rest ['0'] [0]
  | hex {digits : List Char} : digits.length = 2 → (∀ d ∈ digits, Lexer.isHexDigit d) →
      Escape rest ('x' :: digits) [naturalOf 16 digits]
  | unicode {digits : List Char} : digits.length = 4 → (∀ d ∈ digits, Lexer.isHexDigit d) →
      Escape rest ('u' :: digits) [naturalOf 16 digits]
  | code {digits : List Char} : digits ≠ [] → (∀ d ∈ digits, Lexer.isHexDigit d) →
      naturalOf 16 digits ≤ 0x10FFFF →
      Escape rest ('u' :: '{' :: digits ++ ['}']) (codeUnits (naturalOf 16 digits))

/-- Texts between two quotes, with the code units that they stand for. -/
inductive Body (quote : Char) : List Char → List Nat → Prop
  | nil : Body quote [] []
  | char {c : Char} {rest : List Char} {value : List Nat} : c ∉ [quote, '\\', '\n', '\r'] →
      Body quote rest value → Body quote (c :: rest) (codeUnits c.toNat ++ value)
  | escape {chars rest : List Char} {units value : List Nat} : Escape rest chars units →
      Body quote rest value → Body quote ('\\' :: (chars ++ rest)) (units ++ value)

end StringLiteral

/-- String literals between single quotes, with the code units that they stand for. -/
def StringLiteral (text : List Char) (value : List Nat) : Prop :=
  ∃ body, text = '\x27' :: body ++ ['\x27'] ∧ StringLiteral.Body '\x27' body value

namespace StringLiteral

variable {quote c : Char} {rest chars : List Char} {value units : List Nat}

/-- A character that is neither quote nor backslash nor line break stands for itself. -/
theorem body_cons_iff (hc : c ≠ '\\') :
    Body quote (c :: rest) value ↔
      c ∉ [quote, '\n', '\r'] ∧
        ∃ tail, Body quote rest tail ∧ value = codeUnits c.toNat ++ tail := by
  constructor
  · intro h
    cases h with
    | char hplain hrest =>
      exact ⟨fun hmem ↦ hplain (by simp_all), _, hrest, rfl⟩
    | escape => exact absurd rfl hc
  · rintro ⟨hplain, tail, hrest, rfl⟩
    exact .char (by simp_all) hrest

/-- Only one kind of escape begins with a character that stands for itself. -/
theorem escape_cons {more : List Char} (hc : IsPlainEscape c) (h : Escape rest (c :: more) units) :
    more = [] ∧ units = codeUnits c.toNat := by
  obtain ⟨hc, hdigit⟩ := hc
  cases h with
  | plain => exact ⟨rfl, rfl⟩
  | null => exact absurd hdigit (by decide)
  | continuation hmem | control hmem => simp_all [controls, separators]
  | carriageReturn | lineBreak | hex | unicode | code => simp [controls, separators] at hc

theorem escape_ne_nil : ¬Escape rest [] units := by
  rintro ⟨⟩

/-- A character that stands for itself behind a backslash is one code. -/
theorem body_escape_iff (hc : IsPlainEscape c) :
    Body quote ('\\' :: c :: rest) value ↔
      ∃ tail, Body quote rest tail ∧ value = codeUnits c.toNat ++ tail := by
  constructor
  · intro h
    generalize htext : '\\' :: c :: rest = text at h
    cases h with
    | nil => cases htext
    | char hplain =>
      obtain ⟨rfl, -⟩ := List.cons.inj htext
      simp at hplain
    | @escape chars rest' units tail hescape hrest =>
      cases chars with
      | nil => exact absurd hescape escape_ne_nil
      | cons d more =>
        obtain ⟨rfl, -⟩ := List.cons.inj (List.cons.inj htext).2
        obtain ⟨rfl, rfl⟩ := escape_cons hc hescape
        obtain rfl : rest = rest' := (List.cons.inj (List.cons.inj htext).2).2
        exact ⟨tail, hrest, rfl⟩
  · rintro ⟨tail, hrest, rfl⟩
    have hescape : Escape rest [c] (codeUnits c.toNat) := .plain hc
    exact .escape hescape hrest

end StringLiteral

/-! ### The import of a page -/

namespace Route

open StringLiteral

/-- The escape of a character between single quotes. -/
def importEscape (c : Char) : List Char :=
  if c == '\\' then ['\\', '\\'] else if c == '\x27' then ['\\', '\x27'] else [c]

/-- The literal in the import of a page. -/
def importLiteral (page : DiskPath) : List Char :=
  '\x27' :: page.text.toList.flatMap importEscape ++ ['\x27']

theorem toList_importExpr (page : DiskPath) :
    (importExpr page).toList = "() => import(".toList ++ importLiteral page ++ [')'] := by
  have hescape : importExpr page =
      "() => import(\x27" ++ String.ofList (page.text.toList.flatMap importEscape) ++ "\x27)" := rfl
  simp [hescape, importLiteral]

/-- Escaping a text is writing every backslash twice, and then a backslash in front of every
quote. The backslashes in front of quotes are thus not written twice. -/
theorem flatMap_importEscape (text : List Char) :
    text.flatMap importEscape =
      (text.flatMap fun c ↦ if c = '\\' then ['\\', '\\'] else [c]).flatMap fun c ↦
        if c = '\x27' then ['\\', '\x27'] else [c] := by
  rw [List.flatMap_assoc]
  refine List.flatMap_congr fun c _ ↦ ?_
  by_cases hc : c = '\\' <;> simp [importEscape, hc]

/-- **Escaped text.** Between single quotes escaped text stands for the text itself, unless there is
a line break in it. With a line break it stands for nothing. -/
theorem body_flatMap_importEscape_iff {text : List Char} {value : List Nat} :
    Body '\x27' (text.flatMap importEscape) value ↔
      ('\n' ∉ text ∧ '\r' ∉ text) ∧ value = utf16 text := by
  induction text generalizing value with
  | nil =>
    constructor
    · rintro ⟨⟩
      simp [utf16]
    · rintro ⟨-, rfl⟩
      exact .nil
  | cons c rest ih =>
    have hutf16 : utf16 (c :: rest) = codeUnits c.toNat ++ utf16 rest := rfl
    have hescaped (hc : IsPlainEscape c) :
        Body '\x27' ('\\' :: c :: rest.flatMap importEscape) value ↔
          ('\n' ∉ c :: rest ∧ '\r' ∉ c :: rest) ∧ value = utf16 (c :: rest) := by
      have hbreak (d : Char) (hd : ¬IsPlainEscape d) : d ∉ c :: rest ↔ d ∉ rest := by
        rw [List.mem_cons, not_or, and_iff_right]
        exact fun heq ↦ hd (heq ▸ hc)
      rw [body_escape_iff hc, hbreak '\n' (by decide), hbreak '\r' (by decide), hutf16]
      simp only [ih]
      exact ⟨fun ⟨_, ⟨hrest, htail⟩, hvalue⟩ ↦ ⟨hrest, htail ▸ hvalue⟩,
        fun ⟨hrest, hvalue⟩ ↦ ⟨_, ⟨hrest, rfl⟩, hvalue⟩⟩
    rw [List.flatMap_cons, importEscape]
    split
    · next hc =>
      obtain rfl := beq_iff_eq.mp hc
      exact hescaped (by decide)
    · next hbackslash =>
      split
      · next hc =>
        obtain rfl := beq_iff_eq.mp hc
        exact hescaped (by decide)
      · next hquote =>
        rw [beq_iff_eq] at hbackslash hquote
        rw [List.singleton_append, body_cons_iff hbackslash, hutf16]
        simp only [ih, List.mem_cons, not_or, List.not_mem_nil, not_false_eq_true, and_true,
          eq_comm (a := c)]
        constructor
        · rintro ⟨⟨-, hlf, hcr⟩, _, ⟨⟨hlf', hcr'⟩, rfl⟩, rfl⟩
          exact ⟨⟨⟨hlf, hlf'⟩, hcr, hcr'⟩, rfl⟩
        · rintro ⟨⟨⟨hlf, hlf'⟩, hcr, hcr'⟩, rfl⟩
          exact ⟨⟨Ne.symm hquote, hlf, hcr⟩, _, ⟨⟨hlf', hcr'⟩, rfl⟩, rfl⟩

/-- What the literal in the import of a page stands for. -/
theorem stringLiteral_importLiteral_iff {page : DiskPath} {value : List Nat} :
    StringLiteral (importLiteral page) value ↔
      ('\n' ∉ page.text.toList ∧ '\r' ∉ page.text.toList) ∧ value = utf16 page.text.toList := by
  rw [← body_flatMap_importEscape_iff]
  constructor
  · rintro ⟨body, htext, hbody⟩
    rw [importLiteral, List.append_cancel_right_eq, List.cons.injEq, and_iff_right rfl] at htext
    rwa [htext]
  · exact fun hbody ↦ ⟨_, rfl, hbody⟩

/-- **The literal of an import.** The import of a page is a function that imports a string literal.
The literal stands for the path of the page and for nothing else if there is no line break in the
path, and it is not well-formed if there is one. -/
theorem stringLiteral_importExpr_iff (page : DiskPath) :
    ∃ literal, (importExpr page).toList = "() => import(".toList ++ literal ++ [')'] ∧
      ∀ value, StringLiteral literal value ↔
        ('\n' ∉ page.text.toList ∧ '\r' ∉ page.text.toList) ∧ value = utf16 page.text.toList :=
  ⟨importLiteral page, toList_importExpr page, fun _ ↦ stringLiteral_importLiteral_iff⟩

/-- The import of a page with a line break in its path has no literal in it. -/
theorem exists_import_without_literal :
    ¬∃ literal value, (importExpr ⟨"/w/src/pages/a\nb.vue"⟩).toList =
      "() => import(".toList ++ literal ++ [')'] ∧ StringLiteral literal value := by
  rintro ⟨literal, value, htext, hliteral⟩
  rw [toList_importExpr, List.append_cancel_right_eq, List.append_cancel_left_eq] at htext
  rw [← htext, stringLiteral_importLiteral_iff] at hliteral
  exact hliteral.1.1 (by decide)

end Route

end PageRoutes
