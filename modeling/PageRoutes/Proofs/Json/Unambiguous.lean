import PageRoutes.Proofs.Json.Lines
import PageRoutes.Proofs.Json.NumberText
/-!
# The text of a JSON value determines it

A JSON text can be read in one way only, also in the middle of a longer text: what a value is shows
in its first character, a string ends at the first quote that is not escaped, and behind an element
or a member stands a comma if another one follows, and a line break if it was the last. A number
ends before one of these.

## Main definitions

* `Json.Ends` : texts that can stand behind an element or a member.
* `Json.IsCanonical` : values whose numbers are spelled as they are kept.

## Main results

* `Json.quote_append_inj` : a string in front of another text.
* `Json.bracketed_append_inj` : elements and members between brackets.
* `Json.pretty_append_inj` : a JSON value in front of another text.
-/

namespace PageRoutes.Json

/-! ### Strings -/

/-- Words of a code in front of a character that begins no word can be read in one way only, if no
word begins with another one. -/
theorem flatMap_append_inj {code : Char → List Char} {stop : Char} {s t a b : List Char}
    (hcode : ∀ c d, code c <+: code d → c = d) (hstop : ∀ c, ∃ x xs, code c = x :: xs ∧ x ≠ stop)
    (h : s.flatMap code ++ stop :: a = t.flatMap code ++ stop :: b) : s = t ∧ a = b := by
  have hend (c : Char) (rest a : List Char) : code c ++ rest ≠ stop :: a := by
    obtain ⟨x, xs, hx, hne⟩ := hstop c
    rw [hx, List.cons_append]
    exact fun heq ↦ hne (List.cons.inj heq).1
  induction s generalizing t with
  | nil =>
    cases t with
    | nil => exact ⟨rfl, (List.cons.inj h).2⟩
    | cons d t =>
      rw [List.flatMap_cons, List.append_assoc] at h
      exact absurd h.symm (hend d _ _)
  | cons c s ih =>
    cases t with
    | nil =>
      rw [List.flatMap_cons, List.append_assoc] at h
      exact absurd h (hend c _ _)
    | cons d t =>
      rw [List.flatMap_cons, List.flatMap_cons, List.append_assoc, List.append_assoc] at h
      have hsame : c = d := by
        rcases List.prefix_or_prefix_of_prefix (List.prefix_append (code c) _)
          (h ▸ List.prefix_append (code d) _) with hprefix | hprefix
        · exact hcode c d hprefix
        · exact (hcode d c hprefix).symm
      subst hsame
      obtain ⟨rfl, hrest⟩ := ih (List.append_cancel_left h)
      exact ⟨rfl, hrest⟩

/-- The characters that are escaped in a string. -/
def escaped : List Char := ['\x22', '\\'] ++ (List.range 0x20).map Char.ofNat

theorem escapeChar_of_not_mem {c : Char} (h : c ∉ escaped) : escapeChar c = [c] := by
  have hquote : c ≠ '\x22' := by
    rintro rfl
    exact h (by decide)
  have hbackslash : c ≠ '\\' := by
    rintro rfl
    exact h (by decide)
  have hcontrol : ¬c.toNat < 0x20 := by
    intro hlt
    refine h (List.mem_append_right _ (List.mem_map.mpr ⟨c.toNat, List.mem_range.mpr hlt, ?_⟩))
    exact Char.ofNat_toNat c
  have hne (x : Char) (hx : x.toNat < 0x20) : c ≠ x := by
    rintro rfl
    exact hcontrol hx
  simp [escapeChar, hquote, hbackslash, hcontrol, hne '\x08' (by decide), hne '\x0c' (by decide),
    hne '\n' (by decide), hne '\r' (by decide), hne '\t' (by decide)]

theorem escapeChar_of_mem {c : Char} (h : c ∈ escaped) : ∃ rest, escapeChar c = '\\' :: rest := by
  have hall : (escaped.all fun c ↦ (escapeChar c).head? = some '\\') := by decide
  exact List.head?_eq_some_iff.mp (of_decide_eq_true (List.all_eq_true.mp hall c h))

/-- The escape of a character does not begin with that of another one. -/
theorem eq_of_escapeChar_prefix (c d : Char) (h : escapeChar c <+: escapeChar d) : c = d := by
  have hbackslash : '\\' ∈ escaped := by decide
  have hall : (escaped.all fun c ↦ escaped.all fun d ↦ escapeChar c <+: escapeChar d → c = d) := by
    decide +kernel
  by_cases hc : c ∈ escaped
  · by_cases hd : d ∈ escaped
    · have hall := List.all_eq_true.mp (List.all_eq_true.mp hall c hc) d hd
      exact of_decide_eq_true hall h
    · obtain ⟨rest, hrest⟩ := escapeChar_of_mem hc
      rw [escapeChar_of_not_mem hd, hrest, List.cons_prefix_cons] at h
      exact absurd (h.1 ▸ hbackslash) hd
  · by_cases hd : d ∈ escaped
    · obtain ⟨rest, hrest⟩ := escapeChar_of_mem hd
      rw [escapeChar_of_not_mem hc, hrest, List.cons_prefix_cons] at h
      exact absurd (h.1 ▸ hbackslash) hc
    · rw [escapeChar_of_not_mem hc, escapeChar_of_not_mem hd, List.cons_prefix_cons] at h
      exact h.1

/-- No escape begins with a quote. -/
theorem exists_escapeChar_eq_cons (c : Char) : ∃ x xs, escapeChar c = x :: xs ∧ x ≠ '\x22' := by
  by_cases hc : c ∈ escaped
  · obtain ⟨rest, hrest⟩ := escapeChar_of_mem hc
    exact ⟨'\\', rest, hrest, by decide⟩
  · refine ⟨c, [], escapeChar_of_not_mem hc, ?_⟩
    rintro rfl
    exact hc (by decide)

/-- **Strings.** A string literal in front of another text determines the string and that text. -/
theorem quote_append_inj {s t : String} {a b : List Char}
    (h : (quote s).toList ++ a = (quote t).toList ++ b) : s = t ∧ a = b := by
  have htoList (s : String) (a : List Char) :
      (quote s).toList ++ a = '\x22' :: (s.toList.flatMap escapeChar ++ '\x22' :: a) := by
    simp [quote]
  rw [htoList, htoList, List.cons.injEq] at h
  obtain ⟨hst, hab⟩ := flatMap_append_inj eq_of_escapeChar_prefix exists_escapeChar_eq_cons h.2
  exact ⟨String.toList_injective hst, hab⟩

/-! ### Numbers -/

/-- Whether a text can stand behind an element or a member. -/
def Ends (rest : List Char) : Prop := ∀ c ∈ rest.head?, c = ',' ∨ c = '\n'

/-- Whether a character can stand in a number. -/
def IsNumberChar (c : Char) : Prop := c.isDigit ∨ c = '-' ∨ c = '.' ∨ c = 'e'

theorem isNumberChar_toString_int {i : Int} {c : Char} (h : c ∈ (toString i).toList) :
    IsNumberChar c := by
  cases i with
  | ofNat n =>
    exact .inl (Spelling.isDigit_of_mem_toDigits (Spelling.toList_toString n ▸ h))
  | negSucc n =>
    rw [Spelling.toList_toString_negSucc] at h
    rcases List.mem_cons.mp h with rfl | h
    · exact .inr (.inl rfl)
    · exact .inl (Spelling.isDigit_of_mem_toDigits h)

theorem isNumberChar_of_mem_text {s : Spelling} (hs : s.IsDecimal) {c : Char} (h : c ∈ s.text) :
    IsNumberChar c := by
  rw [Spelling.text, List.mem_append, List.mem_append] at h
  rcases h with h | h | h
  · exact .inl (hs.whole_digits c h)
  · rw [Spelling.fractionText] at h
    split at h
    · cases h
    · rcases List.mem_cons.mp h with rfl | h
      · exact .inr (.inr (.inl rfl))
      · exact .inl (hs.fraction_digits c h)
  · rw [Spelling.exponentText] at h
    split at h
    · cases h
    · rcases List.mem_cons.mp h with rfl | h
      · exact .inr (.inr (.inr rfl))
      · exact isNumberChar_toString_int h

theorem isNumberChar_of_mem_numberText {n : JsonNumber} {c : Char} (h : c ∈ (numberText n).toList) :
    IsNumberChar c := by
  rw [toList_numberText, List.mem_append] at h
  rcases h with h | h
  · split at h
    · exact .inr (.inl (List.mem_singleton.mp h))
    · cases h
  · exact isNumberChar_of_mem_text (isDecimal_spelling n) h

/-- **Numbers.** A number in front of the end of an element determines the number and what follows.
-/
theorem numberText_append_inj {m n : JsonNumber} {a b : List Char} (hm : m.IsCanonical)
    (hn : n.IsCanonical) (ha : Ends a) (hb : Ends b)
    (h : (numberText m).toList ++ a = (numberText n).toList ++ b) : m = n ∧ a = b := by
  have hends {rest : List Char} (hrest : Ends rest) : ∀ c ∈ rest.head?, ¬IsNumberChar c := by
    intro c hc
    rcases hrest c hc with rfl | rfl <;> simp [IsNumberChar]
  obtain ⟨htext, hab⟩ := append_inj_of_span (p := IsNumberChar)
    (fun _ hc ↦ isNumberChar_of_mem_numberText hc) (fun _ hc ↦ isNumberChar_of_mem_numberText hc)
    (hends ha) (hends hb) h
  exact ⟨numberText_injective hm hn (String.toList_injective htext), hab⟩

/-! ### Elements and members -/

section Items

variable {α : Type} {text : α → String} {line : String}

/-- Whether the text of one thing in front of the end of an element can be read in one way only. -/
def ReadsAs (x y : α) (text : α → String) : Prop :=
  ∀ a b, Ends a → Ends b → (text x).toList ++ a = (text y).toList ++ b → x = y ∧ a = b

theorem intercalate_append_inj {xs ys : List α} {x y : α} {a b : List Char}
    (hread : ∀ x' ∈ x :: xs, ∀ y' ∈ y :: ys, ReadsAs x' y' text)
    (h : (String.intercalate ("," ++ line) ((x :: xs).map text)).toList ++ '\n' :: a =
      (String.intercalate ("," ++ line) ((y :: ys).map text)).toList ++ '\n' :: b) :
    x :: xs = y :: ys ∧ a = b := by
  have hlast (a : List Char) : Ends ('\n' :: a) := by simp [Ends]
  have hcomma (a : List Char) : Ends (',' :: a) := by simp [Ends]
  have hcons (x x' : α) (xs : List α) (a : List Char) :
      (String.intercalate ("," ++ line) ((x :: x' :: xs).map text)).toList ++ '\n' :: a =
        (text x).toList ++ ',' :: (line.toList ++
          ((String.intercalate ("," ++ line) ((x' :: xs).map text)).toList ++ '\n' :: a)) := by
    rw [List.map_cons, List.map_cons, String.intercalate_cons_cons, ← List.map_cons]
    simp
  have hone (x : α) (a : List Char) :
      (String.intercalate ("," ++ line) ([x].map text)).toList ++ '\n' :: a =
        (text x).toList ++ '\n' :: a := by
    simp
  have hfirst := hread x List.mem_cons_self y List.mem_cons_self
  induction xs generalizing x y ys with
  | nil =>
    cases ys with
    | nil =>
      rw [hone, hone] at h
      obtain ⟨rfl, hrest⟩ := hfirst _ _ (hlast a) (hlast b) h
      exact ⟨rfl, (List.cons.inj hrest).2⟩
    | cons y' ys =>
      rw [hone, hcons] at h
      have hrest := (hfirst _ _ (hlast a) (hcomma _) h).2
      simp at hrest
  | cons x' xs ih =>
    cases ys with
    | nil =>
      rw [hone, hcons] at h
      have hrest := (hfirst _ _ (hcomma _) (hlast b) h).2
      simp at hrest
    | cons y' ys =>
      rw [hcons, hcons] at h
      obtain ⟨rfl, hrest⟩ := hfirst _ _ (hcomma _) (hcomma _) h
      have htail := List.append_cancel_left (List.cons.inj hrest).2
      have hreadTail : ∀ x'' ∈ x' :: xs, ∀ y'' ∈ y' :: ys, ReadsAs x'' y'' text :=
        fun x'' hx y'' hy ↦ hread x'' (List.mem_cons_of_mem _ hx) y'' (List.mem_cons_of_mem _ hy)
      obtain ⟨hsame, hab⟩ := ih hreadTail htail
        (hreadTail x' List.mem_cons_self y' List.mem_cons_self)
      exact ⟨by rw [hsame], hab⟩

/-- **Brackets.** Elements or members between brackets in front of another text determine the
elements or members and that text, if each of them can be read in one way only. -/
theorem bracketed_append_inj {left right : String} {level : Nat} {xs ys : List α} {a b : List Char}
    (hright : ∃ c cs, right.toList = c :: cs ∧ c ≠ '\n')
    (hread : ∀ x ∈ xs, ∀ y ∈ ys, ReadsAs x y text)
    (h : (bracketed left right level (xs.map text)).toList ++ a =
      (bracketed left right level (ys.map text)).toList ++ b) : xs = ys ∧ a = b := by
  obtain ⟨c, cs, hright, hbreak⟩ := hright
  have hnil (a : List Char) :
      (bracketed left right level (([] : List α).map text)).toList ++ a =
        left.toList ++ (c :: (cs ++ a)) := by
    simp [bracketed, hright]
  have hcons (x : α) (xs : List α) (a : List Char) :
      (bracketed left right level ((x :: xs).map text)).toList ++ a =
        left.toList ++ ('\n' :: ((indentation (level + 1)).toList ++
          ((String.intercalate ("," ++ ("\n" ++ indentation (level + 1)))
              ((x :: xs).map text)).toList ++
            '\n' :: ((indentation level).toList ++ (right.toList ++ a))))) := by
    rw [bracketed, List.map_cons, List.isEmpty_cons, ← List.map_cons]
    simp
  cases xs with
  | nil =>
    cases ys with
    | nil =>
      rw [hnil, hnil] at h
      exact ⟨rfl, List.append_cancel_left (List.cons.inj (List.append_cancel_left h)).2⟩
    | cons y ys =>
      rw [hnil, hcons] at h
      exact absurd (List.cons.inj (List.append_cancel_left h)).1 hbreak
  | cons x xs =>
    cases ys with
    | nil =>
      rw [hnil, hcons] at h
      exact absurd (List.cons.inj (List.append_cancel_left h)).1.symm hbreak
    | cons y ys =>
      rw [hcons, hcons] at h
      have hitems := List.append_cancel_left (List.cons.inj (List.append_cancel_left h)).2
      obtain ⟨hsame, hrest⟩ := intercalate_append_inj hread hitems
      exact ⟨hsame, List.append_cancel_left (List.append_cancel_left hrest)⟩

/-- A member of an object can be read in one way only, if its value can. -/
theorem readsAs_member {m m' : String × α} (hvalue : m.1 = m'.1 → ReadsAs m.2 m'.2 text) :
    ReadsAs m m' fun m ↦ quote m.1 ++ ": " ++ text m.2 := by
  intro a b ha hb h
  simp only [String.toList_append, List.append_assoc] at h
  obtain ⟨hkey, hrest⟩ := quote_append_inj h
  obtain ⟨hsame, hab⟩ := hvalue hkey a b ha hb (List.append_cancel_left hrest)
  exact ⟨Prod.ext hkey hsame, hab⟩

end Items

/-! ### Values -/

mutual

/-- Whether the numbers in a value are spelled as they are kept. -/
def IsCanonical : Json → Prop
  | .number n => n.IsCanonical
  | .array items => AllCanonical items
  | .object members => MembersCanonical members
  | _ => True

/-- Whether the numbers in elements are spelled as they are kept. -/
def AllCanonical : List Json → Prop
  | [] => True
  | v :: rest => v.IsCanonical ∧ AllCanonical rest

/-- Whether the numbers in members are spelled as they are kept. -/
def MembersCanonical : List (String × Json) → Prop
  | [] => True
  | (_, v) :: rest => v.IsCanonical ∧ MembersCanonical rest

end

theorem allCanonical_iff {items : List Json} : AllCanonical items ↔ ∀ v ∈ items, v.IsCanonical := by
  induction items with
  | nil => simp [AllCanonical]
  | cons v rest ih => rw [AllCanonical, ih, List.forall_mem_cons]

theorem membersCanonical_iff {members : List (String × Json)} :
    MembersCanonical members ↔ ∀ m ∈ members, m.2.IsCanonical := by
  induction members with
  | nil => simp [MembersCanonical]
  | cons m rest ih => rw [MembersCanonical, ih, List.forall_mem_cons]

/-- The kinds of values that can be told by the first character of their texts. -/
inductive Lead where
  | null
  | true_
  | false_
  | number
  | string
  | array
  | object
  deriving DecidableEq

/-- What a text that begins with a character stands for. -/
def leadOf (c : Char) : Lead :=
  if c = 'n' then .null
  else if c = 't' then .true_
  else if c = 'f' then .false_
  else if c = '\x22' then .string
  else if c = '[' then .array
  else if c = '\x7b' then .object
  else .number

/-- What the text of a value stands for. -/
def lead : Json → Lead
  | .null => .null
  | .bool true => .true_
  | .bool false => .false_
  | .number _ => .number
  | .string _ => .string
  | .array _ => .array
  | .object _ => .object

theorem leadOf_of_isNumberChar {c : Char} (h : IsNumberChar c) : leadOf c = .number := by
  have hne (x : Char) (hx : ¬IsNumberChar x) : c ≠ x := by
    rintro rfl
    exact hx h
  simp [leadOf, hne _, IsNumberChar]

theorem exists_numberText_eq_cons (n : JsonNumber) :
    ∃ c rest, (numberText n).toList = c :: rest ∧ leadOf c = .number := by
  have hne : (numberText n).toList ≠ [] := by
    rw [toList_numberText, Spelling.text]
    simp [(isDecimal_spelling n).whole_ne_nil]
  obtain ⟨c, rest, hcons⟩ := List.exists_cons_of_ne_nil hne
  have hmem : c ∈ (numberText n).toList := hcons ▸ List.mem_cons_self
  exact ⟨c, rest, hcons, leadOf_of_isNumberChar (isNumberChar_of_mem_numberText hmem)⟩

/-- **First characters.** The text of a value shows in its first character what the value is. -/
theorem exists_pretty_eq_cons (v : Json) (level : Nat) :
    ∃ c rest, (pretty level v).toList = c :: rest ∧ leadOf c = v.lead := by
  have hbracketed (left : Char) (right : String) (items : List String) :
      ∃ rest, (bracketed (String.singleton left) right level items).toList = left :: rest := by
    rw [bracketed]
    split <;> simp
  cases v with
  | null => exact ⟨'n', "ull".toList, by rw [pretty]; rfl, rfl⟩
  | bool b =>
    cases b with
    | true => exact ⟨'t', "rue".toList, by rw [pretty]; rfl, rfl⟩
    | false => exact ⟨'f', "alse".toList, by rw [pretty]; rfl, rfl⟩
  | number n =>
    rw [pretty]
    exact exists_numberText_eq_cons n
  | string s =>
    rw [pretty, quote]
    exact ⟨'\x22', _, String.toList_ofList, rfl⟩
  | array items =>
    obtain ⟨rest, hrest⟩ := hbracketed '[' "]" (prettyItems (level + 1) items)
    exact ⟨'[', rest, by rw [pretty]; exact hrest, rfl⟩
  | object members =>
    obtain ⟨rest, hrest⟩ := hbracketed '\x7b' "\x7d" (prettyMembers (level + 1) members)
    exact ⟨'\x7b', rest, by rw [pretty]; exact hrest, rfl⟩

/-- Values whose texts agree in front of other texts are of one kind. -/
theorem lead_eq_of_append_eq {v w : Json} {level : Nat} {a b : List Char}
    (h : (pretty level v).toList ++ a = (pretty level w).toList ++ b) : v.lead = w.lead := by
  obtain ⟨c, rest, hv, hvLead⟩ := exists_pretty_eq_cons v level
  obtain ⟨d, rest', hw, hwLead⟩ := exists_pretty_eq_cons w level
  rw [hv, hw, List.cons_append, List.cons_append, List.cons.injEq] at h
  rw [← hvLead, ← hwLead, h.1]

/-- **Values.** A JSON value in front of the end of an element determines the value and what
follows. -/
theorem pretty_append_inj (v : Json) {w : Json} (hv : v.IsCanonical) (hw : w.IsCanonical)
    (level : Nat) : ReadsAs v w (pretty level) := by
  induction v using Json.induct generalizing w level with
  | null =>
    intro a b ha hb h
    have hlead := lead_eq_of_append_eq h
    cases w with
    | null => exact ⟨rfl, List.append_cancel_left h⟩
    | bool b => cases b <;> cases hlead
    | _ => cases hlead
  | bool x =>
    intro a b ha hb h
    have hlead := lead_eq_of_append_eq h
    cases w with
    | bool y =>
      have hxy : x = y := by
        cases x <;> cases y <;> first | rfl | cases hlead
      subst hxy
      exact ⟨rfl, List.append_cancel_left h⟩
    | _ => cases x <;> cases hlead
  | number m =>
    intro a b ha hb h
    have hlead := lead_eq_of_append_eq h
    cases w with
    | number n =>
      rw [IsCanonical] at hv hw
      rw [pretty, pretty] at h
      obtain ⟨rfl, hab⟩ := numberText_append_inj hv hw ha hb h
      exact ⟨rfl, hab⟩
    | bool b => cases b <;> cases hlead
    | _ => cases hlead
  | string s =>
    intro a b ha hb h
    have hlead := lead_eq_of_append_eq h
    cases w with
    | string t =>
      rw [pretty, pretty] at h
      obtain ⟨rfl, hab⟩ := quote_append_inj h
      exact ⟨rfl, hab⟩
    | bool b => cases b <;> cases hlead
    | _ => cases hlead
  | array items ih =>
    intro a b ha hb h
    have hlead := lead_eq_of_append_eq h
    cases w with
    | array items' =>
      rw [IsCanonical, allCanonical_iff] at hv hw
      rw [pretty, pretty, prettyItems_eq_map, prettyItems_eq_map] at h
      obtain ⟨rfl, hab⟩ := bracketed_append_inj ⟨']', [], rfl, by decide⟩
        (fun v hmem w hmem' ↦ ih v hmem (hv v hmem) (hw w hmem') (level + 1)) h
      exact ⟨rfl, hab⟩
    | bool b => cases b <;> cases hlead
    | _ => cases hlead
  | object members ih =>
    intro a b ha hb h
    have hlead := lead_eq_of_append_eq h
    cases w with
    | object members' =>
      rw [IsCanonical, membersCanonical_iff] at hv hw
      rw [pretty, pretty, prettyMembers_eq_map, prettyMembers_eq_map] at h
      obtain ⟨rfl, hab⟩ := bracketed_append_inj ⟨'\x7d', [], rfl, by decide⟩
        (fun m hmem m' hmem' ↦
          readsAs_member fun _ ↦ ih m hmem (hv m hmem) (hw m' hmem') (level + 1)) h
      exact ⟨rfl, hab⟩
    | bool b => cases b <;> cases hlead
    | _ => cases hlead

end PageRoutes.Json
