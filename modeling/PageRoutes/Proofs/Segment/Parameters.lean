import PageRoutes.Proofs.Segment.Normalize
import Mathlib.Data.List.TakeWhile
/-!
# Parameters as a router reads them

In the path of a name with bracket groups a colon stands in front of the name of every group.
Nothing stands behind it: the router takes the longest run of letters, digits and underscores behind
a colon for the name of the parameter. This run ends too early where normalising has put a hyphen
into the group, and it ends too late where the text behind the group begins with a letter or a
digit. In both cases there is a parameter for the group, but with another name. All other groups are
read as they were meant, and so is the text around them.

No other spelling of the path could do better. What is read tells the path, so that a path which is
read as a name was meant is the path of this name.

## Main definitions

* `Segment.reading` : a path as the router reads it.
* `Segment.Group`, `Segment.Grouped` : bracket groups, and names with groups.
* `Segment.Group.Survives` : groups whose parameters are read as they were meant.

## Main results

* `Segment.toList_routePath_normalize` : the path of a name with groups.
* `Segment.reading_writeMarks` : how its groups are read.
* `Segment.eq_of_reading_eq` : no other path is read as a name was meant.
* `Segment.reading_routePath_iff` : when it is read as it was meant.
-/

namespace PageRoutes.Segment

/-! ### How paths are read -/

/-- Whether a character can be a part of the name of a parameter. -/
def isParamChar (c : Char) : Bool := c.isAlphanum || c == '_'

/-- A path as the router reads it. A colon begins a parameter, and its name is the longest run of
letters, digits and underscores behind the colon. All else stands for itself. -/
def reading : List Char → List Mark
  | [] => []
  | c :: rest =>
    if c = ':' then .param (rest.takeWhile isParamChar) :: reading (rest.dropWhile isParamChar)
    else .literal c :: reading rest
termination_by path => path.length
decreasing_by
  · exact Nat.lt_succ_of_le (List.dropWhile_sublist _).length_le
  · exact Nat.lt_succ_self _

/-- The characters that a mark is read from. -/
def Mark.chars : Mark → List Char
  | .literal c => [c]
  | .param name => ':' :: name

/-- A path is told by how it is read. -/
theorem flatMap_chars_reading (path : List Char) : (reading path).flatMap Mark.chars = path := by
  fun_induction reading path with
  | case1 => rfl
  | case2 rest ih =>
    rw [List.flatMap_cons, ih, Mark.chars, List.cons_append, List.takeWhile_append_dropWhile]
  | case3 c rest hcolon ih => rw [List.flatMap_cons, ih, Mark.chars, List.singleton_append]

theorem reading_append {text : List Char} (h : ':' ∉ text) (rest : List Char) :
    reading (text ++ rest) = text.map .literal ++ reading rest := by
  induction text with
  | nil => rfl
  | cons c text ih =>
    rw [List.mem_cons, not_or] at h
    rw [List.cons_append, reading, if_neg (Ne.symm h.1), ih h.2, List.map_cons, List.cons_append]

/-- A run ends in front of a character that cannot be in it. -/
theorem run_append {rest : List Char} (hrest : ∀ c ∈ rest.head?, isParamChar c = false)
    (text : List Char) :
    (text ++ rest).takeWhile isParamChar = text.takeWhile isParamChar ∧
      (text ++ rest).dropWhile isParamChar = text.dropWhile isParamChar ++ rest := by
  induction text with
  | nil =>
    cases rest with
    | nil => exact ⟨rfl, rfl⟩
    | cons c rest => simp [hrest c rfl]
  | cons c text ih =>
    cases hc : isParamChar c with
    | true => simp [hc, ih]
    | false => simp [hc]

/-- What follows a colon is a run, and text behind it, up to a character that cannot be in a run. -/
theorem reading_colon {text : List Char} (h : ':' ∉ text) {rest : List Char}
    (hrest : ∀ c ∈ rest.head?, isParamChar c = false) :
    reading (':' :: (text ++ rest)) =
      .param (text.takeWhile isParamChar) ::
        ((text.dropWhile isParamChar).map .literal ++ reading rest) := by
  obtain ⟨htake, hdrop⟩ := run_append hrest text
  have hbehind : ':' ∉ text.dropWhile isParamChar :=
    fun hmem ↦ h ((List.dropWhile_sublist _).mem hmem)
  rw [reading, if_pos rfl, htake, hdrop, reading_append hbehind]

/-! ### Names with groups -/

/-- Whether a text has no brackets and no colon in it. -/
def IsLiteralText (text : List Char) : Prop := '[' ∉ text ∧ ']' ∉ text ∧ ':' ∉ text

/-- A bracket group, with the text behind it up to the next group. -/
structure Group where
  name : List Char
  behind : List Char
  name_ne_nil : name ≠ []
  isParamChar_of_mem : ∀ c ∈ name, isParamChar c
  isLiteralText : IsLiteralText behind

/-- The characters of a group and of the text behind it. -/
def Group.chars (g : Group) : List Char := '[' :: (g.name ++ ']' :: g.behind)

/-- A name with groups. -/
structure Grouped where
  front : List Char
  groups : List Group
  isLiteralText : IsLiteralText front
  groups_ne_nil : groups ≠ []

/-- The name as it is spelled. -/
def Grouped.name (n : Grouped) : String := String.ofList (n.front ++ n.groups.flatMap Group.chars)

/-! ### The path of a name with groups -/

/-- The normalised form of a group and of the text behind it, apart from each other. -/
def Group.parts (g : Group) : List Char × List Char := (kebab g.name, kebab g.behind)

/-- What is read behind the colon of a group: a run, and text behind it. -/
def Group.run (g : Group) : List Char × List Char :=
  ((kebab g.name ++ kebab g.behind).takeWhile isParamChar,
    (kebab g.name ++ kebab g.behind).dropWhile isParamChar)

/-- Groups as parameters with text behind them. A slash separates parameters that would be next to
each other. -/
def groupMarks (cut : Group → List Char × List Char) (isAdjacent : Bool) : List Group → List Mark
  | [] => []
  | g :: rest =>
    (if isAdjacent then [.literal '/'] else []) ++ .param (cut g).1 ::
      ((cut g).2.map .literal ++ groupMarks cut g.behind.isEmpty rest)

/-- A name with groups as a path. -/
def Grouped.marks (cut : Group → List Char × List Char) (n : Grouped) : List Mark :=
  .literal '/' :: ((kebab n.front).map .literal ++ groupMarks cut false n.groups)

theorem isBreak_bracket : LetterCase.IsBreak '[' ∧ LetterCase.IsBreak ']' :=
  ⟨⟨by decide, by decide, by decide⟩, by decide, by decide, by decide⟩

/-- The groups of a name are normalised apart from each other and from the text around them. -/
theorem kebab_flatMap_chars (front : List Char) (groups : List Group) :
    kebab (front ++ groups.flatMap Group.chars) =
      kebab front ++ groups.flatMap fun g ↦ '[' :: (kebab g.name ++ ']' :: kebab g.behind) := by
  induction groups generalizing front with
  | nil => simp
  | cons g rest ih =>
    obtain ⟨hopen, hclose⟩ := isBreak_bracket
    have hchars : front ++ (g :: rest).flatMap Group.chars =
        front ++ '[' :: (g.name ++ ']' :: (g.behind ++ rest.flatMap Group.chars)) := by
      simp [Group.chars]
    rw [hchars, kebab_append_cons hopen, kebab_append_cons hclose, ih]
    simp

/-- Normalising makes no brackets and no colons. -/
theorem IsLiteralText.kebab {text : List Char} (h : IsLiteralText text) :
    IsLiteralText (kebab text) :=
  ⟨not_mem_kebab (by decide) (by decide) (by decide) h.1,
    not_mem_kebab (by decide) (by decide) (by decide) h.2.1,
    not_mem_kebab (by decide) (by decide) (by decide) h.2.2⟩

theorem isLiteralText_of_isParamChar {text : List Char} (h : ∀ c ∈ text, isParamChar c) :
    IsLiteralText text :=
  ⟨fun hmem ↦ absurd (h _ hmem) (by decide), fun hmem ↦ absurd (h _ hmem) (by decide),
    fun hmem ↦ absurd (h _ hmem) (by decide)⟩

/-- All characters of a run are ASCII. -/
theorem toNat_lt_of_isParamChar {c : Char} (h : isParamChar c) : c.toNat < 0x80 := by
  rcases Bool.or_eq_true_iff.mp h with h | h
  · rcases Bool.or_eq_true_iff.mp h with h | h
    · exact toNat_lt_of_isAlpha h
    · have hle : c.val ≤ '9'.val := of_decide_eq_true (Bool.and_eq_true_iff.mp h).2
      exact Nat.lt_of_le_of_lt (UInt32.le_iff_toNat_le.mp hle) (by decide)
  · rw [beq_iff_eq.mp h]
    decide

theorem kebab_eq_nil_iff {text : List Char} : kebab text = [] ↔ text = [] := by
  refine ⟨fun h ↦ ?_, fun h ↦ by rw [h]; rfl⟩
  by_contra hne
  have hnormalize : normalize (String.ofList text) ≠ "" :=
    normalize_ne_empty (by simpa [String.ofList_eq_empty_iff] using hne)
  apply hnormalize
  rw [← String.toList_inj, toList_normalize, String.toList_ofList, h]
  rfl

/-- The marks of a group and of the text behind it in a normalised name. -/
def Group.marks (g : Group) : List Mark := .param (kebab g.name) :: (kebab g.behind).map .literal

theorem marksFrom_none_append {text : List Char} (h : '[' ∉ text) (rest : List Char) :
    marksFrom none (text ++ rest) = text.map .literal ++ marksFrom none rest := by
  induction text with
  | nil => rfl
  | cons c text ih =>
    rw [List.mem_cons, not_or] at h
    obtain ⟨hc, htext⟩ := h
    rw [List.cons_append, marksFrom.eq_def]
    simp [Ne.symm hc, ih htext]

theorem marksFrom_some_append {text : List Char} (hopen : '[' ∉ text) (hclose : ']' ∉ text)
    (pending rest : List Char) :
    marksFrom (some pending) (text ++ ']' :: rest) =
      .param (pending.reverse ++ text) :: marksFrom none rest := by
  induction text generalizing pending with
  | nil => simp [marksFrom]
  | cons c text ih =>
    rw [List.mem_cons, not_or] at hopen hclose
    rw [List.cons_append, marksFrom]
    · simp [ih hopen.2 hclose.2]
    · exact Ne.symm hopen.1
    · exact Ne.symm hclose.1

/-- The marks of a normalised name with groups. -/
theorem marks_kebab (n : Grouped) :
    Segment.marks (kebab (n.front ++ n.groups.flatMap Group.chars)) =
      (kebab n.front).map .literal ++ n.groups.flatMap Group.marks := by
  rw [kebab_flatMap_chars, Segment.marks, marksFrom_none_append n.isLiteralText.kebab.1]
  congr 1
  induction n.groups with
  | nil => rfl
  | cons g rest ih =>
    have hname := (isLiteralText_of_isParamChar g.isParamChar_of_mem).kebab
    rw [List.flatMap_cons, List.flatMap_cons, List.cons_append, List.append_assoc, List.cons_append,
      marksFrom, marksFrom_some_append hname.1 hname.2.1,
      marksFrom_none_append g.isLiteralText.kebab.1, ih]
    simp [Group.marks]

theorem writeMarks_false_literal_append (text : List Char) (ms : List Mark) :
    writeMarks false (text.map .literal ++ ms) = text ++ writeMarks false ms := by
  induction text with
  | nil => rfl
  | cons c text ih => simp [writeMarks, ih]

theorem writeMarks_literal_append (text : List Char) (afterParam : Bool) (ms : List Mark) :
    writeMarks afterParam (text.map .literal ++ ms) =
      text ++ writeMarks (afterParam && text.isEmpty) ms := by
  cases text with
  | nil => simp
  | cons c text => simp [writeMarks, writeMarks_false_literal_append]

/-- The path of a name with groups. -/
theorem toList_routePath_normalize (n : Grouped) :
    (routePath (normalize n.name)).toList =
      '/' :: (kebab n.front ++ writeMarks false (n.groups.flatMap Group.marks)) := by
  have hmarks := marks_kebab n
  have hany : ((kebab n.front).map Mark.literal ++ n.groups.flatMap Group.marks).any
      Mark.isParam := by
    obtain ⟨g, rest, hgroups⟩ := List.exists_cons_of_ne_nil n.groups_ne_nil
    simp [hgroups, Group.marks, Mark.isParam]
  have hpath : dynamicPath? (normalize n.name) =
      some (String.ofList ('/' :: (kebab n.front ++
        writeMarks false (n.groups.flatMap Group.marks)))) := by
    rw [dynamicPath?, toList_normalize, Grouped.name, String.toList_ofList, hmarks]
    simp [hany, writeMarks_literal_append]
  rw [routePath, hpath, String.toList_ofList]

/-! ### How the path is read -/

theorem isParamChar_of_mem_head?_writeMarks (groups : List Group) (isAdjacent : Bool) :
    ∀ c ∈ (writeMarks isAdjacent (groups.flatMap Group.marks)).head?, isParamChar c = false := by
  intro c hc
  cases groups with
  | nil => simp [writeMarks] at hc
  | cons g rest =>
    cases isAdjacent with
    | true =>
      obtain rfl : '/' = c := by simpa [Group.marks, writeMarks] using hc
      decide
    | false =>
      obtain rfl : ':' = c := by simpa [Group.marks, writeMarks] using hc
      decide

/-- **Groups as the router reads them.** -/
theorem reading_writeMarks (groups : List Group) (isAdjacent : Bool) :
    reading (writeMarks isAdjacent (groups.flatMap Group.marks)) =
      groupMarks Group.run isAdjacent groups := by
  induction groups generalizing isAdjacent with
  | nil => simp [writeMarks, reading, groupMarks]
  | cons g rest ih =>
    have hcolon : ':' ∉ kebab g.name ++ kebab g.behind := by
      rw [List.mem_append, not_or]
      exact ⟨(isLiteralText_of_isParamChar g.isParamChar_of_mem).kebab.2.2,
        g.isLiteralText.kebab.2.2⟩
    have hempty : (kebab g.behind).isEmpty = g.behind.isEmpty := by
      rw [Bool.eq_iff_iff, List.isEmpty_iff, List.isEmpty_iff, kebab_eq_nil_iff]
    have hgroup : reading (':' :: (kebab g.name ++ kebab g.behind ++
        writeMarks g.behind.isEmpty (rest.flatMap Group.marks))) =
          .param g.run.1 :: (g.run.2.map .literal ++ groupMarks Group.run g.behind.isEmpty rest) :=
      by rw [reading_colon hcolon (isParamChar_of_mem_head?_writeMarks rest _), ih]; rfl
    rw [groupMarks, ← hgroup, List.flatMap_cons, Group.marks, List.cons_append, writeMarks,
      writeMarks_literal_append, Bool.true_and, hempty]
    cases isAdjacent with
    | true => simp [reading]
    | false => simp

/-- The path of a name with groups as the router reads it. -/
theorem reading_routePath (n : Grouped) :
    reading (routePath (normalize n.name)).toList = n.marks Group.run := by
  have hfront : ':' ∉ '/' :: kebab n.front := by
    rw [List.mem_cons, not_or]
    exact ⟨by decide, n.isLiteralText.kebab.2.2⟩
  rw [toList_routePath_normalize, ← List.cons_append, reading_append hfront, reading_writeMarks]
  rfl

/-! ### When groups are read as they were meant -/

/-- Whether the parameter of a group is read as it was meant: normalising puts no hyphen into its
name, and the text behind it does not begin with a letter, a digit or an underscore. -/
def Group.Survives (g : Group) : Prop :=
  ¬HasBoundary g.name ∧ ∀ c ∈ (kebab g.behind).head?, isParamChar c = false

/-- The name of a group is a run, if normalising puts no hyphen into it. -/
theorem Group.forall_isParamChar_kebab_iff (g : Group) :
    (∀ c ∈ kebab g.name, isParamChar c) ↔ ¬HasBoundary g.name := by
  have htable : ∀ n < 0x80, isParamChar (Char.ofNat n) → isParamChar (Char.ofNat n).toLower := by
    decide
  have hascii : ∀ c ∈ g.name, c.toNat < 0x80 :=
    fun c hc ↦ toNat_lt_of_isParamChar (g.isParamChar_of_mem c hc)
  rw [kebab_eq_map hascii]
  constructor
  · intro h hboundary
    have hhyphen : '-' ∈ hyphenate g.name := mem_hyphenate_iff.mpr (.inr ⟨rfl, hboundary⟩)
    exact absurd (h _ (List.mem_map_of_mem hhyphen)) (by decide)
  · intro h c hc
    obtain ⟨d, hd, rfl⟩ := List.mem_map.mp hc
    rcases mem_hyphenate_iff.mp hd with hmem | ⟨-, hboundary⟩
    · have hlower := htable d.toNat (hascii d hmem)
      rw [Char.ofNat_toNat] at hlower
      exact hlower (g.isParamChar_of_mem d hmem)
    · exact absurd hboundary h

theorem Group.run_fst_append_snd (g : Group) : g.run.1 ++ g.run.2 = g.parts.1 ++ g.parts.2 :=
  List.takeWhile_append_dropWhile

/-- What is read behind a colon is the name of the group if and only if the group survives. -/
theorem Group.run_eq_parts_iff (g : Group) : g.run = g.parts ↔ g.Survives := by
  rw [Group.Survives, ← g.forall_isParamChar_kebab_iff]
  constructor
  · intro h
    obtain ⟨hname, hbehind⟩ := Prod.mk.inj h
    refine ⟨fun c hc ↦ ?_, fun c hc ↦ ?_⟩
    · rw [← hname] at hc
      exact List.mem_takeWhile_imp hc
    · have hhead := List.head?_dropWhile_not isParamChar (kebab g.name ++ kebab g.behind)
      rw [← hbehind, Option.mem_def] at hc
      rwa [hc] at hhead
  · rintro ⟨hname, hbehind⟩
    obtain ⟨htake, hdrop⟩ := run_append hbehind (kebab g.name)
    rw [Group.run, Group.parts, htake, hdrop, List.takeWhile_eq_self_iff.mpr hname,
      List.dropWhile_eq_nil_iff.mpr hname, List.nil_append]

/-- Groups are read as they were meant if and only if each of them is. -/
theorem groupMarks_run_eq_iff (groups : List Group) (isAdjacent : Bool) :
    groupMarks Group.run isAdjacent groups = groupMarks Group.parts isAdjacent groups ↔
      ∀ g ∈ groups, g.Survives := by
  induction groups generalizing isAdjacent with
  | nil => simp [groupMarks]
  | cons g rest ih =>
    rw [List.forall_mem_cons, ← ih g.behind.isEmpty, ← g.run_eq_parts_iff, groupMarks, groupMarks,
      List.append_cancel_left_eq, List.cons.injEq]
    constructor
    · rintro ⟨hparam, hbehind⟩
      have hname : g.run.1 = g.parts.1 := Mark.param.inj hparam
      have htext : g.run.2 = g.parts.2 := by
        have happend := g.run_fst_append_snd
        rwa [hname, List.append_cancel_left_eq] at happend
      rw [htext, List.append_cancel_left_eq] at hbehind
      exact ⟨Prod.ext hname htext, hbehind⟩
    · rintro ⟨hrun, hrest⟩
      rw [hrun, hrest]
      exact ⟨rfl, rfl⟩

/-- The marks of a name tell no more than the characters they are read from. -/
theorem flatMap_chars_groupMarks (groups : List Group) (isAdjacent : Bool) :
    (groupMarks Group.parts isAdjacent groups).flatMap Mark.chars =
      (groupMarks Group.run isAdjacent groups).flatMap Mark.chars := by
  induction groups generalizing isAdjacent with
  | nil => rfl
  | cons g rest ih =>
    have hliteral (text : List Char) : (text.map Mark.literal).flatMap Mark.chars = text := by
      simp [List.flatMap_map, Mark.chars]
    simp only [groupMarks, List.flatMap_append, List.flatMap_cons, hliteral, ih, Mark.chars,
      List.cons_append]
    rw [← List.append_assoc g.parts.1, ← g.run_fst_append_snd, List.append_assoc]

/-- If a path is read as a name with groups was meant, it is the path of this name. -/
theorem eq_of_reading_eq {n : Grouped} {path : List Char}
    (h : reading path = n.marks Group.parts) : path = (routePath (normalize n.name)).toList := by
  rw [← flatMap_chars_reading path, ← flatMap_chars_reading (routePath (normalize n.name)).toList,
    h, reading_routePath]
  simp only [Grouped.marks, List.flatMap_cons, List.flatMap_append, flatMap_chars_groupMarks]

/-! ### The parameters of a path -/

theorem filter_isParam_map_literal (text : List Char) :
    (text.map Mark.literal).filter Mark.isParam = [] := by
  simp [List.filter_eq_nil_iff, Mark.isParam]

/-- Each group is one parameter. -/
theorem filter_isParam_groupMarks (cut : Group → List Char × List Char) (groups : List Group)
    (isAdjacent : Bool) :
    (groupMarks cut isAdjacent groups).filter Mark.isParam =
      groups.map fun g ↦ .param (cut g).1 := by
  induction groups generalizing isAdjacent with
  | nil => rfl
  | cons g rest ih =>
    have hslash : (if isAdjacent then [Mark.literal '/'] else []).filter Mark.isParam = [] := by
      cases isAdjacent <;> rfl
    rw [groupMarks, List.filter_append, hslash, List.nil_append, List.filter_cons_of_pos rfl,
      List.filter_append, filter_isParam_map_literal, ih]
    rfl

/-- **Parameters of a path.** Take a file or folder name with bracket groups, each of them a run of
letters, digits and underscores, and with no other brackets and no colon. In its path the router
reads a parameter for each group, in their order, and no other. The name of the parameter is the
longest run that begins the normalised group with the text behind it. All parameters have the
normalised names of their groups, with the normalised text between them as it is and a slash where
nothing is between them, if and only if no group has a camel-case boundary in it and none is in
front of a letter, a digit or an underscore. If they have not, no other path is read so either. -/
theorem reading_routePath_iff (n : Grouped) :
    reading (routePath (normalize n.name)).toList = n.marks Group.run ∧
      (n.marks Group.run).filter Mark.isParam = (n.groups.map fun g ↦ .param g.run.1) ∧
      (reading (routePath (normalize n.name)).toList = n.marks Group.parts ↔
        ∀ g ∈ n.groups, g.Survives) ∧
      ∀ path, reading path = n.marks Group.parts →
        path = (routePath (normalize n.name)).toList := by
  refine ⟨reading_routePath n, ?_, ?_, fun path ↦ eq_of_reading_eq⟩
  · rw [Grouped.marks, List.filter_cons_of_neg (by decide), List.filter_append,
      filter_isParam_map_literal, filter_isParam_groupMarks]
    rfl
  · rw [reading_routePath, ← groupMarks_run_eq_iff n.groups false, Grouped.marks, Grouped.marks,
      List.cons.injEq, List.append_cancel_left_eq]
    exact and_iff_right rfl

/-- A parameter that takes the text behind its group with it, and one that loses its second half. -/
theorem exists_group_not_read :
    ∃ glued broken : Grouped, glued.name = "[id]x" ∧ broken.name = "[userId]" ∧
      reading (routePath (normalize glued.name)).toList =
        [.literal '/', .param ['i', 'd', 'x']] ∧
      glued.marks Group.parts = [.literal '/', .param ['i', 'd'], .literal 'x'] ∧
      reading (routePath (normalize broken.name)).toList =
        [.literal '/', .param ['u', 's', 'e', 'r'], .literal '-', .literal 'i', .literal 'd'] ∧
      broken.marks Group.parts =
        [.literal '/', .param ['u', 's', 'e', 'r', '-', 'i', 'd']] := by
  refine ⟨
    ⟨[], [⟨['i', 'd'], ['x'], by simp, List.all_eq_true.mp rfl, by decide, by decide, by decide⟩],
      ⟨by decide, by decide, by decide⟩, by simp⟩,
    ⟨[], [⟨['u', 's', 'e', 'r', 'I', 'd'], [], by simp, List.all_eq_true.mp rfl, by decide,
      by decide, by decide⟩], ⟨by decide, by decide, by decide⟩, by simp⟩,
    rfl, rfl, ?_, ?_, ?_, ?_⟩
  · rw [reading_routePath]
    decide +kernel
  · decide +kernel
  · rw [reading_routePath]
    decide +kernel
  · decide +kernel

end PageRoutes.Segment
