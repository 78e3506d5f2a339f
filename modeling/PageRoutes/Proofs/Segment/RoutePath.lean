import PageRoutes.Segment
/-!
# The shape of a segment's path

The path of a segment is empty for the name `index` and for no other. Every other path of a
normalised name is a slash with something behind it, since normalising a name never makes it empty.

## Main definitions

* `Segment.IsRooted` : a path that is empty or a slash with something behind it.

## Main results

* `Segment.routePath_eq_empty_iff` : the name of an empty path.
* `Segment.isRooted_routePath_normalize` : the paths of file and folder names are rooted.
-/

namespace PageRoutes.Segment

/-- Whether a path is empty or a slash with something behind it. -/
def IsRooted (path : String) : Prop := path = "" ∨ ∃ rest ≠ [], path = String.ofList ('/' :: rest)

theorem writeMarks_ne_nil {ms : List Mark} (h : ms ≠ []) (afterParam : Bool) :
    writeMarks afterParam ms ≠ [] := by
  cases ms with
  | nil => exact absurd rfl h
  | cons m rest => cases m <;> simp [writeMarks]

/-- The path of a name with a bracket group is a slash with something behind it. -/
theorem exists_of_dynamicPath? {name path : String} (h : dynamicPath? name = some path) :
    ∃ rest ≠ [], path = String.ofList ('/' :: rest) := by
  simp only [dynamicPath?] at h
  split at h
  · next hparam =>
    refine ⟨_, writeMarks_ne_nil ?_ false, (Option.some.inj h).symm⟩
    rintro hnil
    simp [hnil] at hparam
  · simp at h

/-- The name `index` has no bracket group. -/
theorem dynamicPath?_indexName : dynamicPath? indexName = none := by
  simp [dynamicPath?, indexName, marks, marksFrom, Mark.isParam]

@[simp] theorem routePath_indexName : routePath indexName = "" := by
  simp [routePath, dynamicPath?_indexName]

/-- Only the name `index` has the empty path. -/
theorem routePath_eq_empty_iff {name : String} : routePath name = "" ↔ name = indexName := by
  refine ⟨fun h ↦ ?_, fun h ↦ h ▸ routePath_indexName⟩
  rw [routePath] at h
  split at h
  · next path hpath =>
    obtain ⟨rest, -, rfl⟩ := exists_of_dynamicPath? hpath
    simp [String.ofList_eq_empty_iff] at h
  · split at h
    · assumption
    · simp at h

theorem isRooted_routePath {name : String} (hname : name ≠ "") : IsRooted (routePath name) := by
  rw [routePath]
  split
  · next path hpath => exact .inr (exists_of_dynamicPath? hpath)
  · split
    · exact .inl rfl
    · exact .inr ⟨name.toList, by simpa using hname, by simp [String.ofList_cons]⟩

/-! ### Normalised names are not empty -/

theorem hyphenate_ne_nil {cs : List Char} (h : cs ≠ []) : hyphenate cs ≠ [] := by
  fun_cases hyphenate cs with
  | case1 => simp
  | case2 => simp
  | case3 => exact h

theorem normalize_ne_empty {name : String} (h : name ≠ "") : normalize name ≠ "" := by
  have hchars : hyphenate name.toList ≠ [] := hyphenate_ne_nil (by simpa using h)
  obtain ⟨c, rest, hcons⟩ := List.exists_cons_of_ne_nil hchars
  simp only [normalize, LetterCase.toLower, hcons, LetterCase.lowerFrom, ne_eq,
    String.ofList_eq_empty_iff, List.append_eq_nil_iff, not_and]
  intro hform
  split at hform
  · simp at hform
  · simp only [LetterCase.lowerChar] at hform
    split at hform
    · simp at hform
    · split at hform <;> simp at hform

/-- **The path of a segment.** The path of a file or folder name is empty or a slash with something
behind it. -/
theorem isRooted_routePath_normalize {name : String} (h : name ≠ "") :
    IsRooted (routePath (normalize name)) :=
  isRooted_routePath (normalize_ne_empty h)

end PageRoutes.Segment
