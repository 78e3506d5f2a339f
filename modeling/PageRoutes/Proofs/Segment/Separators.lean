import PageRoutes.Proofs.Segment.Normalize
/-!
# Separators in the paths of segments

A file name has no slash in it, and neither has its normalised form: lower-casing makes no slash of
another character. The path of a normalised name has a slash in front, and what comes next is a
character of the name or the colon of a parameter. So the path begins with one slash and not with
two, however the brackets of the name stand, and it is not a slash alone.

## Main definitions

* `Segment.IsSeparated` : a path that is empty or has exactly one slash at its beginning.

## Main results

* `Segment.slash_not_mem_normalize` : a normalised name has no slash if the name has none.
* `Segment.isSeparated_routePath_normalize` : the paths of file and folder names.
-/

namespace PageRoutes

namespace Segment

/-- Whether a path is empty or has exactly one slash at its beginning, with something behind it. -/
def IsSeparated (path : String) : Prop :=
  path = "" ∨ ∃ c rest, c ≠ '/' ∧ path = String.ofList ('/' :: c :: rest)

/-- A normalised name has no slash if the name has none. -/
theorem slash_not_mem_normalize {name : String} (h : '/' ∉ name.toList) :
    '/' ∉ (normalize name).toList := by
  rw [toList_normalize]
  exact not_mem_kebab (by decide) (by decide) (by decide) h

/-! ### Paths of names without slashes -/

/-- The marks of a name consist of its characters. -/
theorem literal_slash_not_mem_marksFrom {pending : Option (List Char)} {cs : List Char}
    (hpending : ∀ before ∈ pending, '/' ∉ before) (h : '/' ∉ cs) :
    Mark.literal '/' ∉ marksFrom pending cs := by
  fun_induction marksFrom pending cs <;> simp_all

/-- Written marks begin with a character of the name or with a colon. -/
theorem head?_writeMarks {ms : List Mark} (h : Mark.literal '/' ∉ ms) :
    (writeMarks false ms).head? ≠ some '/' := by
  cases ms with
  | nil => simp [writeMarks]
  | cons m rest =>
    cases m with
    | literal c =>
      have hc : '/' ≠ c := fun heq ↦ h (heq ▸ List.mem_cons_self)
      simpa [writeMarks] using hc.symm
    | param name => simp [writeMarks]

/-- What follows the slash of a path is there and is no other slash. -/
theorem isSeparated_ofList {cs : List Char} (hne : cs ≠ []) (hhead : cs.head? ≠ some '/') :
    IsSeparated (String.ofList ('/' :: cs)) := by
  obtain ⟨c, rest, rfl⟩ := List.exists_cons_of_ne_nil hne
  exact .inr ⟨c, rest, fun hc ↦ hhead (congrArg some hc), rfl⟩

theorem isSeparated_routePath {name : String} (hname : name ≠ "") (h : '/' ∉ name.toList) :
    IsSeparated (routePath name) := by
  rw [routePath]
  split
  · next path hpath =>
    simp only [dynamicPath?] at hpath
    split at hpath
    · next hparam =>
      rw [← Option.some.inj hpath]
      refine isSeparated_ofList (writeMarks_ne_nil ?_ false)
        (head?_writeMarks (literal_slash_not_mem_marksFrom (by simp) h))
      rintro hnil
      simp [hnil] at hparam
    · cases hpath
  · split
    · exact .inl rfl
    · have hseparated : IsSeparated (String.ofList ('/' :: name.toList)) :=
        isSeparated_ofList (by simpa using hname) fun hhead ↦ h (List.mem_of_head? hhead)
      rwa [String.ofList_cons, String.ofList_toList] at hseparated

/-- **The path of a segment.** The path of a file or folder name is empty or has exactly one slash
at its beginning, with something behind it. -/
theorem isSeparated_routePath_normalize {name : String} (hname : name ≠ "")
    (h : '/' ∉ name.toList) : IsSeparated (routePath (normalize name)) :=
  isSeparated_routePath (normalize_ne_empty hname) (slash_not_mem_normalize h)

/-- Adjacent groups, empty ones and brackets that stand alone make no second slash in front. -/
example : ["[][]", "[[a]]", "[a][b]c]", "]x["].map routePath =
    ["/:/:", "/[:a]", "/:a/:bc]", "/]x["] := by
  decide

end Segment

end PageRoutes
