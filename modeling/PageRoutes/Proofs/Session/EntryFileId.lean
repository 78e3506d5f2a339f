import PageRoutes.Proofs.Disk.PathNames
import PageRoutes.Proofs.Session.History
/-!
# Ids of the entry file

The build tool names a module by its path, and it may put a question mark and a query behind the
path. A session takes the path up to the first question mark and compares it with that of the entry
file, piece by piece. This finds the path again if there is no question mark in it. Paths with the
same components have the same characters in their names, so whether there is one is decided by the
root of the project: without a question mark in the root all ids of the entry file are found, with
one none.

## Main definitions

* `Session.IsIdOf` : a path as an id, with or without a query.

## Main results

* `Session.isEntryFile_iff` : the ids that are taken for the entry file.
* `Session.transform_newCode_iff` : the modules that are changed once the session is resolved.
-/

namespace PageRoutes.Session

/-- Whether an id is a path, or a path with a query behind it. -/
def IsIdOf (id : String) (p : DiskPath) : Prop :=
  id = p.text ∨ ∃ query : String, id = p.text ++ "?" ++ query

/-! ### The path in an id -/

theorem not_mem_pathOfId (id : String) : '?' ∉ (pathOfId id).text.toList := by
  rw [pathOfId, String.toList_ofList]
  exact fun h ↦ by simpa using List.mem_takeWhile_imp h

/-- An id is the path in it, with or without a query. -/
theorem isIdOf_pathOfId (id : String) : IsIdOf id (pathOfId id) := by
  have hid : id.toList.takeWhile (· ≠ '?') ++ id.toList.dropWhile (· ≠ '?') = id.toList :=
    List.takeWhile_append_dropWhile
  cases hdrop : id.toList.dropWhile (· ≠ '?') with
  | nil =>
    rw [hdrop, List.append_nil] at hid
    exact .inl (by rw [pathOfId, hid, String.ofList_toList])
  | cons c query =>
    have hmark : c = '?' := by
      have hhead := List.head?_dropWhile_not (· ≠ '?') id.toList
      rw [hdrop] at hhead
      simpa using hhead
    refine .inr ⟨String.ofList query, ?_⟩
    rw [hdrop, hmark] at hid
    rw [← String.toList_inj, pathOfId]
    simpa using hid.symm

/-- A path is found in its ids, if it has no question mark. -/
theorem pathOfId_of_isIdOf {id : String} {p : DiskPath} (hmark : '?' ∉ p.text.toList)
    (h : IsIdOf id p) : pathOfId id = p := by
  have hkeep : ∀ c ∈ p.text.toList, (c ≠ '?' : Bool) :=
    fun c hc ↦ by simpa using fun heq : c = '?' ↦ hmark (heq ▸ hc)
  have htake : id.toList.takeWhile (· ≠ '?') = p.text.toList := by
    rcases h with rfl | ⟨query, rfl⟩
    · exact List.takeWhile_eq_self_iff.mpr hkeep
    · rw [String.append_assoc, String.toList_append, List.takeWhile_append_of_pos hkeep]
      simp
  rw [pathOfId, htake, String.ofList_toList]

/-! ### The entry file -/

/-- The path of the entry file has a question mark in it if and only if the root has. -/
theorem mem_join_entryFile_iff (root : DiskPath) :
    '?' ∈ (root.join entryFile).text.toList ↔ '?' ∈ root.text.toList := by
  have hentry : '?' ∉ entryFile.text.toList := by decide
  rw [DiskPath.join]
  split
  · next h =>
    have hroot : root.text = "" := by simpa [entryFile, DiskPath.isAbsolute] using h
    simp [hroot, hentry]
  · split
    · simp [hentry]
    · simp [hentry]

/-- The same holds for all paths that are equal to it up to their spelling. -/
theorem mem_iff_of_equiv_entryFile {root p : DiskPath} (hp : p.equiv (root.join entryFile)) :
    '?' ∈ p.text.toList ↔ '?' ∈ root.text.toList := by
  rw [DiskPath.mem_text_iff_of_equiv (by decide) (by decide) hp, mem_join_entryFile_iff]

/-- **Ids of the entry file.** An id is taken for the entry file if and only if it is an id of a
path that is equal to that of the entry file up to its spelling, and the root has no question mark
in it. -/
theorem isEntryFile_iff {root : DiskPath} {id : String} :
    isEntryFile root id ↔
      '?' ∉ root.text.toList ∧ ∃ p : DiskPath, p.equiv (root.join entryFile) ∧ IsIdOf id p := by
  constructor
  · intro h
    refine ⟨?_, pathOfId id, h, isIdOf_pathOfId id⟩
    rw [← mem_iff_of_equiv_entryFile h]
    exact not_mem_pathOfId id
  · rintro ⟨hroot, p, hp, hid⟩
    rwa [isEntryFile, pathOfId_of_isIdOf (mt (mem_iff_of_equiv_entryFile hp).mp hroot) hid]

/-- **The module that is changed.** Take any history of a new session in which an attempt to resolve
it succeeds, and any module that is handed over later.

* The session does something with the module if and only if the root has no question mark in it and
  the module's id is a path that is equal to that of the entry file up to its spelling, with or
  without a query.
* What it does is to add the router to the code, and faults name this path.
* Without a question mark in the root the path of the entry file itself is such an id. -/
theorem transform_newCode_iff (options : Options) (disk : Disk) (workingDir : DiskPath)
    {before : List Event} {root : DiskPath}
    (h : answer workingDir (run workingDir (begin options disk) before) (.resolve root) =
      .resolved (.ok ())) (after : List Event) :
    let later := run workingDir (begin options disk) (before ++ .resolve root :: after)
    (∀ code id, answer workingDir later (.transform code id) ≠ .newCode (.ok none) ↔
        '?' ∉ root.text.toList ∧ ∃ p : DiskPath, p.equiv (root.join entryFile) ∧ IsIdOf id p) ∧
      ('?' ∉ root.text.toList →
        (∀ (code id : String) (p : DiskPath), p.equiv (root.join entryFile) → IsIdOf id p →
          answer workingDir later (.transform code id) =
            .newCode ((EntryFile.addRouter code p).map some)) ∧
        ∀ code : String, answer workingDir later (.transform code (root.join entryFile).text) =
          .newCode ((EntryFile.addRouter code (root.join entryFile)).map some)) := by
  intro later
  obtain ⟨_, -, hafter⟩ := answer_of_isSuccess h
  obtain ⟨-, -, htransform⟩ := hafter after
  have hchanged (hroot : '?' ∉ root.text.toList) (code id : String) (p : DiskPath)
      (hp : p.equiv (root.join entryFile)) (hid : IsIdOf id p) :
      answer workingDir later (.transform code id) =
        .newCode ((EntryFile.addRouter code p).map some) := by
    have hmark : '?' ∉ p.text.toList := mt (mem_iff_of_equiv_entryFile hp).mp hroot
    rw [htransform, if_pos (isEntryFile_iff.mpr ⟨hroot, p, hp, hid⟩),
      pathOfId_of_isIdOf hmark hid]
  refine ⟨fun code id ↦ ?_, fun hroot ↦ ⟨hchanged hroot, fun code ↦ ?_⟩⟩
  · rw [htransform, ← isEntryFile_iff]
    split
    · next hentry =>
      refine iff_of_true (fun heq ↦ ?_) hentry
      cases hadd : EntryFile.addRouter code (pathOfId id) <;> simp [hadd, Except.map] at heq
    · next hentry => exact iff_of_false (fun hne ↦ hne rfl) hentry
  · exact hchanged hroot code _ _ (beq_self_eq_true _) (.inl rfl)

/-- An id with doubled slashes, a dot and two question marks. -/
theorem transform_newCode_doubled :
    answer ⟨"/w"⟩ (run ⟨"/w"⟩ (begin {} Project.sampleDisk) []) (.resolve ⟨"/w"⟩) =
        .resolved (.ok ()) ∧
      ∀ code, answer ⟨"/w"⟩ (run ⟨"/w"⟩ (begin {} Project.sampleDisk) [.resolve ⟨"/w"⟩])
        (.transform code "/w//src/./main.ts?t=1?raw") =
          .newCode ((EntryFile.addRouter code ⟨"/w//src/./main.ts"⟩).map some) := by
  have hsuccess : answer ⟨"/w"⟩ (run ⟨"/w"⟩ (begin {} Project.sampleDisk) []) (.resolve ⟨"/w"⟩) =
      .resolved (.ok ()) := answer_resolve_eq_iff.mpr (by decide +kernel)
  refine ⟨hsuccess, fun code ↦ ?_⟩
  exact ((transform_newCode_iff {} Project.sampleDisk ⟨"/w"⟩ hsuccess []).2 (by decide)).1 code _ _
    (by decide) (.inr ⟨"t=1?raw", by decide⟩)

/-- A project in a directory with a question mark in its name. -/
def markedDisk : Disk :=
  let pages : Entry := .dir [(.text "index.vue", .file (.text ""))]
  ⟨[(.text "w", .dir [(.text "a?b", .dir [(.text "src", .dir [(.text "pages", pages)])])])]⟩

/-- A session that does nothing with the entry file of its project. -/
theorem exists_entry_file_missed :
    answer ⟨"/w"⟩ (begin {} markedDisk) (.resolve ⟨"/w/a?b"⟩) = .resolved (.ok ()) ∧
      (DiskPath.join ⟨"/w/a?b"⟩ entryFile).text = "/w/a?b/src/main.ts" ∧
      ∀ code, answer ⟨"/w"⟩ (run ⟨"/w"⟩ (begin {} markedDisk) [.resolve ⟨"/w/a?b"⟩])
        (.transform code "/w/a?b/src/main.ts") = .newCode (.ok none) := by
  have hsuccess : answer ⟨"/w"⟩ (run ⟨"/w"⟩ (begin {} markedDisk) []) (.resolve ⟨"/w/a?b"⟩) =
      .resolved (.ok ()) := answer_resolve_eq_iff.mpr (by decide +kernel)
  refine ⟨hsuccess, by decide, fun code ↦ ?_⟩
  obtain ⟨_, -, hafter⟩ := answer_of_isSuccess hsuccess
  obtain ⟨-, -, htransform⟩ := hafter []
  have hmissed : isEntryFile ⟨"/w/a?b"⟩ "/w/a?b/src/main.ts" = false := by decide
  simpa [hmissed] using htransform code "/w/a?b/src/main.ts"

end PageRoutes.Session
