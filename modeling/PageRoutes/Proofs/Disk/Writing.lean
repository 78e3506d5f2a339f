import PageRoutes.Proofs.Disk.Changes
import PageRoutes.Proofs.Disk.Cycles
/-!
# What writing a file changes

Names entered one after the other from the root, without following links, stand for at most one
entry. Two disks agree about names if the names stand for nothing on both, for a directory on both,
or for the same file or the same link. Writing a file changes the disk at one list of names only: at
the place to which the path leads, where there was a file or a free name. The links that were
followed on the way stay, and so do the directories.

## Main definitions

* `Disk.at?` : what names stand for.
* `Entry.shell` : an entry without what is inside it.

## Main results

* `Disk.shell_at?_set` : a file set at names changes what these names stand for.
* `Disk.shell_at?_write` : the same for a file that is written where a path leads.
* `Disk.Device.take_of_ok`, `Disk.Device.take_of_error` : what is in the file then.
-/

namespace PageRoutes

namespace Entry

/-- What names lead to from an entry, without following links. -/
def at? : List Octets → Entry → Option Entry
  | [], e => some e
  | name :: rest, e => (e.child? name).bind (at? rest)

/-- An entry without what is inside it: of a directory only that it is one. -/
def shell : Entry → Entry
  | .dir _ => .dir []
  | e => e

@[simp] theorem at?_nil (e : Entry) : at? [] e = some e := rfl

@[simp] theorem at?_cons (name : Octets) (rest : List Octets) (e : Entry) :
    at? (name :: rest) e = (e.child? name).bind (at? rest) := rfl

theorem at?_append (names more : List Octets) (e : Entry) :
    at? (names ++ more) e = (at? names e).bind (at? more) := by
  induction names generalizing e with
  | nil => rfl
  | cons name rest ih => cases h : e.child? name <;> simp [h, ih]

/-- From what is no directory, names lead nowhere. -/
theorem at?_of_not_isDir {e : Entry} (h : e.isDir = false) {names : List Octets}
    (hne : names ≠ []) :
    at? names e = none := by
  cases names with
  | nil => exact absurd rfl hne
  | cons name rest =>
    cases e with
    | dir => cases h
    | file => rfl
    | link => rfl

/-- What leads to a directory is a directory. -/
theorem exists_dir_of_at? {e : Entry} {names : List Octets} {inner : List (Octets × Entry)}
    (h : at? names e = some (.dir inner)) : ∃ inside, e = .dir inside := by
  cases hdir : e.isDir with
  | true =>
    cases e with
    | dir inside => exact ⟨inside, rfl⟩
    | file => cases hdir
    | link => cases hdir
  | false =>
    cases names with
    | nil =>
      cases Option.some.inj h
      cases hdir
    | cons name rest =>
      rw [at?_of_not_isDir hdir (List.cons_ne_nil name rest)] at h
      cases h

end Entry

namespace Disk

/-- What names stand for, entered from the root without following links. -/
def at? (disk : Disk) (names : List Octets) : Option Entry := Entry.at? names (.dir disk.entries)

/-! ### Entries set -/

theorem child?_setName (name : Octets) (new : Entry) (entries : List (Octets × Entry))
    (other : Octets) :
    (Entry.dir (setName name (some new) entries)).child? other =
      if other = name then some new else (Entry.dir entries).child? other := by
  induction entries with
  | nil => by_cases h : other = name <;> simp [setName, Entry.child?, Entry.entries, h, eq_comm]
  | cons r rest ih =>
    obtain ⟨n, e⟩ := r
    simp only [Entry.child?, Entry.entries] at ih ⊢
    rw [setName]
    split
    · next hname =>
      subst hname
      by_cases h : other = n
      · simp [h]
      · simp [h, Ne.symm h]
    · next hname =>
      by_cases h : n = other
      · subst h
        simp [hname]
      · simp [h, ih]

section Set

variable {new : Entry} {before : List Octets} {name : Octets} {entries : List (Octets × Entry)}

/-- Setting an entry below a name changes what is inside the directory with this name. -/
theorem setAt_cons_append (first : Octets) (before : List Octets) (name : Octets)
    {inner : List (Octets × Entry)} (h : (Entry.dir entries).child? first = some (.dir inner)) :
    setAt (some new) (first :: (before ++ [name])) entries =
      setName first (some (.dir (setAt (some new) (before ++ [name]) inner))) entries := by
  obtain ⟨second, rest, hcons⟩ := List.exists_cons_of_ne_nil (l := before ++ [name]) (by simp)
  obtain ⟨r, hfind, hr⟩ := Option.map_eq_some_iff.mp h
  simp only [Entry.entries] at hfind
  rw [hcons, setAt, hfind]
  · simp [hr, Entry.entries]
  · simp

variable {inner : List (Octets × Entry)}

/-- What was set below a directory is there. -/
theorem at?_setAt_self (hdir : Entry.at? before (.dir entries) = some (.dir inner)) :
    Entry.at? (before ++ [name]) (.dir (setAt (some new) (before ++ [name]) entries)) =
      some new := by
  induction before generalizing entries with
  | nil => simp [setAt, child?_setName]
  | cons first rest ih =>
    obtain ⟨e, hchild, he⟩ := Option.bind_eq_some_iff.mp hdir
    obtain ⟨inside, rfl⟩ := Entry.exists_dir_of_at? he
    rw [List.cons_append, setAt_cons_append first rest name hchild]
    simp [child?_setName, ih he]

/-- **Setting an entry.** Where something that is no directory is set in place of no directory, all
other names stand for what they stood for. -/
theorem shell_at?_setAt (hnew : new.isDir = false)
    (hdir : Entry.at? before (.dir entries) = some (.dir inner))
    (hold : ∀ e, (Entry.dir inner).child? name = some e → e.isDir = false) {names : List Octets}
    (hne : names ≠ before ++ [name]) :
    (Entry.at? names (.dir (setAt (some new) (before ++ [name]) entries))).map Entry.shell =
      (Entry.at? names (.dir entries)).map Entry.shell := by
  induction before generalizing entries names with
  | nil =>
    cases Option.some.inj hdir
    cases names with
    | nil => rfl
    | cons first rest =>
      simp only [List.nil_append, setAt, Entry.at?_cons, child?_setName]
      split
      · next hfirst =>
        -- Behind the name there is nothing, before as after.
        subst hfirst
        have hrest : rest ≠ [] := fun h ↦ hne (by rw [h, List.nil_append])
        rw [Option.bind_some, Entry.at?_of_not_isDir hnew hrest]
        cases hchild : (Entry.dir inner).child? first with
        | none => rfl
        | some e => rw [Option.bind_some, Entry.at?_of_not_isDir (hold e hchild) hrest]
      · rfl
  | cons head before ih =>
    obtain ⟨e, hchild, he⟩ := Option.bind_eq_some_iff.mp hdir
    obtain ⟨inside, rfl⟩ := Entry.exists_dir_of_at? he
    cases names with
    | nil => rfl
    | cons first rest =>
      rw [List.cons_append, setAt_cons_append head before name hchild]
      simp only [Entry.at?_cons, child?_setName]
      split
      · next hfirst =>
        subst hfirst
        rw [hchild, Option.bind_some, Option.bind_some]
        cases rest with
        | nil => rfl
        | cons second rest => exact ih he fun h ↦ hne (by rw [h, List.cons_append])
      · rfl

/-- What is set last at a name is what counts. -/
theorem setName_setName (name : Octets) (first second : Entry) (entries : List (Octets × Entry)) :
    setName name (some second) (setName name (some first) entries) =
      setName name (some second) entries := by
  induction entries with
  | nil => simp [setName]
  | cons r rest ih =>
    obtain ⟨n, e⟩ := r
    by_cases h : n = name
    · simp [setName, h]
    · simp [setName, h, ih]

theorem setAt_setAt (first second : Entry) (names : List Octets) (entries : List (Octets × Entry)) :
    setAt (some second) names (setAt (some first) names entries) =
      setAt (some second) names entries := by
  fun_induction setAt (some first) names entries with
  | case1 => rfl
  | case2 name entries => exact setName_setName name first second entries
  | case3 name rest entries hrest inner ih =>
    have hchild := child?_setName name (.dir (setAt (some first) rest inner)) entries name
    rw [if_pos rfl] at hchild
    obtain ⟨r, hfind, hr⟩ := Option.map_eq_some_iff.mp hchild
    simp only [Entry.entries] at hfind
    rw [setAt.eq_3 _ _ _ _ hrest, hfind, setName_setName, Option.map_some, Option.getD_some, hr,
      setAt.eq_3 _ _ _ _ hrest]
    exact congrArg (fun es ↦ setName name (some (.dir es)) entries) ih

theorem set_set (disk : Disk) (names : List Octets) (first second : Entry) :
    (disk.set names (some first)).set names (some second) = disk.set names (some second) := by
  rw [set, set, setAt_setAt]
  rfl

end Set

/-! ### Files written -/

section Write

variable {disk : Disk} {trail parent : Trail} {name : Octets}

/-- The names of a trail of a disk stand for what is at its end. -/
theorem HasTrail.at?_names (h : disk.HasTrail trail) :
    disk.at? trail.names = some (disk.current trail) := by
  induction h with
  | root => rfl
  | into above hchild _ ih =>
    rw [at?] at ih ⊢
    rw [Trail.names_cons, Entry.at?_append, ih, Option.bind_some, Entry.at?_cons, hchild]
    rfl

/-- A file that is set in a directory, in place of no directory, is there. All other names stand for
what they stood for. -/
theorem shell_at?_set (hparent : disk.HasTrail parent) (hdir : (disk.current parent).isDir)
    (hold : ∀ e, (disk.current parent).child? name = some e → e.isDir = false) (content : Octets) :
    let result := disk.set (parent.names ++ [name]) (some (.file content))
    result.at? (parent.names ++ [name]) = some (.file content) ∧
      ∀ names ≠ parent.names ++ [name],
        (result.at? names).map Entry.shell = (disk.at? names).map Entry.shell := by
  have hat := hparent.at?_names
  cases hcurrent : disk.current parent with
  | dir inner =>
    rw [hcurrent] at hat hold
    exact ⟨at?_setAt_self hat, fun names hne ↦ shell_at?_setAt rfl hat hold hne⟩
  | file => simp [hcurrent, Entry.isDir] at hdir
  | link => simp [hcurrent, Entry.isDir] at hdir

/-- Whether a place is under a name in a directory, and what is under this name is found there. -/
def Place.IsInside (disk : Disk) (place : Place) : Prop :=
  ∃ parent name, place.names = parent.names ++ [name] ∧ disk.HasTrail parent ∧
    (disk.current parent).isDir ∧ ∀ e, (disk.current parent).child? name = some e →
      ∃ left, place = .found ((name, e) :: parent) left

/-- A walk from the root ends there or in a directory. -/
theorem isInside_of_walk {links : Nat} {moves : List DiskPath.Step} {place : Place}
    (h : disk.walk links moves [] = .ok place) :
    (∃ left, place = .found [] left) ∨ place.IsInside disk := by
  refine place_induct (P := disk.HasTrail)
    (Q := fun place ↦ (∃ left, place = .found [] left) ∨ place.IsInside disk)
    .root (fun _ ↦ HasTrail.drop_one) (fun _ _ _ ↦ HasTrail.into) (fun trail left htrail ↦ ?_)
    (fun parent name hparent hdir hchild ↦ .inr ⟨parent, name, rfl, hparent, hdir, ?_⟩) .root h
  · cases htrail with
    | root => exact .inl ⟨left, rfl⟩
    | @into parent name entry hparent hchild _ =>
      refine .inr ⟨parent, name, Trail.names_cons name entry parent, hparent,
        Entry.isDir_of_child? hchild, fun e he ↦ ⟨left, ?_⟩⟩
      rw [Option.some.inj (hchild.symm.trans he)]
  · intro e he
    cases hchild.symm.trans he

/-- **Writing a file.** Where a file was opened, there is what its device has taken. All other names
stand for what they stood for. -/
theorem shell_at?_write {workingDir p : DiskPath} {names : List Octets} {opened : Disk}
    (h : disk.openFile workingDir p = .ok (names, opened)) (content : Octets) (device : Device) :
    let result := (disk.write workingDir p content device).2
    result.at? names = some (.file (device.take content).1) ∧
      ∀ other ≠ names,
        (result.at? other).map Entry.shell = (disk.at? other).map Entry.shell := by
  obtain ⟨place, hlocate, rfl, rfl, hfile⟩ := place_of_openFile h
  rw [write_of_openFile_ok h, set_set]
  rcases isInside_of_walk (walk_of_locate hlocate) with
    ⟨left, rfl⟩ | ⟨parent, name, hnames, hparent, hdir, hchild⟩
  · cases hfile [] left rfl
  · rw [hnames]
    refine shell_at?_set hparent hdir (fun e he ↦ ?_) _
    obtain ⟨left, hplace⟩ := hchild e he
    exact hfile _ left hplace

/-! ### What a device takes -/

/-- A device without a limit takes everything. -/
@[simp] theorem Device.take_default (content : Octets) :
    Device.take {} content = (content, .ok ()) := rfl

/-- Where no fault is reported, everything was taken. -/
theorem Device.take_of_ok {device : Device} {content : Octets}
    (h : (device.take content).2 = .ok ()) : (device.take content).1 = content := by
  rw [take] at h ⊢
  split at h
  · rfl
  · split at h
    · next hsize => simp [hsize]
    · cases h

/-- Where a fault is reported, a proper initial piece was taken. -/
theorem Device.take_of_error {device : Device} {content : Octets} {fault : DiskFault}
    (h : (device.take content).2 = .error fault) :
    ∃ count < content.size, device.refusal = some (count, fault) ∧
      (device.take content).1 = content.take count := by
  rw [take] at h ⊢
  split at h
  · cases h
  · next count cause hrefusal =>
    split at h
    · cases h
    · next hsize =>
      cases h
      exact ⟨count, Nat.lt_of_not_le hsize, hrefusal, by simp [hsize]⟩

end Write

end Disk

end PageRoutes
