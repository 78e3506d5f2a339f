import Mathlib.Data.List.Nodup
import PageRoutes.Disk
/-!
# Where moves lead on a disk

Following moves in two parts, one after the other, leads to the same place as following all of them.
For the rest of a disk this makes the place that a list of names leads to a function of the place
that the first name leads to.

A disk of the type `Disk` may hold entries that no file system holds: a name with a slash in it, the
name `..`, or one name twice in a directory. `Disk.isProper` says that there are none; the changes
of a disk keep it so. On a proper disk the trail to whatever is reached passes proper directories
and files only, and an entry of a directory is the one that its name leads to.

## Main definitions

* `Entry.isProper`, `Disk.isProper` : entries and disks that a file system can hold.
* `Disk.reach` : the place that moves lead to.
* `Disk.Trail.IsSound` : the trail passes no link and nothing improper.

## Main results

* `Disk.reach_append` : moves followed in two parts.
* `Disk.place_induct`, `Disk.walk_induct` : what holds where a walk ends.
* `Disk.isSound_of_walk`, `Disk.isSound_of_reach` : walks on a proper disk end on sound trails.
-/

namespace PageRoutes

/-- Whether a file system can give a name to an entry of a directory. -/
def Octets.isFileName : Octets → Bool
  | .text s => s ≠ "" && s ≠ "." && s ≠ ".." && !s.toList.contains '/'
  | .raw _ _ => true

namespace Entry

/-- An induction over entries in which a directory comes after its entries. -/
theorem induct {P : Entry → Prop} (file : ∀ content, P (.file content))
    (link : ∀ target, P (.link target))
    (dir : ∀ entries, (∀ r ∈ entries, P r.2) → P (.dir entries)) (e : Entry) : P e :=
  Entry.rec (motive_2 := fun entries ↦ ∀ r ∈ entries, P r.2) (motive_3 := fun r ↦ P r.2)
    file link dir (fun _ h ↦ nomatch h)
    (fun _ _ hr hrest ↦ List.forall_mem_cons.mpr ⟨hr, hrest⟩) (fun _ _ h ↦ h) e

mutual

/-- Whether a file system can hold an entry: the names inside it are file names, and no directory
has a name twice. -/
def isProper : Entry → Bool
  | .dir entries => (entries.map Prod.fst).Nodup && allProper entries
  | .file _ => true
  | .link _ => true

/-- `isProper` for all entries of a directory, with file names as their names. -/
def allProper : List (Octets × Entry) → Bool
  | [] => true
  | (name, e) :: rest => name.isFileName && e.isProper && allProper rest

end

theorem allProper_iff {entries : List (Octets × Entry)} :
    allProper entries ↔ ∀ r ∈ entries, r.1.isFileName ∧ r.2.isProper := by
  induction entries with
  | nil => simp [allProper]
  | cons r rest ih => simp [allProper, ih]

/-- What is in a proper entry has a file name and is proper. -/
theorem isProper_mem {e : Entry} (he : e.isProper) {r : Octets × Entry} (hr : r ∈ e.entries) :
    r.1.isFileName ∧ r.2.isProper := by
  cases e with
  | dir entries =>
    simp only [isProper, Bool.and_eq_true] at he
    exact allProper_iff.mp he.2 r hr
  | file => simp [entries] at hr
  | link => simp [entries] at hr

theorem nodup_of_isProper {e : Entry} (he : e.isProper) : (e.entries.map Prod.fst).Nodup := by
  cases e with
  | dir entries =>
    simp only [isProper, Bool.and_eq_true, decide_eq_true_eq] at he
    exact he.1
  | file => simp [entries]
  | link => simp [entries]

theorem mem_of_child? {name : Octets} {e inner : Entry} (h : e.child? name = some inner) :
    (name, inner) ∈ e.entries := by
  obtain ⟨⟨n, i⟩, hfind, rfl⟩ := Option.map_eq_some_iff.mp h
  have hn : n = name := by simpa using List.find?_some hfind
  exact hn ▸ List.mem_of_find?_eq_some hfind

theorem isDir_of_child? {name : Octets} {e inner : Entry} (h : e.child? name = some inner) :
    e.isDir := by
  cases e with
  | dir => rfl
  | file => cases h
  | link => cases h

/-- In a proper entry a name leads to the only entry that has it. -/
theorem child?_eq_some_iff {name : Octets} {e inner : Entry} (he : e.isProper) :
    e.child? name = some inner ↔ (name, inner) ∈ e.entries := by
  refine ⟨mem_of_child?, fun h ↦ ?_⟩
  obtain ⟨found, hfound⟩ : ∃ found, e.child? name = some found := by
    cases hc : e.child? name with
    | some found => exact ⟨found, rfl⟩
    | none =>
      simp only [child?, Option.map_eq_none_iff, List.find?_eq_none, decide_eq_true_eq] at hc
      exact absurd rfl (hc _ h)
  have hpair : (name, found) = (name, inner) :=
    List.inj_on_of_nodup_map (nodup_of_isProper he) (mem_of_child? hfound) h rfl
  rw [hfound, (Prod.mk.inj hpair).2]

end Entry

/-- Whether a file system can hold what is on a disk. -/
def Disk.isProper (disk : Disk) : Bool := (Entry.dir disk.entries).isProper

namespace Disk

/-- A trail on which no link stands and all that was passed is proper and has a file name. -/
def Trail.IsSound (t : Trail) : Prop :=
  ∀ r ∈ t, r.1.isFileName ∧ r.2.isProper ∧ (r.2.isDir ∨ r.2.isFile)

theorem isProper_current {disk : Disk} (hd : disk.isProper) {t : Trail} (ht : t.IsSound) :
    (disk.current t).isProper := by
  cases t with
  | nil => exact hd
  | cons r t => exact (ht r List.mem_cons_self).2.1

/-- What stands at the end of a sound trail is a directory or a file. -/
theorem isDir_or_isFile_current (disk : Disk) {t : Trail} (ht : t.IsSound) :
    (disk.current t).isDir ∨ (disk.current t).isFile := by
  cases t with
  | nil => exact .inl rfl
  | cons r t => exact (ht r List.mem_cons_self).2.2

/-! ### Single moves -/

section Moves

attribute [local simp] walk walkWith

variable {disk : Disk} {trail : Trail} {links : Nat} {rest : List DiskPath.Step}

@[simp] theorem walk_nil (disk : Disk) (links : Nat) (trail : Trail) :
    disk.walk links [] trail = .ok (.found trail links) := by
  cases links <;> rfl

/-- No move leads on from a file. -/
theorem walk_of_not_isDir (h : (disk.current trail).isDir = false) (step : DiskPath.Step) :
    disk.walk links (step :: rest) trail = .error .notDirectory := by
  cases links <;> cases step <;> simp [h]

theorem walk_stay (h : (disk.current trail).isDir) :
    disk.walk links (.stay :: rest) trail = disk.walk links rest trail := by
  cases links <;> simp [h]

theorem walk_up (h : (disk.current trail).isDir) :
    disk.walk links (.up :: rest) trail = disk.walk links rest (trail.drop 1) := by
  cases links <;> simp [h]

/-- A free name ends a walk. -/
theorem walk_free {name : Octets} (hdir : (disk.current trail).isDir)
    (h : (disk.current trail).child? name = none) :
    disk.walk links (.enter name :: rest) trail =
      if rest.isEmpty then .ok (.vacant trail name) else .error .notFound := by
  cases links <;> simp [h, hdir]

/-- The name of a file or directory leads to it. -/
theorem walk_enter {name : Octets} {e : Entry} (h : (disk.current trail).child? name = some e)
    (hlink : ∀ target, e ≠ .link target) :
    disk.walk links (.enter name :: rest) trail = disk.walk links rest ((name, e) :: trail) := by
  have hdir := Entry.isDir_of_child? h
  cases e with
  | link target => exact absurd rfl (hlink target)
  | file content => cases links <;> simp [h, hdir]
  | dir entries => cases links <;> simp [h, hdir]

theorem walk_link_zero {name : Octets} {target : DiskPath}
    (h : (disk.current trail).child? name = some (.link target)) :
    disk.walk 0 (.enter name :: rest) trail =
      .error (if target.text.isEmpty then .notFound else .tooManyLinks) := by
  by_cases ht : target.text = "" <;> simp [h, Entry.isDir_of_child? h, ht]

/-- The name of a link leads where its target and the moves behind the name lead, with one link
less. -/
theorem walk_link_succ {name : Octets} {target : DiskPath}
    (h : (disk.current trail).child? name = some (.link target)) :
    disk.walk (links + 1) (.enter name :: rest) trail =
      if target.text.isEmpty then .error .notFound
      else disk.walk links (target.steps ++ rest) (if target.isAbsolute then [] else trail) := by
  by_cases ht : target.text = "" <;> simp [h, Entry.isDir_of_child? h, ht]

end Moves

/-! ### Moves one after the other -/

/-- What a walk has found, with the links that are left; nothing if it failed or ended at a free
name. -/
def Place.found? : Except DiskFault Place → Option (Trail × Nat)
  | .ok (.found trail left) => some (trail, left)
  | _ => none

/-- The place that moves lead to from a place, if there is something. -/
def reach (disk : Disk) (moves : List DiskPath.Step) (start : Trail × Nat) :
    Option (Trail × Nat) :=
  Place.found? (disk.walk start.2 moves start.1)

/-- What a walk reaches is what it finds there. -/
theorem reach_eq_some_iff {disk : Disk} {moves : List DiskPath.Step} {trail : Trail} {links : Nat}
    {place : Trail × Nat} :
    disk.reach moves (trail, links) = some place ↔
      (disk.walk links moves trail >>= Place.existing) = .ok place := by
  rw [reach]
  rcases disk.walk links moves trail with _ | ⟨_, _⟩ | ⟨_, _⟩ <;>
    simp [Place.found?, Place.existing, bind, Except.bind]

/-- A walk that reaches something ends there. -/
theorem walk_eq_found_iff {disk : Disk} {moves : List DiskPath.Step} {trail next : Trail}
    {links left : Nat} :
    disk.walk links moves trail = .ok (.found next left) ↔
      disk.reach moves (trail, links) = some (next, left) := by
  rw [reach]
  rcases disk.walk links moves trail with _ | ⟨_, _⟩ | ⟨_, _⟩ <;> simp [Place.found?]

@[simp] theorem reach_nil (disk : Disk) (start : Trail × Nat) :
    disk.reach [] start = some start := by
  rw [reach, walk_nil]
  rfl

section Reach

variable {disk : Disk} {trail : Trail} {links : Nat} {rest : List DiskPath.Step}

theorem reach_of_not_isDir (h : (disk.current trail).isDir = false) (step : DiskPath.Step) :
    disk.reach (step :: rest) (trail, links) = none := by
  rw [reach, walk_of_not_isDir h]
  rfl

/-- Only from a directory does a move lead on. -/
theorem isDir_of_reach {step : DiskPath.Step} {start place : Trail × Nat}
    (h : disk.reach (step :: rest) start = some place) : (disk.current start.1).isDir := by
  by_contra hdir
  rw [reach_of_not_isDir (by simpa using hdir)] at h
  cases h

theorem reach_stay (h : (disk.current trail).isDir) :
    disk.reach (.stay :: rest) (trail, links) = disk.reach rest (trail, links) := by
  rw [reach, walk_stay h]
  rfl

theorem reach_up (h : (disk.current trail).isDir) :
    disk.reach (.up :: rest) (trail, links) = disk.reach rest (trail.drop 1, links) := by
  rw [reach, walk_up h]
  rfl

/-- A free name leads nowhere. -/
theorem reach_free {name : Octets} (h : (disk.current trail).child? name = none) :
    disk.reach (.enter name :: rest) (trail, links) = none := by
  cases hdir : (disk.current trail).isDir with
  | false => exact reach_of_not_isDir hdir _
  | true =>
    rw [reach, walk_free hdir h]
    split <;> rfl

theorem reach_enter {name : Octets} {e : Entry} (h : (disk.current trail).child? name = some e)
    (hlink : ∀ target, e ≠ .link target) :
    disk.reach (.enter name :: rest) (trail, links) =
      disk.reach rest ((name, e) :: trail, links) := by
  rw [reach, walk_enter h hlink]
  rfl

theorem reach_link_zero {name : Octets} {target : DiskPath}
    (h : (disk.current trail).child? name = some (.link target)) :
    disk.reach (.enter name :: rest) (trail, 0) = none := by
  rw [reach, walk_link_zero h]
  rfl

theorem reach_link_succ {name : Octets} {target : DiskPath}
    (h : (disk.current trail).child? name = some (.link target)) :
    disk.reach (.enter name :: rest) (trail, links + 1) =
      if target.text.isEmpty then none
      else disk.reach (target.steps ++ rest) (if target.isAbsolute then [] else trail, links) := by
  rw [reach, walk_link_succ h]
  split <;> rfl

end Reach

/-- **Moves in two parts.** Following moves leads to where the second part of them leads from the
place that the first part leads to. -/
theorem reach_append (disk : Disk) (a b : List DiskPath.Step) (start : Trail × Nat) :
    disk.reach (a ++ b) start = (disk.reach a start).bind (disk.reach b) := by
  obtain ⟨trail, links⟩ := start
  -- Crossing a link spends one of the links and may put any moves in front of the others.
  induction links using Nat.strongRecOn generalizing a trail with
  | ind links ihLinks =>
    induction a generalizing trail with
    | nil => simp
    | cons step rest ih =>
      rw [List.cons_append]
      cases hdir : (disk.current trail).isDir with
      | false => simp [reach_of_not_isDir hdir]
      | true =>
        cases step with
        | stay => rw [reach_stay hdir, reach_stay hdir, ih]
        | up => rw [reach_up hdir, reach_up hdir, ih]
        | enter name =>
          cases hchild : (disk.current trail).child? name with
          | none => simp [reach_free hchild]
          | some e =>
            cases e with
            | file => rw [reach_enter hchild nofun, reach_enter hchild nofun, ih]
            | dir => rw [reach_enter hchild nofun, reach_enter hchild nofun, ih]
            | link target =>
              cases links with
              | zero => simp [reach_link_zero hchild]
              | succ links =>
                rw [reach_link_succ hchild, reach_link_succ hchild]
                split
                · rfl
                · rw [← List.append_assoc, ihLinks links (Nat.lt_succ_self links)]

theorem reach_cons (disk : Disk) (step : DiskPath.Step) (rest : List DiskPath.Step)
    (start : Trail × Nat) :
    disk.reach (step :: rest) start = (disk.reach [step] start).bind (disk.reach rest) :=
  disk.reach_append [step] rest start

/-- The trail on which a walk has ended, in front of the free name if there was one. -/
def Place.trail : Place → Trail
  | .found trail _ => trail
  | .vacant parent _ => parent

/-- **What following moves keeps.** A property of trails that holds at the root, on the way up and
on the way into whatever is no link holds wherever a walk ends: at something that is there, or at a
free name in a directory. -/
theorem place_induct {disk : Disk} {P : Trail → Prop} {Q : Place → Prop} (root : P [])
    (up : ∀ t, P t → P (t.drop 1))
    (into : ∀ t name e, P t → (disk.current t).child? name = some e → (∀ target, e ≠ .link target) →
      P ((name, e) :: t))
    (found : ∀ t left, P t → Q (.found t left))
    (vacant : ∀ t name, P t → (disk.current t).isDir → (disk.current t).child? name = none →
      Q (.vacant t name))
    {links : Nat} {moves : List DiskPath.Step} {trail : Trail} {place : Place} (hstart : P trail)
    (h : disk.walk links moves trail = .ok place) : Q place := by
  induction links using Nat.strongRecOn generalizing moves trail with
  | ind links ihLinks =>
    induction moves generalizing trail with
    | nil =>
      rw [walk_nil, Except.ok.injEq] at h
      exact h ▸ found trail links hstart
    | cons step rest ih =>
      cases hdir : (disk.current trail).isDir with
      | false => simp [walk_of_not_isDir hdir] at h
      | true =>
        cases step with
        | stay => exact ih hstart (walk_stay hdir ▸ h)
        | up => exact ih (up trail hstart) (walk_up hdir ▸ h)
        | enter name =>
          cases hchild : (disk.current trail).child? name with
          | none =>
            rw [walk_free hdir hchild] at h
            split at h
            · exact Except.ok.inj h ▸ vacant trail name hstart hdir hchild
            · cases h
          | some e =>
            cases e with
            | file => exact ih (into trail name _ hstart hchild nofun) (walk_enter hchild nofun ▸ h)
            | dir => exact ih (into trail name _ hstart hchild nofun) (walk_enter hchild nofun ▸ h)
            | link target =>
              cases links with
              | zero => simp [walk_link_zero hchild] at h
              | succ links =>
                rw [walk_link_succ hchild] at h
                split at h
                · cases h
                · refine ihLinks links (Nat.lt_succ_self links) ?_ h
                  split
                  · exact root
                  · exact hstart

/-- A property of trails that is kept so holds of the trail on which a walk ends. -/
theorem walk_induct {disk : Disk} {P : Trail → Prop} (root : P [])
    (up : ∀ t, P t → P (t.drop 1))
    (into : ∀ t name e, P t → (disk.current t).child? name = some e → (∀ target, e ≠ .link target) →
      P ((name, e) :: t))
    {links : Nat} {moves : List DiskPath.Step} {trail : Trail} {place : Place} (hstart : P trail)
    (h : disk.walk links moves trail = .ok place) : P place.trail :=
  place_induct (Q := fun place ↦ P place.trail) root up into (fun _ _ ht ↦ ht)
    (fun _ _ ht _ _ ↦ ht) hstart h

/-- The trail on which a walk from a sound trail ends on a proper disk is sound. -/
theorem isSound_of_walk {disk : Disk} (hd : disk.isProper) {links : Nat}
    {moves : List DiskPath.Step} {trail : Trail} {place : Place} (hstart : trail.IsSound)
    (h : disk.walk links moves trail = .ok place) : place.trail.IsSound := by
  refine walk_induct (P := Trail.IsSound) nofun ?_ ?_ hstart h
  · intro t ht r hr
    exact ht r (List.mem_of_mem_drop hr)
  · intro t name e ht hchild hlink
    obtain ⟨hname, he⟩ :=
      Entry.isProper_mem (isProper_current hd ht) (Entry.mem_of_child? hchild)
    refine List.forall_mem_cons.mpr ⟨⟨hname, he, ?_⟩, ht⟩
    cases e with
    | file => exact .inr rfl
    | dir => exact .inl rfl
    | link target => exact absurd rfl (hlink target)

/-- What is reached on a proper disk from a sound trail has a sound trail. -/
theorem isSound_of_reach {disk : Disk} (hd : disk.isProper) {moves : List DiskPath.Step}
    {start place : Trail × Nat} (hstart : start.1.IsSound)
    (h : disk.reach moves start = some place) : place.1.IsSound := by
  simp only [reach, Place.found?] at h
  split at h
  · next trail left hwalk =>
    obtain rfl := Option.some.inj h
    exact isSound_of_walk hd hstart hwalk
  · cases h

/-- What a path leads to on a proper disk has a sound trail. -/
theorem isSound_of_find {disk : Disk} (hd : disk.isProper) {workingDir p : DiskPath}
    {place : Trail × Nat} (h : disk.find workingDir p = .ok place) : place.1.IsSound := by
  rw [find, locate] at h
  split at h
  · cases h
  · have hroot : Trail.IsSound ([], linkLimit).1 := nofun
    exact isSound_of_reach hd hroot (reach_eq_some_iff.mpr h)

end Disk

end PageRoutes
