import PageRoutes.Proofs.Disk.Cycles
import PageRoutes.Proofs.Scan.Names
import PageRoutes.Proofs.Scan.Order
/-!
# What can be wrong below a directory

What can go wrong in a scan is said here of the disk alone, without scanning: at which entries of
which directories there is something wrong, and what it is. An entry that leads nowhere is a fault,
whatever its name, and so is metadata beside a folder or page that cannot be read.

A computation that meets faults one after the other fails with the first of them. `Scan.Reports`
says this of a computation and the faults at positions that it looks at, and is kept when
computations follow one another in the order of these positions.

## Main definitions

* `Scan.SidecarFault` : what is wrong with the metadata beside a page or folder.
* `Scan.EntryFault` : what is wrong at an entry of a directory.
* `Scan.FaultAt` : what is wrong at an entry of a directory that names lead to.
* `Scan.IsFirst` : the first one of faults at positions.
* `Scan.Reports` : a computation fails with the first of faults, and only if there are any.

## Main results

* `Scan.sidecar_eq_error_iff` : when metadata cannot be read.
* `Scan.faultAt_cons_iff` : faults below a directory are at its entries or below them.
* `Scan.Reports.bind` : faults of two computations, one after the other.
-/

namespace PageRoutes

namespace Scan

/-! ### Faults on a disk -/

/-- What is wrong with the metadata beside what has a name in the directory at a spot: a file is
there, but it is no text, or the text is no JSON. -/
inductive SidecarFault (disk : Disk) (spot : Spot) (name : String) : Fault → Prop
  | notText {place content}
    (hplace : disk.reach (DiskPath.steps ⟨Segment.normalize name ++ metadataSuffix⟩) spot.place =
      some place)
    (hfile : disk.current place.1 = .file content) (htext : content.text? = none) :
    SidecarFault disk spot name
      (.disk (spot.path.join ⟨Segment.normalize name ++ metadataSuffix⟩) .notText)
  | malformed {place content text cause}
    (hplace : disk.reach (DiskPath.steps ⟨Segment.normalize name ++ metadataSuffix⟩) spot.place =
      some place)
    (hfile : disk.current place.1 = .file content) (htext : content.text? = some text)
    (hjson : Json.parse text = .error cause) :
    SidecarFault disk spot name
      (.metadata (spot.path.join ⟨Segment.normalize name ++ metadataSuffix⟩) cause)

/-- What is wrong at the entry with a name in the directory at a spot. -/
inductive EntryFault (disk : Disk) (spot : Spot) : Octets → Fault → Prop
  /-- The entry leads nowhere. -/
  | unresolved {name entry cause} (hentry : (name, entry) ∈ spot.entries disk)
    (hcause : (disk.walk spot.linksLeft [.enter name] spot.trail >>= Disk.Place.existing) =
      .error cause) :
    EntryFault disk spot name (.walk spot.path (.entry (showEntry spot.path name) cause))
  /-- The entry leads to a directory with unreadable metadata beside it. -/
  | folder {dirName place fault}
    (hplace : disk.reach [.enter (.text dirName)] spot.place = some place)
    (hdir : (disk.current place.1).isDir) (hfault : SidecarFault disk spot dirName fault) :
    EntryFault disk spot (.text dirName) fault
  /-- The entry leads to a page file with unreadable metadata beside it. -/
  | page {stem place fault}
    (hplace : disk.reach [.enter (.text (pageFile stem))] spot.place = some place)
    (hfile : (disk.current place.1).isFile) (hstem : stem ≠ "")
    (hfault : SidecarFault disk spot stem fault) :
    EntryFault disk spot (.text (pageFile stem)) fault

/-- The spot that names lead to, at a place. -/
def Spot.below (spot : Spot) (dirs : List String) (place : Disk.Trail × Nat) : Spot :=
  ⟨spot.path.below dirs, place.1, place.2⟩

/-- What is wrong at a position below a spot: at an entry of a directory that names lead to, links
followed. -/
def FaultAt (disk : Disk) (spot : Spot) (position : List Octets) (fault : Fault) : Prop :=
  ∃ dirs name place, position = dirs.map .text ++ [name] ∧
    disk.reach (DiskPath.entering dirs) spot.place = some place ∧
    EntryFault disk (spot.below dirs place) name fault

/-- The first one of faults at positions: all others are at positions that come later. -/
def IsFirst (faults : List Octets → Fault → Prop) (fault : Fault) : Prop :=
  ∃ position, faults position fault ∧
    ∀ p other, faults p other → p = position ∧ other = fault ∨ Precedes position p

theorem IsFirst.unique {faults : List Octets → Fault → Prop} {a b : Fault} (ha : IsFirst faults a)
    (hb : IsFirst faults b) : a = b := by
  obtain ⟨p, hp, hpfirst⟩ := ha
  obtain ⟨q, hq, hqfirst⟩ := hb
  rcases hpfirst q b hq with ⟨-, heq⟩ | hpq
  · exact heq.symm
  · rcases hqfirst p a hp with ⟨-, heq⟩ | hqp
    · exact heq
    · exact absurd hqp hpq.asymm

/-! ### Computations that report faults -/

section Reports

variable {α β : Type} {faults later : List Octets → Fault → Prop}

/-- Whether a computation fails with the first of faults at positions, and only if there are any. -/
def Reports (faults : List Octets → Fault → Prop) : Except Fault α → Prop
  | .ok _ => ∀ p fault, ¬faults p fault
  | .error fault => IsFirst faults fault

theorem Reports.ok_iff {result : Except Fault α} (h : Reports faults result) :
    (∃ a, result = .ok a) ↔ ∀ p fault, ¬faults p fault := by
  cases result with
  | ok a => exact iff_of_true ⟨a, rfl⟩ h
  | error fault =>
    obtain ⟨p, hp, -⟩ := h
    exact iff_of_false nofun fun hnone ↦ hnone p fault hp

theorem Reports.error_iff {result : Except Fault α} (h : Reports faults result) {fault : Fault} :
    result = .error fault ↔ IsFirst faults fault := by
  cases result with
  | ok a =>
    refine iff_of_false nofun ?_
    rintro ⟨p, hp, -⟩
    exact h p fault hp
  | error reported =>
    refine ⟨fun heq ↦ ?_, fun hfirst ↦ congrArg _ (IsFirst.unique h hfirst)⟩
    cases heq
    exact h

theorem Reports.congr {result : Except Fault α} (h : Reports faults result)
    (hiff : ∀ p fault, faults p fault ↔ later p fault) : Reports later result := by
  obtain rfl : faults = later := funext₂ fun p fault ↦ propext (hiff p fault)
  exact h

theorem Reports.map {result : Except Fault α} (h : Reports faults result) (f : α → β) :
    Reports faults (result.map f) := by
  cases result with
  | ok a => exact h
  | error fault => exact h

/-- Faults of one computation and then of another one, at positions that come later. -/
theorem Reports.bind {first : Except Fault α} {next : α → Except Fault β}
    (hfirst : Reports faults first) (hnext : ∀ a, Reports later (next a))
    (horder : ∀ p fault q other, faults p fault → later q other → Precedes p q) :
    Reports (fun p fault ↦ faults p fault ∨ later p fault) (first >>= next) := by
  cases first with
  | ok a => exact (hnext a).congr fun p fault ↦ (or_iff_right (hfirst p fault)).symm
  | error fault =>
    obtain ⟨p, hp, hleast⟩ := hfirst
    refine ⟨p, .inl hp, fun q other hother ↦ ?_⟩
    rcases hother with hq | hq
    · exact hleast q other hq
    · exact .inr (horder p fault q other hp hq)

/-- The same faults at positions under a name. -/
theorem Reports.under {result : Except Fault α} (h : Reports faults result) (name : Octets) :
    Reports (fun p fault ↦ ∃ rest, p = name :: rest ∧ faults rest fault) result := by
  cases result with
  | ok a =>
    rintro _ fault ⟨rest, rfl, hrest⟩
    exact h rest fault hrest
  | error fault =>
    obtain ⟨p, hp, hleast⟩ := h
    refine ⟨name :: p, ⟨p, rfl, hp⟩, ?_⟩
    rintro _ other ⟨rest, rfl, hrest⟩
    rcases hleast rest other hrest with ⟨rfl, rfl⟩ | hprec
    · exact .inl ⟨rfl, rfl⟩
    · exact .inr (.under name hprec)

/-- A computation that fails with the only fault that there can be, at one position. -/
theorem reports_of_error_iff {result : Except Fault α} {position : List Octets}
    {own : Fault → Prop} (h : ∀ fault, result = .error fault ↔ own fault) :
    Reports (fun p fault ↦ p = position ∧ own fault) result := by
  cases result with
  | ok a =>
    rintro p fault ⟨-, hfault⟩
    exact nomatch (h fault).mpr hfault
  | error fault =>
    refine ⟨position, ⟨rfl, (h fault).mp rfl⟩, ?_⟩
    rintro p other ⟨rfl, hother⟩
    exact .inl ⟨rfl, (Except.error.inj ((h other).mpr hother)).symm⟩

/-- What is made of a result fails where the result does. -/
theorem bind_ok_eq_error_iff {result : Except Fault α} {f : α → β} {fault : Fault} :
    (result >>= fun a ↦ .ok (f a)) = .error fault ↔ result = .error fault := by
  cases result with
  | ok a => exact iff_of_false nofun nofun
  | error cause =>
    exact ⟨fun h ↦ congrArg _ (Except.error.inj h), fun h ↦ congrArg _ (Except.error.inj h)⟩

end Reports

/-! ### Faults at single entries -/

section Entries

variable {disk : Disk} {spot : Spot} {fault : Fault}

/-- The metadata beside a name is unreadable exactly for what is wrong with it. -/
theorem sidecar_eq_error_iff {name : String} :
    sidecar disk spot (Segment.normalize name) = .error fault ↔
      SidecarFault disk spot name fault := by
  constructor
  · intro h
    simp only [sidecar] at h
    split at h
    · next trail left hwalk =>
      have hplace := Disk.walk_eq_found_iff.mp hwalk
      cases hcurrent : disk.current trail with
      | dir entries => simp [hcurrent, Entry.isFile] at h
      | link target => simp [hcurrent, Entry.isFile] at h
      | file content =>
        cases htext : content.text? with
        | none =>
          simp only [hcurrent, Entry.isFile, Disk.textOf, htext, if_true, Except.error.injEq] at h
          exact h ▸ .notText hplace hcurrent htext
        | some text =>
          cases hjson : Json.parse text with
          | error cause =>
            simp only [hcurrent, Entry.isFile, Disk.textOf, htext, hjson, if_true,
              Except.error.injEq] at h
            exact h ▸ .malformed hplace hcurrent htext hjson
          | ok value => simp [hcurrent, Entry.isFile, Disk.textOf, htext, hjson] at h
    · cases h
  · intro h
    cases h with
    | notText hplace hfile htext =>
      simp [sidecar, Disk.walk_eq_found_iff.mpr hplace, hfile, Entry.isFile, Disk.textOf, htext]
    | malformed hplace hfile htext hjson =>
      simp [sidecar, Disk.walk_eq_found_iff.mpr hplace, hfile, Entry.isFile, Disk.textOf, htext,
        hjson]

/-- An entry that leads somewhere is no dead end. -/
theorem not_unresolved {name : Octets} {place : Disk.Trail × Nat} {cause : DiskFault}
    (hplace : disk.reach [.enter name] spot.place = some place)
    (hcause : (disk.walk spot.linksLeft [.enter name] spot.trail >>= Disk.Place.existing) =
      .error cause) : False := by
  have hok := Disk.reach_eq_some_iff.mp hplace
  exact nomatch hcause.symm.trans hok

/-- At an entry that leads to a directory only the metadata beside it can be wrong. -/
theorem entryFault_iff_of_isDir {dirName : String} {place : Disk.Trail × Nat}
    (hplace : disk.reach [.enter (.text dirName)] spot.place = some place)
    (hdir : (disk.current place.1).isDir) :
    EntryFault disk spot (.text dirName) fault ↔ SidecarFault disk spot dirName fault := by
  refine ⟨fun h ↦ ?_, .folder hplace hdir⟩
  cases h with
  | unresolved _ hcause => exact (not_unresolved hplace hcause).elim
  | folder _ _ hfault => exact hfault
  | page hplace' hfile _ _ =>
    obtain rfl := Option.some.inj (hplace.symm.trans hplace')
    cases hcurrent : disk.current place.1 <;> simp_all [Entry.isDir, Entry.isFile]

/-- At an entry that leads to a file only the metadata beside it can be wrong, if it is a page. -/
theorem entryFault_iff_of_isFile {fileName : String} {place : Disk.Trail × Nat}
    (hplace : disk.reach [.enter (.text fileName)] spot.place = some place)
    (hfile : (disk.current place.1).isFile) :
    EntryFault disk spot (.text fileName) fault ↔
      ∃ stem, DiskPath.splitExtension fileName = (stem, some pageExtension) ∧
        SidecarFault disk spot stem fault := by
  constructor
  · intro h
    cases h with
    | unresolved _ hcause => exact (not_unresolved hplace hcause).elim
    | folder hplace' hdir _ =>
      obtain rfl := Option.some.inj (hplace.symm.trans hplace')
      cases hcurrent : disk.current place.1 <;> simp_all [Entry.isDir, Entry.isFile]
    | page _ _ hstem hfault => exact ⟨_, splitExtension_eq_page_iff.mpr ⟨rfl, hstem⟩, hfault⟩
  · rintro ⟨stem, hsplit, hfault⟩
    obtain ⟨rfl, hstem⟩ := splitExtension_eq_page_iff.mp hsplit
    exact .page hplace hfile hstem hfault

/-- At an entry whose name is no text nothing is wrong if it leads somewhere. -/
theorem not_entryFault_raw {bytes : ByteArray} {hbytes : String.fromUTF8? bytes = none}
    {place : Disk.Trail × Nat}
    (hplace : disk.reach [.enter (.raw bytes hbytes)] spot.place = some place) :
    ¬EntryFault disk spot (.raw bytes hbytes) fault := by
  intro h
  cases h with
  | unresolved _ hcause => exact not_unresolved hplace hcause

/-! ### Faults under a name -/

/-- Faults below a spot come from an entry there, or from inside one. -/
theorem faultAt_cons_iff {name : Octets} {rest : List Octets} :
    FaultAt disk spot (name :: rest) fault ↔
      rest = [] ∧ EntryFault disk spot name fault ∨
      ∃ s place, name = .text s ∧ disk.reach [.enter (.text s)] spot.place = some place ∧
        FaultAt disk (spot.below [s] place) rest fault := by
  constructor
  · rintro ⟨dirs, last, place, hposition, hreach, hfault⟩
    cases dirs with
    | nil =>
      obtain ⟨rfl, rfl⟩ := List.cons.inj hposition
      obtain rfl := Option.some.inj ((disk.reach_nil spot.place).symm.trans hreach)
      exact .inl ⟨rfl, hfault⟩
    | cons s dirs =>
      obtain ⟨rfl, rfl⟩ := List.cons.inj hposition
      rw [DiskPath.entering, List.map_cons, Disk.reach_cons] at hreach
      obtain ⟨next, hnext, hrest⟩ := Option.bind_eq_some_iff.mp hreach
      exact .inr ⟨s, next, rfl, hnext, dirs, last, place, rfl, hrest, hfault⟩
  · rintro (⟨rfl, hfault⟩ | ⟨s, next, rfl, hnext, dirs, last, place, rfl, hrest, hfault⟩)
    · exact ⟨[], name, spot.place, rfl, disk.reach_nil _, hfault⟩
    · refine ⟨s :: dirs, last, place, rfl, ?_, hfault⟩
      rw [DiskPath.entering, List.map_cons, Disk.reach_cons, hnext]
      exact hrest

/-- Every fault below a spot is under the name of an entry there. -/
theorem exists_entry_of_faultAt {position : List Octets} (h : FaultAt disk spot position fault) :
    ∃ r ∈ spot.entries disk, ∃ rest, position = r.1 :: rest := by
  cases position with
  | nil =>
    obtain ⟨dirs, last, -, hposition, -⟩ := h
    exact absurd hposition.symm (List.append_ne_nil_of_right_ne_nil _ (List.cons_ne_nil last []))
  | cons name rest =>
    have hentry : ∃ entry, (name, entry) ∈ spot.entries disk := by
      rcases faultAt_cons_iff.mp h with ⟨-, hfault⟩ | ⟨s, place, rfl, hplace, -⟩
      · cases hfault with
        | unresolved hentry => exact ⟨_, hentry⟩
        | folder hplace => exact exists_entry_of_reach hplace
        | page hplace => exact exists_entry_of_reach hplace
      · exact exists_entry_of_reach hplace
    obtain ⟨entry, hentry⟩ := hentry
    exact ⟨_, hentry, rest, rfl⟩

/-- Faults are only below directories. -/
theorem isDir_of_faultAt {position : List Octets} (h : FaultAt disk spot position fault) :
    (disk.current spot.trail).isDir := by
  obtain ⟨r, hr, -⟩ := exists_entry_of_faultAt h
  have hmem := Spot.mem_entries.mp hr
  cases hcurrent : disk.current spot.trail with
  | dir => rfl
  | file => simp [hcurrent, Entry.entries] at hmem
  | link => simp [hcurrent, Entry.entries] at hmem

/-- What is wrong at positions under the name of an entry. -/
def FaultUnder (disk : Disk) (spot : Spot) (name : Octets) (position : List Octets)
    (fault : Fault) : Prop :=
  ∃ rest, position = name :: rest ∧ FaultAt disk spot position fault

/-- Under the name of what is no folder there is only what is wrong at the entry itself. -/
theorem faultUnder_iff_entryFault {name : Octets} {position : List Octets}
    (h : ∀ s place, name = .text s → disk.reach [.enter name] spot.place = some place →
      (disk.current place.1).isDir = false) :
    position = [name] ∧ EntryFault disk spot name fault ↔
      FaultUnder disk spot name position fault := by
  constructor
  · rintro ⟨rfl, hfault⟩
    exact ⟨[], rfl, faultAt_cons_iff.mpr (.inl ⟨rfl, hfault⟩)⟩
  · rintro ⟨rest, rfl, hfault⟩
    rcases faultAt_cons_iff.mp hfault with ⟨rfl, hown⟩ | ⟨s, place, rfl, hplace, hinside⟩
    · exact ⟨rfl, hown⟩
    · have hdir := isDir_of_faultAt hinside
      simp [Spot.below, h s place rfl hplace] at hdir

end Entries

end Scan

end PageRoutes
