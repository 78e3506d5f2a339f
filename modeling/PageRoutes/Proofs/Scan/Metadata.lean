import PageRoutes.Proofs.Scan.Pruning
/-!
# The metadata of finds

A scan reads the metadata of a page or folder from a file beside it, whose name is made of its
normalised name. Links are followed on the way to that file, as they are on the way to a page, so
the metadata of a find is a function of the place of its directory and of its own name. Pruning
leaves the metadata of a node as it is, and the metadata of a node that is dropped goes with it.

## Main definitions

* `Disk.metadata?` : the metadata beside what a name stands for.
* `Disk.HasFolder` : names that lead to a directory.

## Main results

* `Scan.FoundAt.metadata_eq` : the metadata of what a way down leads to.
* `Scan.FoundAt.exists_folders` : the ways down to folders, and when they are kept.
-/

namespace PageRoutes

/-- The metadata beside what a name stands for in the directory that names lead to from a place: the
value of the file there whose name is the normalised name with the ending of metadata files. -/
def Disk.metadata? (disk : Disk) (start : Disk.Trail × Nat) (dirs : List String) (name : String) :
    Option Json := do
  let fileName := Segment.normalize name ++ Scan.metadataSuffix
  let place ← disk.reach (DiskPath.entering dirs ++ DiskPath.steps ⟨fileName⟩) start
  let text ← (Disk.textOf (disk.current place.1)).toOption
  (Json.parse text).toOption

/-- Whether names lead from a place to a directory, links followed. -/
def Disk.HasFolder (disk : Disk) (start : Disk.Trail × Nat) (dirs : List String) : Prop :=
  ∃ place, disk.reach (DiskPath.entering dirs) start = some place ∧ (disk.current place.1).isDir

instance (disk : Disk) (start : Disk.Trail × Nat) (dirs : List String) :
    Decidable (disk.HasFolder start dirs) :=
  decidable_of_iff ((disk.reach (DiskPath.entering dirs) start).any
    fun place ↦ (disk.current place.1).isDir) (by rw [Disk.HasFolder, Option.any_eq_true])

/-- Names of directories that lead to a place can be followed first. -/
theorem Disk.metadata?_of_reach {disk : Disk} {start place : Disk.Trail × Nat} {dirs : List String}
    (h : disk.reach (DiskPath.entering dirs) start = some place) (name : String) :
    disk.metadata? start dirs name = disk.metadata? place [] name := by
  simp only [metadata?, DiskPath.entering, Disk.reach_append, List.map_nil, List.nil_append]
  rw [← DiskPath.entering, h, Option.bind_some]

theorem Disk.hasFolder_append_iff {disk : Disk} {start place : Disk.Trail × Nat}
    {dirs : List String} (h : disk.reach (DiskPath.entering dirs) start = some place)
    (more : List String) : disk.HasFolder start (dirs ++ more) ↔ disk.HasFolder place more := by
  rw [HasFolder, HasFolder, DiskPath.entering_append, Disk.reach_append, h, Option.bind_some]

namespace Scan

/-- The metadata that a find carries. -/
def Find.metadata : Find → Option Json
  | .page _ _ metadata => metadata
  | .folder _ _ metadata => metadata

@[simp] theorem Find.metadata_route (f : Find) : f.route.metadata = f.metadata := by
  cases f <;> simp [route, metadata, Route.page, Route.folder]

variable {disk : Disk} {spot : Spot} {finds : List Find}

/-- Only a file has a text. -/
theorem isFile_of_textOf {entry : Entry} {text : String} (h : Disk.textOf entry = .ok text) :
    entry.isFile := by
  cases entry with
  | file => rfl
  | dir => cases h
  | link => cases h

/-- Metadata that a scan has read is that of the file beside. -/
theorem eq_metadata?_of_sidecar {name : String} {metadata : Option Json}
    (h : sidecar disk spot (Segment.normalize name) = .ok metadata) :
    metadata = disk.metadata? spot.place [] name := by
  simp only [sidecar] at h
  simp only [Disk.metadata?, DiskPath.entering, List.map_nil, List.nil_append, Disk.reach,
    Spot.place]
  split at h
  · next trail left hwalk =>
    rw [hwalk]
    simp only [Disk.Place.found?, Option.bind_eq_bind, Option.bind_some]
    split at h
    · split at h
      · cases h
      · next text htext =>
        rw [htext]
        split at h
        · cases h
        · next value hvalue =>
          obtain rfl := Except.ok.inj h
          simp [Except.toOption, hvalue]
    · next hfile =>
      obtain rfl := Except.ok.inj h
      cases htext : Disk.textOf (disk.current trail) with
      | error => rfl
      | ok text => exact absurd (isFile_of_textOf htext) hfile
  · next hnone =>
    obtain rfl := Except.ok.inj h
    simp only [Disk.Place.found?, Option.bind_eq_bind, Option.bind_none]

/-- The metadata of a find is what the scan has read for its name. -/
theorem Found.metadata_eq {entries : List (Octets × Entry)} (h : Found disk spot entries finds)
    {f : Find} (hf : f ∈ finds) : f.metadata = disk.metadata? spot.place [] f.name := by
  obtain ⟨r, -, hfound⟩ := h.exists_entry hf
  cases hfound with
  | passed _ _ hrest => cases hrest
  | page _ _ _ hmeta _ => exact eq_metadata?_of_sidecar hmeta
  | folder _ _ _ hmeta _ => exact eq_metadata?_of_sidecar hmeta

/-- **Metadata of finds.** The metadata of what a way down leads to is that beside its name in the
directory that the names on the way lead to. -/
theorem FoundAt.metadata_eq (hdisk : disk.isProper) (h : FoundAt disk spot finds) {way : List Find}
    {f : Find} (hway : Descent Find.inside finds (way ++ [f])) :
    f.metadata = disk.metadata? spot.place (way.map Find.name) f.name := by
  obtain ⟨inside, hopens, hf⟩ := exists_opens_of_descent hway
  obtain ⟨inner, hreach, -, -, hinner⟩ := h.of_opens hdisk hopens
  rw [Disk.metadata?_of_reach hreach]
  exact hinner.found.metadata_eq hf

/-! ### The nodes of folders -/

/-- The names on a way down to a folder lead to a directory. -/
theorem FoundAt.hasFolder (hdisk : disk.isProper) (h : FoundAt disk spot finds) {way : List Find}
    {f : Find} (hway : Descent Find.inside finds (way ++ [f])) (hf : f.isFolder) :
    disk.HasFolder spot.place (way.map Find.name ++ [f.name]) := by
  obtain ⟨inside, hopens, hmem⟩ := exists_opens_of_descent hway
  obtain ⟨inner, hreach, -, -, hinner⟩ := h.of_opens hdisk hopens
  rw [Disk.hasFolder_append_iff hreach]
  obtain ⟨⟨name, entry⟩, hentry, hfound⟩ := hinner.found.exists_entry hmem
  cases hfound with
  | passed _ _ hrest => cases hrest
  | page => cases hf
  | folder hplace hdir _ _ _ =>
    rw [entryPlace_eq_reach hdisk hinner.sound hentry] at hplace
    exact ⟨_, hplace, hdir⟩

/-- **Nodes of folders.** Names that lead to a directory are those on a way down through folders,
and on the way every step is kept unless the names are cut. -/
theorem FoundAt.exists_folders (hdisk : disk.isProper) (h : FoundAt disk spot finds)
    {dirs : List String} (hdirs : dirs ≠ []) (hfolder : disk.HasFolder spot.place dirs) :
    ∃ way, Descent Find.inside finds way ∧ way.map Find.name = dirs ∧ (∀ f ∈ way, f.isFolder) ∧
      (way.IsChain (fun f g ↦ keeps f g) ↔ ¬disk.Cuts spot.place dirs) := by
  obtain ⟨place, hreach, hdir⟩ := hfolder
  obtain ⟨inside, hopens⟩ := h.exists_opens hdisk hreach hdir
  obtain ⟨way, hway, rfl, hfolders⟩ := exists_folders_of_opens hopens hdirs
  have hdown : Descent Find.inside finds (way ++ []) := by rwa [List.append_nil]
  exact ⟨way, hway, rfl, hfolders, h.isChain_keeps_iff hdisk hdown hfolders⟩

end Scan

end PageRoutes
