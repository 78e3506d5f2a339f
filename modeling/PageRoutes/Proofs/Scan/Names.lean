import PageRoutes.Proofs.Route.Descent
import PageRoutes.Proofs.Scan.Find
/-!
# Names that lead to finds

On a proper disk the finds of a scan are what names lead to. A page is found inside a directory if
and only if its name leads to a file from there, a folder if and only if its name leads to a
directory; links are followed in both cases. Going down through finds by name is therefore the same
as following these names on the disk.

## Main definitions

* `Scan.pageFile` : the name of the page file with a stem.
* `Disk.HasPage` : names that lead to a page file.
* `Scan.Opens` : the finds inside the directory that names lead to.

## Main results

* `Scan.FoundAt.mem_page_iff` : the pages among the finds of a directory.
* `Scan.FoundAt.of_opens`, `Scan.FoundAt.exists_opens` : the folders below a directory.
* `Scan.FoundAt.exists_page_iff` : the pages below a directory.
* `Scan.FoundAt.names_eq_of_hasPage` : the path of a page determines the names that lead to it.
-/

namespace PageRoutes

/-- The name of the page file with a stem. -/
def Scan.pageFile (stem : String) : String := stem ++ "." ++ pageExtension

/-- The moves that enter names one after the other. -/
def DiskPath.entering (names : List String) : List Step := names.map fun s ↦ .enter (.text s)

theorem DiskPath.entering_append (names more : List String) :
    entering (names ++ more) = entering names ++ entering more := by
  simp [entering]

/-- Whether names of directories and a stem lead from a place to a page file, links followed. -/
def Disk.HasPage (disk : Disk) (start : Disk.Trail × Nat) (dirs : List String) (stem : String) :
    Prop :=
  stem ≠ "" ∧ ∃ place, disk.reach (DiskPath.entering (dirs ++ [Scan.pageFile stem])) start =
    some place ∧ (disk.current place.1).isFile

instance (disk : Disk) (start : Disk.Trail × Nat) (dirs : List String) (stem : String) :
    Decidable (disk.HasPage start dirs stem) :=
  decidable_of_iff (stem ≠ "" ∧ (disk.reach (DiskPath.entering (dirs ++ [Scan.pageFile stem]))
    start).any fun place ↦ (disk.current place.1).isFile) (by rw [Disk.HasPage, Option.any_eq_true])

/-- The pages of the directory that names lead to can be reached from there. -/
theorem Disk.hasPage_of_reach {disk : Disk} {start place : Disk.Trail × Nat} {dirs : List String}
    (h : disk.reach (DiskPath.entering dirs) start = some place) (stem : String) :
    disk.HasPage start dirs stem ↔ disk.HasPage place [] stem := by
  rw [HasPage, HasPage, List.nil_append, DiskPath.entering_append, Disk.reach_append, h,
    Option.bind_some]

namespace Scan

/-- A name is that of a page file with a stem where it is cut into the stem and the extension of
pages. -/
theorem splitExtension_eq_page_iff {name stem : String} :
    DiskPath.splitExtension name = (stem, some pageExtension) ↔
      name = pageFile stem ∧ stem ≠ "" := by
  rw [DiskPath.splitExtension_eq_iff (by decide), pageFile]
  refine and_congr_right fun _ ↦ and_iff_left ?_
  decide

/-! ### The entries of a directory -/

section Entries

variable {disk : Disk} {spot : Spot} {entries : List (Octets × Entry)} {finds : List Find}

/-- The place of a spot. -/
def Spot.place (spot : Spot) : Disk.Trail × Nat := (spot.trail, spot.linksLeft)

theorem Spot.mem_entries {r : Octets × Entry} :
    r ∈ spot.entries disk ↔ r ∈ (disk.current spot.trail).entries := mem_sortByName

/-- On a proper disk an entry stands for what its name leads to. -/
theorem entryPlace_eq_reach (hdisk : disk.isProper) (hspot : spot.trail.IsSound) {name : Octets}
    {entry : Entry} (h : (name, entry) ∈ spot.entries disk) :
    entryPlace disk spot name entry = disk.reach [.enter name] spot.place := by
  have hchild : (disk.current spot.trail).child? name = some entry :=
    (Entry.child?_eq_some_iff (Disk.isProper_current hdisk hspot)).mpr (Spot.mem_entries.mp h)
  cases entry with
  | link target => rfl
  | file content => rw [Spot.place, Disk.reach_enter hchild nofun, Disk.reach_nil]; rfl
  | dir inner => rw [Spot.place, Disk.reach_enter hchild nofun, Disk.reach_nil]; rfl

/-- What a name leads to is there under that name. -/
theorem exists_entry_of_reach {name : Octets} {place : Disk.Trail × Nat}
    (h : disk.reach [.enter name] spot.place = some place) :
    ∃ entry, (name, entry) ∈ spot.entries disk := by
  cases hchild : (disk.current spot.trail).child? name with
  | none => simp [Spot.place, Disk.reach_free hchild] at h
  | some entry => exact ⟨entry, Spot.mem_entries.mpr (Entry.mem_of_child? hchild)⟩

/-- Every find comes from one entry. -/
theorem Found.exists_entry (h : Found disk spot entries finds) {f : Find} (hf : f ∈ finds) :
    ∃ r ∈ entries, Found disk spot [r] [f] := by
  induction h with
  | nil => simp at hf
  | passed _ _ _ ih =>
    obtain ⟨r, hr, hfound⟩ := ih hf
    exact ⟨r, List.mem_cons_of_mem _ hr, hfound⟩
  | page hplace hfile hname hmeta _ ih =>
    rcases List.mem_cons.mp hf with rfl | hf
    · exact ⟨_, List.mem_cons_self, .page hplace hfile hname hmeta (.nil _)⟩
    · obtain ⟨r, hr, hfound⟩ := ih hf
      exact ⟨r, List.mem_cons_of_mem _ hr, hfound⟩
  | folder hplace hdir hinside hmeta _ _ ih =>
    rcases List.mem_cons.mp hf with rfl | hf
    · exact ⟨_, List.mem_cons_self, .folder hplace hdir hinside hmeta (.nil _)⟩
    · obtain ⟨r, hr, hfound⟩ := ih hf
      exact ⟨r, List.mem_cons_of_mem _ hr, hfound⟩

/-- Every entry gives something, which is among the finds. -/
theorem Found.exists_finds (h : Found disk spot entries finds) {r : Octets × Entry}
    (hr : r ∈ entries) : ∃ own, Found disk spot [r] own ∧ own ⊆ finds := by
  induction h with
  | nil => simp at hr
  | passed hplace hpassed _ ih =>
    rcases List.mem_cons.mp hr with rfl | hr
    · exact ⟨[], .passed hplace hpassed (.nil _), List.nil_subset _⟩
    · exact ih hr
  | page hplace hfile hname hmeta _ ih =>
    rcases List.mem_cons.mp hr with rfl | hr
    · exact ⟨_, .page hplace hfile hname hmeta (.nil _), by simp⟩
    · obtain ⟨own, hown, hsub⟩ := ih hr
      exact ⟨own, hown, fun f hf ↦ List.mem_cons_of_mem _ (hsub hf)⟩
  | folder hplace hdir hinside hmeta _ _ ih =>
    rcases List.mem_cons.mp hr with rfl | hr
    · exact ⟨_, .folder hplace hdir hinside hmeta (.nil _), by simp⟩
    · obtain ⟨own, hown, hsub⟩ := ih hr
      exact ⟨own, hown, fun f hf ↦ List.mem_cons_of_mem _ (hsub hf)⟩

/-- What a scan has found at a spot that was reached over a sound trail. -/
structure FoundAt (disk : Disk) (spot : Spot) (finds : List Find) : Prop where
  sound : spot.trail.IsSound
  path_ne : spot.path.text ≠ ""
  found : Found disk spot (spot.entries disk) finds

variable (hdisk : disk.isProper) (h : FoundAt disk spot finds)

include hdisk h

/-- **Pages.** A page is among the finds of a directory if and only if its name leads to a file. -/
theorem FoundAt.mem_page_iff {stem : String} {file : DiskPath} :
    (∃ metadata, .page stem file metadata ∈ finds) ↔
      disk.HasPage spot.place [] stem ∧ file = spot.path.join ⟨pageFile stem⟩ := by
  constructor
  · rintro ⟨metadata, hmem⟩
    obtain ⟨⟨name, entry⟩, hentry, hfound⟩ := h.found.exists_entry hmem
    cases hfound with
    | passed _ _ hrest => cases hrest
    | page hplace hfile hname _ _ =>
      obtain ⟨rfl, hstem⟩ := splitExtension_eq_page_iff.mp hname
      rw [entryPlace_eq_reach hdisk h.sound hentry] at hplace
      refine ⟨⟨hstem, _, hplace, ?_⟩, rfl⟩
      rcases disk.isDir_or_isFile_current (Disk.isSound_of_reach hdisk h.sound hplace) with hd | hf
      · rw [hfile] at hd
        cases hd
      · exact hf
  · rintro ⟨⟨hstem, place, hreach, hfile⟩, rfl⟩
    obtain ⟨entry, hentry⟩ := exists_entry_of_reach hreach
    obtain ⟨own, hown, hsub⟩ := h.found.exists_finds hentry
    have hplace := (entryPlace_eq_reach hdisk h.sound hentry).trans hreach
    have hname := splitExtension_eq_page_iff.mpr ⟨rfl, hstem⟩
    cases hown with
    | passed hplace' hpassed _ =>
      obtain rfl := Option.some.inj (hplace.symm.trans hplace')
      exact absurd (congrArg Prod.snd hname) (hpassed _ rfl).2
    | page hplace' _ hname' _ _ =>
      cases hname.symm.trans hname'
      exact ⟨_, hsub List.mem_cons_self⟩
    | folder hplace' hdir _ _ _ =>
      obtain rfl := Option.some.inj (hplace.symm.trans hplace')
      cases hcurrent : disk.current place.1 <;> simp_all [Entry.isDir, Entry.isFile]

/-- The file of a page found in a directory has a file name and stands in that directory. -/
theorem FoundAt.isFileName_page {stem : String} {file : DiskPath} {metadata : Option Json}
    (hmem : .page stem file metadata ∈ finds) :
    (Octets.text (pageFile stem)).isFileName ∧ file = spot.path.join ⟨pageFile stem⟩ := by
  obtain ⟨⟨-, place, hreach, -⟩, hfile⟩ := (h.mem_page_iff hdisk).mp ⟨metadata, hmem⟩
  obtain ⟨entry, hentry⟩ := exists_entry_of_reach hreach
  exact ⟨(Entry.isProper_mem (Disk.isProper_current hdisk h.sound)
    (Spot.mem_entries.mp hentry)).1, hfile⟩

/-- **Folders.** A folder is among the finds of a directory only if its name leads to a directory,
and what is inside it is what is found in that directory. -/
theorem FoundAt.of_mem_folder {name : String} {inside : List Find} {metadata : Option Json}
    (hmem : .folder name inside metadata ∈ finds) :
    ∃ place, disk.reach [.enter (.text name)] spot.place = some place ∧
      (Octets.text name).isFileName ∧
      FoundAt disk ⟨spot.path.join ⟨name⟩, place.1, place.2⟩ inside := by
  obtain ⟨⟨_, entry⟩, hentry, hfound⟩ := h.found.exists_entry hmem
  cases hfound with
  | passed _ _ hrest => cases hrest
  | folder hplace hdir hinside _ _ =>
    rw [entryPlace_eq_reach hdisk h.sound hentry] at hplace
    have hname := (Entry.isProper_mem (Disk.isProper_current hdisk h.sound)
      (Spot.mem_entries.mp hentry)).1
    exact ⟨_, hplace, hname, Disk.isSound_of_reach hdisk h.sound hplace,
      DiskPath.join_text_ne_empty h.path_ne hname, hinside⟩

/-- A name that leads to a directory is that of a folder among the finds. -/
theorem FoundAt.exists_folder {name : String} {place : Disk.Trail × Nat}
    (hreach : disk.reach [.enter (.text name)] spot.place = some place)
    (hdir : (disk.current place.1).isDir) :
    ∃ inside metadata, .folder name inside metadata ∈ finds := by
  obtain ⟨entry, hentry⟩ := exists_entry_of_reach hreach
  obtain ⟨own, hown, hsub⟩ := h.found.exists_finds hentry
  have hplace := (entryPlace_eq_reach hdisk h.sound hentry).trans hreach
  cases hown with
  | passed hplace' hpassed _ =>
    obtain rfl := Option.some.inj (hplace.symm.trans hplace')
    simp [(hpassed _ rfl).1] at hdir
  | page hplace' hfile _ _ _ =>
    obtain rfl := Option.some.inj (hplace.symm.trans hplace')
    simp [hfile] at hdir
  | folder hplace' _ _ _ _ => exact ⟨_, _, hsub List.mem_cons_self⟩

end Entries

/-! ### Going down by name -/

section Opens

/-- The finds inside the directory that names lead to. -/
inductive Opens : List Find → List String → List Find → Prop
  | here (finds : List Find) : Opens finds [] finds
  | into {finds next inside : List Find} {name : String} {metadata : Option Json}
    {dirs : List String} (h : .folder name next metadata ∈ finds) (rest : Opens next dirs inside) :
    Opens finds (name :: dirs) inside

variable {disk : Disk} {spot : Spot} {finds inside : List Find} {dirs : List String}

/-- What names open is what is found in the directory that they lead to on the disk. -/
theorem FoundAt.of_opens (hdisk : disk.isProper) (h : FoundAt disk spot finds)
    (hopens : Opens finds dirs inside) :
    ∃ inner : Spot, disk.reach (DiskPath.entering dirs) spot.place = some inner.place ∧
      inner.path = spot.path.below dirs ∧ (∀ s ∈ dirs, (Octets.text s).isFileName) ∧
      FoundAt disk inner inside := by
  induction hopens generalizing spot with
  | here finds => exact ⟨spot, Disk.reach_nil .., rfl, by simp, h⟩
  | into hmem _ ih =>
    obtain ⟨place, hplace, hname, hnext⟩ := h.of_mem_folder hdisk hmem
    obtain ⟨inner, hinner, hpath, hnames, hfound⟩ := ih hnext
    refine ⟨inner, ?_, hpath, List.forall_mem_cons.mpr ⟨hname, hnames⟩, hfound⟩
    rw [DiskPath.entering, List.map_cons, Disk.reach_cons, hplace]
    exact hinner

/-- Names that lead to a directory open something. -/
theorem FoundAt.exists_opens (hdisk : disk.isProper) (h : FoundAt disk spot finds)
    {place : Disk.Trail × Nat}
    (hreach : disk.reach (DiskPath.entering dirs) spot.place = some place)
    (hdir : (disk.current place.1).isDir) : ∃ inside, Opens finds dirs inside := by
  induction dirs generalizing spot finds with
  | nil => exact ⟨finds, .here finds⟩
  | cons name dirs ih =>
    rw [DiskPath.entering, List.map_cons, Disk.reach_cons] at hreach
    obtain ⟨next, hnext, hrest⟩ := Option.bind_eq_some_iff.mp hreach
    have hnextDir : (disk.current next.1).isDir := by
      cases dirs with
      | nil =>
        rw [List.map_nil, Disk.reach_nil, Option.some.injEq] at hrest
        rwa [hrest]
      | cons name' dirs => exact Disk.isDir_of_reach hrest
    obtain ⟨found, metadata, hmem⟩ := h.exists_folder hdisk hnext hnextDir
    obtain ⟨place', hplace', -, hfound⟩ := h.of_mem_folder hdisk hmem
    obtain rfl := Option.some.inj (hnext.symm.trans hplace')
    obtain ⟨inside, hinside⟩ := ih hfound hrest
    exact ⟨inside, .into hmem hinside⟩

/-- **Pages below a directory.** Names open a directory with a page in it if and only if they and
the stem lead to a page file, and the path of the page is made of those names. -/
theorem FoundAt.exists_page_iff (hdisk : disk.isProper) (h : FoundAt disk spot finds)
    {stem : String} {file : DiskPath} :
    (∃ inside metadata, Opens finds dirs inside ∧ .page stem file metadata ∈ inside) ↔
      disk.HasPage spot.place dirs stem ∧ file = spot.path.below (dirs ++ [pageFile stem]) := by
  constructor
  · rintro ⟨inside, metadata, hopens, hmem⟩
    obtain ⟨inner, hreach, hpath, -, hfound⟩ := h.of_opens hdisk hopens
    obtain ⟨hpage, rfl⟩ := (hfound.mem_page_iff hdisk).mp ⟨metadata, hmem⟩
    exact ⟨(Disk.hasPage_of_reach hreach stem).mpr hpage, by rw [hpath, DiskPath.below_append]; rfl⟩
  · rintro ⟨⟨hstem, place, hreach, hfile⟩, rfl⟩
    rw [DiskPath.entering_append, Disk.reach_append] at hreach
    obtain ⟨next, hnext, hlast⟩ := Option.bind_eq_some_iff.mp hreach
    obtain ⟨inside, hopens⟩ := h.exists_opens hdisk hnext (Disk.isDir_of_reach hlast)
    obtain ⟨inner, hinner, hpath, -, hfound⟩ := h.of_opens hdisk hopens
    obtain rfl := Option.some.inj (hnext.symm.trans hinner)
    obtain ⟨metadata, hmem⟩ := (hfound.mem_page_iff hdisk).mpr ⟨⟨hstem, place, hlast, hfile⟩, rfl⟩
    rw [hpath] at hmem
    exact ⟨inside, metadata, hopens, by rw [DiskPath.below_append]; exact hmem⟩

/-- The names that lead to a page are file names. -/
theorem FoundAt.isFileName_of_hasPage (hdisk : disk.isProper) (h : FoundAt disk spot finds)
    {stem : String} (hpage : disk.HasPage spot.place dirs stem) :
    ∀ s ∈ dirs ++ [pageFile stem], (Octets.text s).isFileName := by
  obtain ⟨inside, metadata, hopens, hmem⟩ := (h.exists_page_iff hdisk).mpr ⟨hpage, rfl⟩
  obtain ⟨inner, -, -, hnames, hfound⟩ := h.of_opens hdisk hopens
  intro s hs
  rcases List.mem_append.mp hs with hs | hs
  · exact hnames s hs
  · rw [List.mem_singleton.mp hs]
    exact (hfound.isFileName_page hdisk hmem).1

/-- **Pages from paths.** Pages below a directory whose paths have the same components are reached
by the same names. -/
theorem FoundAt.names_eq_of_hasPage (hdisk : disk.isProper) (h : FoundAt disk spot finds)
    {dirs' : List String} {stem stem' : String} (hpage : disk.HasPage spot.place dirs stem)
    (hpage' : disk.HasPage spot.place dirs' stem')
    (heq : (spot.path.below (dirs ++ [pageFile stem])).components =
      (spot.path.below (dirs' ++ [pageFile stem'])).components) : dirs = dirs' ∧ stem = stem' := by
  have hnames := DiskPath.below_injective h.path_ne (h.isFileName_of_hasPage hdisk hpage)
    (h.isFileName_of_hasPage hdisk hpage') heq
  obtain ⟨rfl, hlast⟩ := List.append_inj' hnames rfl
  have hfile : pageFile stem = pageFile stem' := by simpa using hlast
  refine ⟨rfl, ?_⟩
  have hlist := congrArg String.toList hfile
  simpa [pageFile, String.toList_inj] using hlist

end Opens

/-! ### Ways down -/

/-- The name of a find, without the extension of a page. -/
def Find.name : Find → String
  | .page stem _ _ => stem
  | .folder name _ _ => name

/-- What is found inside a find. -/
def Find.inside : Find → List Find
  | .page _ _ _ => []
  | .folder _ inside _ => inside

/-- Whether a find is a folder. -/
def Find.isFolder : Find → Bool
  | .page _ _ _ => false
  | .folder _ _ _ => true

theorem Find.exists_of_isFolder {f : Find} (h : f.isFolder) :
    ∃ metadata, f = .folder f.name f.inside metadata := by
  cases f with
  | page => cases h
  | folder name inside metadata => exact ⟨metadata, rfl⟩

/-- Only a folder has something inside it. -/
theorem Find.isFolder_of_mem_inside {f g : Find} (h : g ∈ f.inside) : f.isFolder := by
  cases f with
  | page => simp [inside] at h
  | folder => rfl

theorem Find.exists_of_mem_inside {f g : Find} (h : g ∈ f.inside) :
    ∃ metadata, f = .folder f.name f.inside metadata :=
  exists_of_isFolder (isFolder_of_mem_inside h)

/-- Whatever a way down passes on the way to a find is a folder. -/
theorem isFolder_of_descent {finds way : List Find} {f : Find}
    (h : Descent Find.inside finds (way ++ [f])) : ∀ g ∈ way, g.isFolder := by
  induction way generalizing finds with
  | nil => simp
  | cons g way ih =>
    obtain ⟨-, hrest⟩ := (descent_cons_iff (by simp)).mp h
    obtain ⟨first, hfirst⟩ := hrest.exists_mem
    exact List.forall_mem_cons.mpr ⟨Find.isFolder_of_mem_inside hfirst, ih hrest⟩

/-- A way down to a find opens the directory where the find is. -/
theorem exists_opens_of_descent {finds way : List Find} {f : Find}
    (h : Descent Find.inside finds (way ++ [f])) :
    ∃ inside, Opens finds (way.map Find.name) inside ∧ f ∈ inside := by
  induction way generalizing finds with
  | nil => exact ⟨finds, .here finds, h.head_mem⟩
  | cons g way ih =>
    obtain ⟨hg, hrest⟩ := (descent_cons_iff (by simp)).mp h
    obtain ⟨inside, hopens, hf⟩ := ih hrest
    obtain ⟨first, hfirst⟩ := hrest.exists_mem
    obtain ⟨metadata, heq⟩ := Find.exists_of_mem_inside hfirst
    exact ⟨inside, .into (heq ▸ hg) hopens, hf⟩

/-- A find in a directory that names open is at the end of a way down with these names. -/
theorem exists_descent_of_opens {finds inside : List Find} {dirs : List String} {f : Find}
    (h : Opens finds dirs inside) (hf : f ∈ inside) :
    ∃ way, Descent Find.inside finds (way ++ [f]) ∧ way.map Find.name = dirs := by
  induction h with
  | here finds => exact ⟨[], .last hf, rfl⟩
  | into hmem _ ih =>
    obtain ⟨way, hway, rfl⟩ := ih hf
    exact ⟨_ :: way, .step hmem hway, rfl⟩

/-- Names that open a folder of a directory open what is inside it. -/
theorem Opens.snoc {finds next inside : List Find} {dirs : List String} {name : String}
    {metadata : Option Json} (h : Opens finds dirs next)
    (hmem : .folder name inside metadata ∈ next) : Opens finds (dirs ++ [name]) inside := by
  induction h with
  | here finds => exact .into hmem (.here inside)
  | into hfirst _ ih => exact .into hfirst (ih hmem)

/-- The names on a way down to a folder open it. -/
theorem opens_of_isFolder {finds way : List Find} {f : Find}
    (h : Descent Find.inside finds (way ++ [f])) (hf : f.isFolder) :
    Opens finds (way.map Find.name ++ [f.name]) f.inside := by
  obtain ⟨next, hopens, hmem⟩ := exists_opens_of_descent h
  obtain ⟨metadata, heq⟩ := Find.exists_of_isFolder hf
  exact hopens.snoc (heq ▸ hmem)

/-- Names that open something are those of the folders on a way down, unless there are none. -/
theorem exists_folders_of_opens {finds inside : List Find} {dirs : List String}
    (h : Opens finds dirs inside) (hdirs : dirs ≠ []) :
    ∃ way, Descent Find.inside finds way ∧ way.map Find.name = dirs ∧ ∀ f ∈ way, f.isFolder := by
  induction h with
  | here finds => exact absurd rfl hdirs
  | @into finds next inside name metadata dirs hmem hrest ih =>
    cases dirs with
    | nil => exact ⟨[_], .last hmem, rfl, by simp [Find.isFolder]⟩
    | cons second dirs =>
      obtain ⟨way, hway, hnames, hfolders⟩ := ih (List.cons_ne_nil _ _)
      exact ⟨_ :: way, .step hmem hway, by rw [List.map_cons, hnames]; rfl,
        List.forall_mem_cons.mpr ⟨rfl, hfolders⟩⟩

/-- The names on a way down are not empty. -/
theorem FoundAt.name_ne_empty {disk : Disk} {spot : Spot} {finds way : List Find}
    (hdisk : disk.isProper) (h : FoundAt disk spot finds) (hway : Descent Find.inside finds way)
    {f : Find} (hf : f ∈ way) : f.name ≠ "" := by
  obtain ⟨above, below, rfl⟩ := List.append_of_mem hf
  obtain ⟨inside, hopens, hmem⟩ := exists_opens_of_descent hway.stop
  obtain ⟨inner, -, -, -, hinner⟩ := h.of_opens hdisk hopens
  cases f with
  | page stem file metadata => exact ((hinner.mem_page_iff hdisk).mp ⟨metadata, hmem⟩).1.1
  | folder name next metadata =>
    obtain ⟨-, -, hname, -⟩ := hinner.of_mem_folder hdisk hmem
    exact (DiskPath.isFileName_text_iff.mp hname).1

/-- The names on a way down have no slashes. -/
theorem FoundAt.slash_not_mem_name {disk : Disk} {spot : Spot} {finds way : List Find}
    (hdisk : disk.isProper) (h : FoundAt disk spot finds) (hway : Descent Find.inside finds way)
    {f : Find} (hf : f ∈ way) : '/' ∉ f.name.toList := by
  obtain ⟨above, below, rfl⟩ := List.append_of_mem hf
  obtain ⟨inside, hopens, hmem⟩ := exists_opens_of_descent hway.stop
  obtain ⟨inner, -, -, -, hinner⟩ := h.of_opens hdisk hopens
  cases f with
  | page stem file metadata =>
    obtain ⟨hname, -⟩ := hinner.isFileName_page hdisk hmem
    obtain ⟨-, -, -, hslash⟩ := DiskPath.isFileName_text_iff.mp hname
    exact fun hstem ↦ hslash (by simp [pageFile, show '/' ∈ stem.toList from hstem])
  | folder name next metadata =>
    obtain ⟨-, -, hname, -⟩ := hinner.of_mem_folder hdisk hmem
    exact (DiskPath.isFileName_text_iff.mp hname).2.2.2

/-- A way down opens every folder on it that something follows. -/
theorem opens_of_descent {finds way rest : List Find} {f g : Find}
    (h : Descent Find.inside finds (way ++ f :: g :: rest)) :
    Opens finds (way.map Find.name ++ [f.name]) f.inside ∧ g ∈ f.inside := by
  induction way generalizing finds with
  | nil =>
    obtain ⟨hf, hrest⟩ := (descent_cons_iff (by simp)).mp h
    obtain ⟨metadata, heq⟩ := Find.exists_of_mem_inside hrest.head_mem
    exact ⟨.into (heq ▸ hf) (.here _), hrest.head_mem⟩
  | cons e way ih =>
    obtain ⟨he, hrest⟩ := (descent_cons_iff (by simp)).mp h
    obtain ⟨hopens, hg⟩ := ih hrest
    obtain ⟨first, hfirst⟩ := hrest.exists_mem
    obtain ⟨metadata, heq⟩ := Find.exists_of_mem_inside hfirst
    exact ⟨.into (heq ▸ he) hopens, hg⟩

end Scan

end PageRoutes
