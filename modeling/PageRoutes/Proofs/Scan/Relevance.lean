import Mathlib.Data.Option.Basic
import Mathlib.Data.Option.Defs
import PageRoutes.Proofs.Disk.Cycles
import PageRoutes.Proofs.Scan.ListingOrder
import PageRoutes.Proofs.Scan.Names
import PageRoutes.Proofs.Segment.Separators
/-!
# Files that a scan does not look at

In a tree without links a scan looks at three things: where there are directories, where there are
page files, and what is in the metadata files beside them. Which files are metadata files is decided
by the directories and pages of their own directory, so that a file may matter in one directory and
not in another one. Trees that agree in these three things are scanned in the same way, whatever
other files they hold, and whatever is in their pages.

## Main definitions

* `Entry.isLinkFree`, `Disk.isLinkFree` : trees and disks without symbolic links.
* `Entry.below?` : what names lead to in a tree without links.
* `Entry.Alike` : trees that agree in what a scan looks at.

## Main results

* `Scan.sidecar_eq_of_alike` : metadata in trees that are alike.
* `buildRouteTree_eq_of_alike` : the routes of trees that are alike.
-/

namespace PageRoutes

namespace Entry

mutual

/-- Whether there are no symbolic links in a tree. -/
def isLinkFree : Entry → Bool
  | .dir entries => allLinkFree entries
  | .file _ => true
  | .link _ => false

/-- `isLinkFree` for all entries of a directory. -/
def allLinkFree : List (Octets × Entry) → Bool
  | [] => true
  | (_, e) :: rest => e.isLinkFree && allLinkFree rest

end

/-- What names lead to from the top of a tree, one after the other. -/
def below? (e : Entry) : List String → Option Entry
  | [] => some e
  | name :: rest => (e.child? (.text name)).bind fun inner ↦ inner.below? rest

/-- Whether names lead to a directory. -/
def HasFolder (e : Entry) (dirs : List String) : Prop := ∃ inner ∈ e.below? dirs, inner.isDir

/-- Whether names of directories and a stem lead to a page file. -/
def HasPage (e : Entry) (dirs : List String) (stem : String) : Prop :=
  stem ≠ "" ∧ ∃ inner ∈ e.below? (dirs ++ [Scan.pageFile stem]), inner.isFile

/-- Trees that agree in what a scan looks at: the directories, the page files, and the contents of
the metadata files beside them. -/
structure Alike (e f : Entry) : Prop where
  hasFolder_iff (dirs : List String) : e.HasFolder dirs ↔ f.HasFolder dirs
  hasPage_iff (dirs : List String) (stem : String) : e.HasPage dirs stem ↔ f.HasPage dirs stem
  metadata_iff (dirs : List String) (name : String) (content : Octets) :
    e.HasFolder (dirs ++ [name]) ∨ e.HasPage dirs name →
      (e.below? (dirs ++ [Segment.normalize name ++ Scan.metadataSuffix]) = some (.file content) ↔
        f.below? (dirs ++ [Segment.normalize name ++ Scan.metadataSuffix]) = some (.file content))

end Entry

/-- Whether there are no symbolic links on a disk. -/
def Disk.isLinkFree (disk : Disk) : Bool := (Entry.dir disk.entries).isLinkFree

/-- The tree that a path leads to. -/
def Disk.treeAt? (disk : Disk) (workingDir path : DiskPath) : Option Entry :=
  (disk.find workingDir path).toOption.map fun place ↦ disk.current place.1

/-! ### Trees without links -/

namespace Entry

variable {e f inner : Entry} {name s stem : String} {content : Octets}

theorem allLinkFree_iff {entries : List (Octets × Entry)} :
    allLinkFree entries ↔ ∀ r ∈ entries, r.2.isLinkFree := by
  induction entries with
  | nil => simp [allLinkFree]
  | cons r rest ih => simp [allLinkFree, ih]

theorem isLinkFree_mem (he : e.isLinkFree) {r : Octets × Entry} (hr : r ∈ e.entries) :
    r.2.isLinkFree := by
  cases e with
  | dir entries => exact allLinkFree_iff.mp he r hr
  | file => simp [entries] at hr
  | link => simp [entries] at hr

@[simp] theorem below?_singleton : e.below? [s] = e.child? (.text s) := by
  simp [below?]

theorem hasFolder_nil_iff : e.HasFolder [] ↔ e.isDir := by
  simp [HasFolder, below?]

theorem hasFolder_singleton_iff :
    e.HasFolder [s] ↔ ∃ entries, e.child? (.text s) = some (.dir entries) := by
  rw [HasFolder, below?_singleton]
  constructor
  · rintro ⟨inner, hinner, hdir⟩
    cases inner with
    | dir entries => exact ⟨entries, hinner⟩
    | file => cases hdir
    | link => cases hdir
  · rintro ⟨entries, h⟩
    exact ⟨_, h, rfl⟩

theorem hasPage_nil_iff :
    e.HasPage [] stem ↔
      stem ≠ "" ∧ ∃ content, e.child? (.text (Scan.pageFile stem)) = some (.file content) := by
  rw [HasPage, List.nil_append, below?_singleton]
  refine and_congr_right fun _ ↦ ⟨?_, ?_⟩
  · rintro ⟨inner, hinner, hfile⟩
    cases inner with
    | dir => cases hfile
    | file content => exact ⟨content, hinner⟩
    | link => cases hfile
  · rintro ⟨content, h⟩
    exact ⟨_, h, rfl⟩

theorem hasFolder_cons_iff (h : e.child? (.text name) = some inner) {dirs : List String} :
    e.HasFolder (name :: dirs) ↔ inner.HasFolder dirs := by
  simp [HasFolder, below?, h]

theorem hasPage_cons_iff (h : e.child? (.text name) = some inner) {dirs : List String} :
    e.HasPage (name :: dirs) stem ↔ inner.HasPage dirs stem := by
  simp [HasPage, below?, h]

/-- Directories of the same name in trees that are alike are alike. -/
theorem Alike.child (h : e.Alike f) {inner' : Entry} (he : e.child? (.text name) = some inner)
    (hf : f.child? (.text name) = some inner') : inner.Alike inner' := by
  refine ⟨fun dirs ↦ ?_, fun dirs stem ↦ ?_, fun dirs other content hbeside ↦ ?_⟩
  · rw [← hasFolder_cons_iff he, ← hasFolder_cons_iff hf, h.hasFolder_iff]
  · rw [← hasPage_cons_iff he, ← hasPage_cons_iff hf, h.hasPage_iff]
  · have hiff := h.metadata_iff (name :: dirs) other content
    rw [List.cons_append, List.cons_append, hasFolder_cons_iff he, hasPage_cons_iff he] at hiff
    simpa [below?, he, hf] using hiff hbeside

theorem Alike.refl (e : Entry) : e.Alike e := ⟨fun _ ↦ .rfl, fun _ _ ↦ .rfl, fun _ _ _ _ ↦ .rfl⟩

/-- From a tree to the trees in it, a name at a time. -/
theorem below?_cons (h : e.child? (.text name) = some inner) (names : List String) :
    e.below? (name :: names) = inner.below? names := by
  simp [below?, h]

/-- Names lead on only from directories. -/
theorem exists_of_below?_cons {names : List String} (hnames : names ≠ [])
    (h : e.below? (name :: names) = some f) :
    ∃ entries, e.child? (.text name) = some (.dir entries) := by
  obtain ⟨inner, hchild, hinner⟩ := Option.bind_eq_some_iff.mp h
  obtain ⟨next, rest, rfl⟩ := List.exists_cons_of_ne_nil hnames
  obtain ⟨_, hnext, -⟩ := Option.bind_eq_some_iff.mp hinner
  cases inner with
  | dir entries => exact ⟨entries, hchild⟩
  | file => cases hnext
  | link => cases hnext

/-- Directories are alike if they have the same folders, which are alike, the same pages, and the
same metadata beside them. -/
theorem Alike.of_dir (he : e.isDir) (hf : f.isDir)
    (hfolder : ∀ s, e.HasFolder [s] ↔ f.HasFolder [s])
    (hinside : ∀ s entries others, e.child? (.text s) = some (.dir entries) →
      f.child? (.text s) = some (.dir others) → (Entry.dir entries).Alike (.dir others))
    (hpage : ∀ stem, e.HasPage [] stem ↔ f.HasPage [] stem)
    (hmeta : ∀ s content, e.HasFolder [s] ∨ e.HasPage [] s →
      (e.child? (.text (Segment.normalize s ++ Scan.metadataSuffix)) = some (.file content) ↔
        f.child? (.text (Segment.normalize s ++ Scan.metadataSuffix)) = some (.file content))) :
    e.Alike f := by
  -- A first name with more behind it leads on in both directories, to folders alike, or in neither.
  have hcases (s : String) :
      (∃ inner inner', e.child? (.text s) = some inner ∧
        f.child? (.text s) = some inner' ∧ inner.Alike inner') ∨
      ∀ names ≠ [], e.below? (s :: names) = none ∧
        f.below? (s :: names) = none := by
    by_cases h : e.HasFolder [s]
    · obtain ⟨inner, hinner⟩ := hasFolder_singleton_iff.mp h
      obtain ⟨inner', hinner'⟩ := hasFolder_singleton_iff.mp ((hfolder s).mp h)
      exact .inl ⟨_, _, hinner, hinner', hinside s inner inner' hinner hinner'⟩
    · refine .inr fun names hnames ↦ ⟨?_, ?_⟩
      · refine Option.eq_none_iff_forall_not_mem.mpr fun f hf ↦ h ?_
        exact hasFolder_singleton_iff.mpr (exists_of_below?_cons hnames hf)
      · refine Option.eq_none_iff_forall_not_mem.mpr fun f hf ↦ h ((hfolder s).mpr ?_)
        exact hasFolder_singleton_iff.mpr (exists_of_below?_cons hnames hf)
  refine ⟨fun dirs ↦ ?_, fun dirs stem ↦ ?_, fun dirs beside content hbeside ↦ ?_⟩
  · match dirs with
    | [] => exact iff_of_true (hasFolder_nil_iff.mpr he) (hasFolder_nil_iff.mpr hf)
    | [s] => exact hfolder s
    | s :: t :: rest =>
      rcases hcases s with ⟨inner, inner', hinner, hinner', halike⟩ | hnone
      · rw [hasFolder_cons_iff hinner, hasFolder_cons_iff hinner', halike.hasFolder_iff]
      · simp [HasFolder, hnone (t :: rest) (List.cons_ne_nil t rest)]
  · match dirs with
    | [] => exact hpage stem
    | s :: rest =>
      rcases hcases s with ⟨inner, inner', hinner, hinner', halike⟩ | hnone
      · rw [hasPage_cons_iff hinner, hasPage_cons_iff hinner', halike.hasPage_iff]
      · simp [HasPage, hnone (rest ++ [_]) (by simp)]
  · match dirs with
    | [] => simpa only [List.nil_append, below?_singleton] using hmeta beside content hbeside
    | s :: rest =>
      rcases hcases s with ⟨inner, inner', hinner, hinner', halike⟩ | hnone
      · rw [List.cons_append, hasFolder_cons_iff hinner, hasPage_cons_iff hinner] at hbeside
        rw [List.cons_append, below?_cons hinner, below?_cons hinner']
        exact halike.metadata_iff rest beside content hbeside
      · simp [hnone (rest ++ [_]) (by simp)]

end Entry

/-! ### Metadata -/

/-- Following a file name enters it. -/
theorem DiskPath.steps_of_isFileName {s : String} (h : (Octets.text s).isFileName) :
    DiskPath.steps ⟨s⟩ = [.enter (.text s)] := by
  obtain ⟨hempty, hdot, hdots, hslash⟩ := isFileName_text_iff.mp h
  have hne (t : String) (ht : s ≠ t) : s.toList ≠ t.toList :=
    fun heq ↦ ht (String.toList_inj.mp heq)
  have hdot' : s.toList ≠ ['.'] := hne "." hdot
  have hdots' : s.toList ≠ ['.', '.'] := hne ".." hdots
  simp [steps, pieces_of_not_mem hslash, hempty, hdot', hdots']

namespace Scan

variable {disk other : Disk} {spot spot' : Spot} {listing : Listing} {name : String}

/-- The metadata of a name without slashes is in a file that can be there. -/
theorem isFileName_metadata (hslash : '/' ∉ name.toList) :
    (Octets.text (Segment.normalize name ++ metadataSuffix)).isFileName := by
  have hlong : 10 ≤ (Segment.normalize name ++ metadataSuffix).toList.length := by
    rw [String.toList_append, List.length_append]
    exact Nat.le_add_left _ _
  have hne (t : String) (ht : t.toList.length < 10) :
      Segment.normalize name ++ metadataSuffix ≠ t := by
    rintro rfl
    exact absurd hlong (Nat.not_le.mpr ht)
  refine DiskPath.isFileName_text_iff.mpr
    ⟨hne "" (by decide), hne "." (by decide), hne ".." (by decide), ?_⟩
  rw [String.toList_append, List.mem_append, not_or]
  exact ⟨Segment.slash_not_mem_normalize hslash, by decide⟩

/-- There is no metadata where its file is missing. -/
theorem sidecar_of_no_file (hslash : '/' ∉ name.toList)
    (hfree : (disk.current spot.trail).isLinkFree) (hdir : (disk.current spot.trail).isDir)
    (h : ∀ content, (disk.current spot.trail).child?
      (.text (Segment.normalize name ++ metadataSuffix)) ≠ some (.file content)) :
    sidecar disk spot (Segment.normalize name) = .ok none := by
  simp only [sidecar, DiskPath.steps_of_isFileName (isFileName_metadata hslash)]
  cases hchild : (disk.current spot.trail).child?
      (.text (Segment.normalize name ++ metadataSuffix)) with
  | none =>
    rw [Disk.walk_free hdir hchild]
    rfl
  | some inner =>
    cases inner with
    | dir entries =>
      rw [Disk.walk_enter hchild (by simp), Disk.walk_nil]
      rfl
    | file content => exact absurd hchild (h content)
    | link target => cases Entry.isLinkFree_mem hfree (Entry.mem_of_child? hchild)

/-- The metadata in files of the same content is the same. -/
theorem sidecar_eq_of_file (hslash : '/' ∉ name.toList) (hpath : spot.path = spot'.path)
    {content : Octets}
    (h : (disk.current spot.trail).child? (.text (Segment.normalize name ++ metadataSuffix)) =
      some (.file content))
    (h' : (other.current spot'.trail).child? (.text (Segment.normalize name ++ metadataSuffix)) =
      some (.file content)) :
    sidecar disk spot (Segment.normalize name) = sidecar other spot' (Segment.normalize name) := by
  simp only [sidecar, DiskPath.steps_of_isFileName (isFileName_metadata hslash)]
  rw [Disk.walk_enter h (by simp), Disk.walk_enter h' (by simp), Disk.walk_nil, Disk.walk_nil,
    hpath]
  rfl

/-- **Metadata.** What a scan reads beside a folder or page is the same in trees that are alike. -/
theorem sidecar_eq_of_alike (hslash : '/' ∉ name.toList) (hpath : spot.path = spot'.path)
    (halike : (disk.current spot.trail).Alike (other.current spot'.trail))
    (hfree : (disk.current spot.trail).isLinkFree) (hfree' : (other.current spot'.trail).isLinkFree)
    (hbeside : (disk.current spot.trail).HasFolder [name] ∨
      (disk.current spot.trail).HasPage [] name) :
    sidecar disk spot (Segment.normalize name) = sidecar other spot' (Segment.normalize name) := by
  have hiff (content : Octets) := halike.metadata_iff [] name content hbeside
  simp only [List.nil_append, Entry.below?_singleton] at hiff
  have hdir : (disk.current spot.trail).isDir := by
    rcases hbeside with h | h
    · obtain ⟨_, h⟩ := Entry.hasFolder_singleton_iff.mp h
      exact Entry.isDir_of_child? h
    · obtain ⟨-, _, h⟩ := Entry.hasPage_nil_iff.mp h
      exact Entry.isDir_of_child? h
  have hdir' : (other.current spot'.trail).isDir :=
    Entry.hasFolder_nil_iff.mp ((halike.hasFolder_iff []).mp (Entry.hasFolder_nil_iff.mpr hdir))
  by_cases hfile : ∃ content, (disk.current spot.trail).child?
      (.text (Segment.normalize name ++ metadataSuffix)) = some (.file content)
  · obtain ⟨content, h⟩ := hfile
    exact sidecar_eq_of_file hslash hpath h ((hiff content).mp h)
  · have hnone := not_exists.mp hfile
    rw [sidecar_of_no_file hslash hfree hdir hnone,
      sidecar_of_no_file hslash hfree' hdir' fun content h ↦ hnone content ((hiff content).mpr h)]

/-! ### Entries that matter -/

/-- Whether an entry of a directory without links matters to a scan: it is a directory or a page
file, and its name is a text. -/
def matters : Octets × Entry → Bool
  | (.text _, .dir _) => true
  | (.text s, .file _) => (DiskPath.splitExtension s).2 = some pageExtension
  | _ => false

/-- An entry that does not matter is passed over. -/
theorem addEntry_of_not_matters {viaLink inside : Scanner} {r : Octets × Entry}
    (hfree : r.2.isLinkFree) (h : ¬matters r) (listing : Listing) :
    addEntry disk spot viaLink r.1 r.2 inside listing = .ok listing := by
  obtain ⟨name, entry⟩ := r
  cases entry with
  | link target => cases hfree
  | dir entries =>
    cases name with
    | raw => rfl
    | text s => exact absurd rfl h
  | file content =>
    cases name with
    | raw => rfl
    | text s =>
      have hext : (DiskPath.splitExtension s).2 ≠ some pageExtension := by simpa [matters] using h
      simp [addEntry, addFile, hext]

theorem addEntries_filter {viaLink : Scanner} {scanner : Entry → Scanner}
    {entries : List (Octets × Entry)} (hfree : ∀ r ∈ entries, r.2.isLinkFree) (listing : Listing) :
    addEntries disk spot viaLink (entries.map fun r ↦ (r.1, r.2, scanner r.2)) listing =
      addEntries disk spot viaLink ((entries.filter matters).map fun r ↦ (r.1, r.2, scanner r.2))
        listing := by
  induction entries generalizing listing with
  | nil => rfl
  | cons r rest ih =>
    obtain ⟨hr, hrest⟩ := List.forall_mem_cons.mp hfree
    by_cases h : matters r
    · rw [List.filter_cons_of_pos h, List.map_cons, List.map_cons, addEntries, addEntries]
      split
      · rfl
      · exact ih hrest _
    · rw [List.filter_cons_of_neg h, List.map_cons, addEntries, addEntry_of_not_matters hr h]
      exact ih hrest listing

/-- The names of the entries that matter are those of the directories and the pages. -/
theorem exists_matters_iff {e : Entry} (he : e.isProper) {name : Octets} :
    (∃ r ∈ e.entries, matters r ∧ r.1 = name) ↔
      ∃ s, name = .text s ∧ (e.HasFolder [s] ∨ ∃ stem, s = pageFile stem ∧ e.HasPage [] stem) := by
  constructor
  · rintro ⟨⟨name, entry⟩, hr, hmatters, rfl⟩
    have hchild := (Entry.child?_eq_some_iff he).mpr hr
    cases name with
    | raw => simp [matters] at hmatters
    | text s =>
      refine ⟨s, rfl, ?_⟩
      cases entry with
      | dir entries => exact .inl (Entry.hasFolder_singleton_iff.mpr ⟨entries, hchild⟩)
      | link target => cases hmatters
      | file content =>
        obtain ⟨⟨stem, ext⟩, hsplit⟩ : ∃ parts, DiskPath.splitExtension s = parts := ⟨_, rfl⟩
        obtain rfl : ext = some pageExtension := by simpa [matters, hsplit] using hmatters
        obtain ⟨rfl, hstem⟩ := splitExtension_eq_page_iff.mp hsplit
        exact .inr ⟨stem, rfl, Entry.hasPage_nil_iff.mpr ⟨hstem, content, hchild⟩⟩
  · rintro ⟨s, rfl, hfolder | ⟨stem, rfl, hpage⟩⟩
    · obtain ⟨entries, hchild⟩ := Entry.hasFolder_singleton_iff.mp hfolder
      exact ⟨_, Entry.mem_of_child? hchild, rfl, rfl⟩
    · obtain ⟨hstem, content, hchild⟩ := Entry.hasPage_nil_iff.mp hpage
      refine ⟨_, Entry.mem_of_child? hchild, ?_, rfl⟩
      simp [matters, splitExtension_eq_page_iff.mpr ⟨rfl, hstem⟩]

/-! ### Scans of trees that are alike -/

/-- Items of the same names, one by one, are related if those of one name are. -/
theorem forall₂_of_names_eq {α β : Type} {R : Octets × α → Octets × β → Prop}
    {items : List (Octets × α)} {others : List (Octets × β)}
    (hnames : items.map Prod.fst = others.map Prod.fst)
    (h : ∀ r ∈ items, ∀ r' ∈ others, r.1 = r'.1 → R r r') : List.Forall₂ R items others := by
  induction items generalizing others with
  | nil =>
    obtain rfl := List.map_eq_nil_iff.mp hnames.symm
    exact .nil
  | cons r rest ih =>
    obtain ⟨r', others, rfl, hname, hrest⟩ := List.map_eq_cons_iff.mp hnames.symm
    refine .cons (h r List.mem_cons_self r' List.mem_cons_self hname.symm) (ih hrest.symm ?_)
    exact fun a ha a' ha' ↦ h a (List.mem_cons_of_mem _ ha) a' (List.mem_cons_of_mem _ ha')

/-- The entries that matter have the same names in trees that are alike. -/
theorem names_matters_eq {e f : Entry} (he : e.isProper) (hf : f.isProper) (h : e.Alike f) :
    ((sortByName e.entries).filter matters).map Prod.fst =
      ((sortByName f.entries).filter matters).map Prod.fst := by
  have hordered {g : Entry} (hg : g.isProper) :
      (((sortByName g.entries).filter matters).map Prod.fst).Pairwise Octets.Before :=
    List.pairwise_map.mpr ((pairwise_sortByName (Entry.nodup_of_isProper hg)).filter _)
  have hmem {g : Entry} (hg : g.isProper) (name : Octets) :
      name ∈ ((sortByName g.entries).filter matters).map Prod.fst ↔
        ∃ s, name = .text s ∧
          (g.HasFolder [s] ∨ ∃ stem, s = pageFile stem ∧ g.HasPage [] stem) := by
    rw [← exists_matters_iff hg]
    simp only [List.mem_map, List.mem_filter, mem_sortByName, and_assoc]
  have hnodup {g : Entry} (hg : g.isProper) :
      (((sortByName g.entries).filter matters).map Prod.fst).Nodup := by
    refine (hordered hg).imp ?_
    rintro a _ hbefore rfl
    exact Octets.Before.irrefl a hbefore
  have hperm := (List.perm_ext_iff_of_nodup (hnodup he) (hnodup hf)).mpr fun name ↦ by
    rw [hmem he, hmem hf]
    simp only [h.hasFolder_iff, h.hasPage_iff]
  exact hperm.eq_of_pairwise (fun _ _ _ _ hab hba ↦ (hab.asymm hba).elim) (hordered he)
    (hordered hf)

/-- Entries of one name that matter give the same in trees that are alike, if directories do. -/
theorem addEntry_eq_of_alike {viaLink viaLink' : Scanner} {e f : Entry} (he : e.isProper)
    (hf : f.isProper) (hfree : e.isLinkFree) (hfree' : f.isLinkFree) (halike : e.Alike f)
    (hpath : spot.path = spot'.path) (hcurrent : disk.current spot.trail = e)
    (hcurrent' : other.current spot'.trail = f) {entry entry' : Entry} {name : Octets}
    (hentry : (name, entry) ∈ e.entries) (hentry' : (name, entry') ∈ f.entries)
    (hmatters : matters (name, entry))
    (hinside : ∀ path trail trail', entry.Alike entry' → disk.current trail = entry →
      other.current trail' = entry' →
      tree disk viaLink entry ⟨path, trail, spot.linksLeft⟩ =
        tree other viaLink' entry' ⟨path, trail', spot'.linksLeft⟩) :
    addEntry disk spot viaLink name entry (tree disk viaLink entry) listing =
      addEntry other spot' viaLink' name entry' (tree other viaLink' entry') listing := by
  have hchild := (Entry.child?_eq_some_iff he).mpr hentry
  have hchild' := (Entry.child?_eq_some_iff hf).mpr hentry'
  obtain ⟨hname, -⟩ := Entry.isProper_mem he hentry
  have hsidecar {beside : String} (hslash : '/' ∉ beside.toList)
      (h : e.HasFolder [beside] ∨ e.HasPage [] beside) :
      sidecar disk spot (Segment.normalize beside) =
        sidecar other spot' (Segment.normalize beside) := by
    subst hcurrent hcurrent'
    exact sidecar_eq_of_alike hslash hpath halike hfree hfree' h
  cases name with
  | raw => simp [matters] at hmatters
  | text s =>
    obtain ⟨-, -, -, hslash⟩ := DiskPath.isFileName_text_iff.mp hname
    cases entry with
    | link target => cases hmatters
    | dir entries =>
      have hfolder : e.HasFolder [s] := Entry.hasFolder_singleton_iff.mpr ⟨entries, hchild⟩
      obtain ⟨entries', hdir'⟩ :=
        Entry.hasFolder_singleton_iff.mp ((halike.hasFolder_iff [s]).mp hfolder)
      obtain rfl : entry' = .dir entries' := Option.some.inj (hchild'.symm.trans hdir')
      simp only [addEntry, Octets.text?_text, addFolder, hsidecar hslash (.inl hfolder), ← hpath]
      rw [hinside _ _ ((.text s, .dir entries') :: spot'.trail)
        (halike.child hchild hchild') rfl rfl]
    | file content =>
      obtain ⟨⟨stem, ext⟩, hsplit⟩ : ∃ parts, DiskPath.splitExtension s = parts := ⟨_, rfl⟩
      obtain rfl : ext = some pageExtension := by simpa [matters, hsplit] using hmatters
      obtain ⟨rfl, hstem⟩ := splitExtension_eq_page_iff.mp hsplit
      have hpage : e.HasPage [] stem := Entry.hasPage_nil_iff.mpr ⟨hstem, content, hchild⟩
      obtain ⟨-, content', hfile'⟩ :=
        Entry.hasPage_nil_iff.mp ((halike.hasPage_iff [] stem).mp hpage)
      obtain rfl : entry' = .file content' := Option.some.inj (hchild'.symm.trans hfile')
      have hstemSlash : '/' ∉ stem.toList := fun h ↦ hslash (by simp [pageFile, h])
      simp only [addEntry, Octets.text?_text, addFile, hsplit, hsidecar hstemSlash (.inr hpage),
        hpath]

/-- **Scans of trees that are alike.** Scans of two trees without links that are alike give the
same, whatever else is in the trees, and whatever disks they are on. -/
theorem tree_eq_of_alike {viaLink viaLink' : Scanner} {e f : Entry} (he : e.isProper)
    (hf : f.isProper) (hfree : e.isLinkFree) (hfree' : f.isLinkFree) (halike : e.Alike f)
    (hpath : spot.path = spot'.path) (hcurrent : disk.current spot.trail = e)
    (hcurrent' : other.current spot'.trail = f) :
    tree disk viaLink e spot = tree other viaLink' f spot' := by
  induction e using Entry.induct generalizing f spot spot' with
  | link target => cases hfree
  | file content =>
    cases f with
    | link target => cases hfree'
    | file content' => rfl
    | dir entries' =>
      have hdir := (halike.hasFolder_iff []).mpr (Entry.hasFolder_nil_iff.mpr rfl)
      cases Entry.hasFolder_nil_iff.mp hdir
  | dir entries ih =>
    have hdir' : f.isDir :=
      Entry.hasFolder_nil_iff.mp ((halike.hasFolder_iff []).mp (Entry.hasFolder_nil_iff.mpr rfl))
    cases f with
    | link target => cases hdir'
    | file content' => cases hdir'
    | dir entries' =>
      have hentries {es : List (Octets × Entry)} (h : (Entry.dir es).isLinkFree) :
          ∀ r ∈ sortByName es, r.2.isLinkFree := fun r hr ↦
        Entry.isLinkFree_mem h (mem_sortByName.mp hr)
      simp only [tree, scanners_eq_map, ← map_sortByName]
      rw [addEntries_filter (hentries hfree), addEntries_filter (hentries hfree')]
      refine addEntries_congr (forall₂_of_names_eq ?_ ?_) _
      · rw [List.map_map, List.map_map]
        exact names_matters_eq he hf halike
      · rintro r hr r' hr' hname listing
        obtain ⟨⟨name, entry⟩, ha, rfl⟩ := List.mem_map.mp hr
        obtain ⟨⟨name', entry'⟩, ha', rfl⟩ := List.mem_map.mp hr'
        obtain rfl : name = name' := hname
        obtain ⟨ha, hmatters⟩ := List.mem_filter.mp ha
        have ha := mem_sortByName.mp ha
        have ha' := mem_sortByName.mp (List.mem_filter.mp ha').1
        refine addEntry_eq_of_alike he hf hfree hfree' halike hpath hcurrent hcurrent' ha ha'
          hmatters fun path trail trail' hinner htrail htrail' ↦ ?_
        exact ih _ ha (Entry.isProper_mem he ha).2 (Entry.isProper_mem hf ha').2
          (Entry.isLinkFree_mem hfree ha) (Entry.isLinkFree_mem hfree' ha') hinner rfl htrail
          htrail'

theorem directory_eq_of_alike {e f : Entry} (he : e.isProper) (hf : f.isProper)
    (hfree : e.isLinkFree) (hfree' : f.isLinkFree) (halike : e.Alike f) {trail trail' : Disk.Trail}
    (hcurrent : disk.current trail = e) (hcurrent' : other.current trail' = f) (path : DiskPath)
    (links links' left left' : Nat) :
    directory disk links ⟨path, trail, left⟩ = directory other links' ⟨path, trail', left'⟩ := by
  subst hcurrent hcurrent'
  cases links <;> cases links' <;>
    exact tree_eq_of_alike he hf hfree hfree' halike rfl rfl rfl

end Scan

/-! ### The page directory -/

/-- On the trails of a disk without links there are trees without links. -/
theorem Disk.HasTrail.isLinkFree {disk : Disk} (hfree : disk.isLinkFree) {trail : Trail}
    (h : disk.HasTrail trail) : (disk.current trail).isLinkFree := by
  induction h with
  | root => exact hfree
  | into above hchild _ ih => exact Entry.isLinkFree_mem ih (Entry.mem_of_child? hchild)

section PageDirectory

variable {disk other : Disk} {workingDir path : DiskPath} {e : Entry}

/-- What a path leads to on a disk without links. -/
theorem Disk.exists_of_treeAt? (hdisk : disk.isProper) (hfree : disk.isLinkFree)
    (h : disk.treeAt? workingDir path = some e) :
    ∃ trail left, disk.find workingDir path = .ok (trail, left) ∧ disk.current trail = e ∧
      e.isProper ∧ e.isLinkFree := by
  obtain ⟨⟨trail, left⟩, hplace, rfl⟩ := Option.map_eq_some_iff.mp h
  have hfind : disk.find workingDir path = .ok (trail, left) := by
    cases hresult : disk.find workingDir path with
    | error cause => simp [hresult, Except.toOption] at hplace
    | ok place => simpa [hresult, Except.toOption] using hplace
  have htrail := Disk.hasTrail_of_find hfind
  exact ⟨trail, left, hfind, rfl, Disk.isProper_current hdisk (htrail.isSound hdisk),
    htrail.isLinkFree hfree⟩

theorem Disk.exists_of_treeAt?_eq_none (h : disk.treeAt? workingDir path = none) :
    ∃ cause, disk.find workingDir path = .error cause := by
  rw [treeAt?, Option.map_eq_none_iff] at h
  cases hresult : disk.find workingDir path with
  | error cause => exact ⟨cause, rfl⟩
  | ok place => simp [hresult, Except.toOption] at h

/-- **Files that a scan does not look at.** On disks without links the routes of a path, or the
fault that there are none, are the same if the path leads to trees that are alike, or to nothing. -/
theorem buildRouteTree_eq_of_alike (hdisk : disk.isProper) (hother : other.isProper)
    (hfree : disk.isLinkFree) (hfree' : other.isLinkFree)
    (halike : Option.Rel Entry.Alike (disk.treeAt? workingDir path)
      (other.treeAt? workingDir path)) :
    buildRouteTree disk workingDir path = buildRouteTree other workingDir path := by
  generalize htree : disk.treeAt? workingDir path = tree at halike
  generalize htree' : other.treeAt? workingDir path = tree' at halike
  cases halike with
  | none =>
    obtain ⟨_, hfind⟩ := Disk.exists_of_treeAt?_eq_none htree
    obtain ⟨_, hfind'⟩ := Disk.exists_of_treeAt?_eq_none htree'
    simp only [buildRouteTree, hfind, hfind']
  | @some e f h =>
    obtain ⟨trail, left, hfind, hcurrent, he, hfreeTree⟩ := Disk.exists_of_treeAt? hdisk hfree htree
    obtain ⟨trail', left', hfind', hcurrent', hf, hfreeTree'⟩ :=
      Disk.exists_of_treeAt? hother hfree' htree'
    have hdir : e.isDir = f.isDir := by
      rw [Bool.eq_iff_iff, ← Entry.hasFolder_nil_iff, ← Entry.hasFolder_nil_iff, h.hasFolder_iff]
    simp only [buildRouteTree, hfind, hfind', hcurrent, hcurrent', hdir,
      Scan.directory_eq_of_alike he hf hfreeTree hfreeTree' h hcurrent hcurrent' path left left'
        left
        left']

end PageDirectory

end PageRoutes
