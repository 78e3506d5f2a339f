import PageRoutes.Proofs.Scan.Faults
/-!
# The first fault of a scan

A scan fails if and only if something is wrong below the directory, and then it reports what is
wrong at the first position in its order: entries come by the bytes of their names, and what is
inside a folder comes before the metadata of the folder. The scan looks at more than what becomes a
route. It fails at a link that leads nowhere, whatever the link's name, and at the metadata of an
index page that pruning would remove.

A link that leads back to the directory it is in would be a fault of its own. On a disk without
cycles there is none.

## Main results

* `Scan.reports_directory` : the scan of a directory reports the faults below it.
* `Scan.buildRouteTree_outcome` : when the routes of a directory are made, and the fault that is
  reported if they are not.
-/

namespace PageRoutes

namespace Scan

/-! ### Scans of entries -/

section Scans

variable {disk : Disk} {spot : Spot} {listing : Listing} {links : Nat}

/-- Of an entry that is no folder the scan reports what is wrong at the entry itself. -/
theorem reports_faultUnder {α : Type} {result : Except Fault α} {name : Octets}
    (hleaf : ∀ s place, name = .text s → disk.reach [.enter name] spot.place = some place →
      (disk.current place.1).isDir = false)
    (hresult : ∀ fault, result = .error fault ↔ EntryFault disk spot name fault) :
    Reports (FaultUnder disk spot name) result :=
  (reports_of_error_iff hresult).congr fun _ _ ↦ faultUnder_iff_entryFault hleaf

/-- The scan of a folder reports what is wrong inside it, and then what is wrong with its metadata.
-/
theorem reports_addFolder {dirName : String} {place : Disk.Trail × Nat}
    {inside : Except Fault Listing}
    (hplace : disk.reach [.enter (.text dirName)] spot.place = some place)
    (hdir : (disk.current place.1).isDir)
    (hinside : Reports (FaultAt disk (spot.below [dirName] place)) inside) :
    Reports (FaultUnder disk spot (.text dirName))
      (addFolder disk spot dirName inside listing) := by
  have hmetadata (nested : Listing) :
      Reports (fun p fault ↦ p = [.text dirName] ∧ SidecarFault disk spot dirName fault)
        ((sidecar disk spot (Segment.normalize dirName)).map fun metadata ↦
          { listing with routes := listing.routes ++
              [Route.folder (Segment.routePath (Segment.normalize dirName)) nested.indexPage
                nested.routes metadata] }) :=
    (reports_of_error_iff fun _ ↦ sidecar_eq_error_iff).map _
  have hboth := (hinside.under (.text dirName)).bind hmetadata ?_
  · refine hboth.congr fun p fault ↦ ⟨?_, ?_⟩
    · rintro (⟨rest, rfl, hfault⟩ | ⟨rfl, hfault⟩)
      · exact ⟨rest, rfl, faultAt_cons_iff.mpr (.inr ⟨dirName, place, rfl, hplace, hfault⟩)⟩
      · exact ⟨[], rfl, faultAt_cons_iff.mpr (.inl ⟨rfl, .folder hplace hdir hfault⟩)⟩
    · rintro ⟨rest, rfl, hfault⟩
      rcases faultAt_cons_iff.mp hfault with ⟨rfl, hown⟩ | ⟨s, place', hs, hplace', hbelow⟩
      · exact .inr ⟨rfl, (entryFault_iff_of_isDir hplace hdir).mp hown⟩
      · obtain rfl := Octets.text.inj hs
        obtain rfl := Option.some.inj (hplace.symm.trans hplace')
        exact .inl ⟨rest, rfl, hbelow⟩
  · rintro p fault q other ⟨rest, rfl, hfault⟩ ⟨rfl, -⟩
    cases rest with
    | nil =>
      obtain ⟨r, -, more, hposition⟩ := exists_entry_of_faultAt hfault
      cases hposition
    | cons name rest => exact .under _ (.inside name rest)

/-- A file is not taken into a listing exactly for what is wrong at its entry. -/
theorem addFile_eq_error_iff {fileName : String} {place : Disk.Trail × Nat} {fault : Fault}
    (hplace : disk.reach [.enter (.text fileName)] spot.place = some place)
    (hfile : (disk.current place.1).isFile) :
    addFile disk spot fileName listing = .error fault ↔
      EntryFault disk spot (.text fileName) fault := by
  rw [entryFault_iff_of_isFile hplace hfile]
  unfold addFile
  split
  next stem extension hsplit =>
  by_cases hext : extension = some pageExtension
  · subst hext
    rw [if_pos rfl]
    refine (bind_ok_eq_error_iff.trans sidecar_eq_error_iff).trans
      ⟨fun hfault ↦ ⟨stem, hsplit, hfault⟩, ?_⟩
    rintro ⟨stem', hsplit', hfault⟩
    cases hsplit.symm.trans hsplit'
    exact hfault
  · rw [if_neg hext]
    refine iff_of_false nofun ?_
    rintro ⟨stem', hsplit', -⟩
    cases hsplit.symm.trans hsplit'
    exact hext rfl

theorem reports_addFile (hdisk : disk.isProper) (hspot : disk.HasTrail spot.trail)
    {fileName : String} {place : Disk.Trail × Nat}
    (hplace : disk.reach [.enter (.text fileName)] spot.place = some place)
    (hdir : (disk.current place.1).isDir = false) :
    Reports (FaultUnder disk spot (.text fileName)) (addFile disk spot fileName listing) := by
  have hfile : (disk.current place.1).isFile := by
    have htrail := Disk.hasTrail_of_reach hspot hplace
    refine (disk.isDir_or_isFile_current (htrail.isSound hdisk)).resolve_left ?_
    simp [hdir]
  refine reports_faultUnder (fun s other _ hother ↦ ?_)
    fun fault ↦ addFile_eq_error_iff hplace hfile
  rwa [← Option.some.inj (hplace.symm.trans hother)]

/-- An entry whose name is no text is passed over where it leads somewhere. -/
theorem reports_passed {bytes : ByteArray} {hbytes : String.fromUTF8? bytes = none}
    {place : Disk.Trail × Nat}
    (hplace : disk.reach [.enter (.raw bytes hbytes)] spot.place = some place) :
    Reports (FaultUnder disk spot (.raw bytes hbytes)) (.ok listing : Except Fault Listing) :=
  reports_faultUnder nofun fun _ ↦ iff_of_false nofun (not_entryFault_raw hplace)

/-- An entry that leads nowhere is reported, whatever its name. -/
theorem reports_unresolved {α : Type} {name : Octets} {entry : Entry} {cause : DiskFault}
    (hentry : (name, entry) ∈ spot.entries disk)
    (hcause : (disk.walk spot.linksLeft [.enter name] spot.trail >>= Disk.Place.existing) =
      .error cause) :
    Reports (FaultUnder disk spot name)
      (.error (.walk spot.path (.entry (showEntry spot.path name) cause)) : Except Fault α) := by
  refine reports_faultUnder (fun _ _ _ hplace ↦ (not_unresolved hplace hcause).elim) fun fault ↦ ?_
  constructor
  · intro h
    exact Except.error.inj h ▸ .unresolved hentry hcause
  · intro h
    cases h with
    | unresolved _ hcause' =>
      cases hcause.symm.trans hcause'
      rfl
    | folder hplace => exact (not_unresolved hplace hcause).elim
    | page hplace => exact (not_unresolved hplace hcause).elim

/-- The scan of an entry reports what is wrong under its name, if the scans of the directory that it
stands for do. -/
theorem reports_addEntry (hdisk : disk.isProper) (hacyclic : disk.IsAcyclic)
    (hspot : disk.HasTrail spot.trail) {viaLink inside : Scanner} {name : Octets} {entry : Entry}
    (hentry : (name, entry) ∈ spot.entries disk)
    (hlink : ∀ inner : Spot, disk.HasTrail inner.trail → inner.linksLeft < spot.linksLeft →
      Reports (FaultAt disk inner) (viaLink inner))
    (hinside : ∀ inner : Spot, disk.HasTrail inner.trail → disk.current inner.trail = entry →
      inner.linksLeft = spot.linksLeft → Reports (FaultAt disk inner) (inside inner)) :
    Reports (FaultUnder disk spot name) (addEntry disk spot viaLink name entry inside listing) := by
  have hsound := hspot.isSound hdisk
  have hchild : (disk.current spot.trail).child? name = some entry :=
    (Entry.child?_eq_some_iff (Disk.isProper_current hdisk hsound)).mpr (Spot.mem_entries.mp hentry)
  have hplace := entryPlace_eq_reach hdisk hsound hentry
  cases entry with
  | dir entries =>
    cases name with
    | raw bytes hbytes => exact reports_passed hplace.symm
    | text dirName =>
      exact reports_addFolder hplace.symm rfl (hinside _ (.into hspot hchild nofun) rfl rfl)
  | file content =>
    cases name with
    | raw bytes hbytes => exact reports_passed hplace.symm
    | text fileName => exact reports_addFile hdisk hspot hplace.symm rfl
  | link target =>
    simp only [addEntry]
    split
    · next cause hcause => exact reports_unresolved hentry hcause
    · next trail left hwalk =>
      have hreach : disk.reach [.enter name] spot.place = some (trail, left) :=
        Disk.reach_eq_some_iff.mpr hwalk
      have hloop : ¬trail.names == spot.trail.names := by
        simpa using hacyclic spot.trail hspot [name] (List.cons_ne_nil name []) _ _ hreach
      split
      · next hdir =>
        cases name with
        | raw bytes hbytes => exact reports_passed hreach
        | text dirName =>
          exact reports_addFolder hreach hdir (hlink _ (Disk.hasTrail_of_reach hspot hreach)
            (Disk.left_lt_of_reach hchild hreach))
      · next hdir =>
        cases name with
        | raw bytes hbytes => exact reports_passed hreach
        | text fileName => exact reports_addFile hdisk hspot hreach (by simpa using hdir)

/-! ### Scans of directories -/

theorem addEntries_cons {viaLink : Scanner} (r : Octets × Entry × Scanner)
    (rest : List (Octets × Entry × Scanner)) :
    addEntries disk spot viaLink (r :: rest) listing =
      addEntry disk spot viaLink r.1 r.2.1 r.2.2 listing >>= addEntries disk spot viaLink rest := by
  rw [addEntries]
  cases addEntry disk spot viaLink r.1 r.2.1 r.2.2 listing <;> rfl

/-- The scan of entries in order reports what is wrong under their names. -/
theorem reports_addEntries {viaLink : Scanner} {scanners : List (Octets × Entry × Scanner)}
    (hsorted : scanners.Pairwise fun a b ↦ a.1.Before b.1)
    (hscanners : ∀ r ∈ scanners, ∀ listing,
      Reports (FaultUnder disk spot r.1) (addEntry disk spot viaLink r.1 r.2.1 r.2.2 listing))
    (listing : Listing) :
    Reports (fun p fault ↦ ∃ r ∈ scanners, FaultUnder disk spot r.1 p fault)
      (addEntries disk spot viaLink scanners listing) := by
  induction scanners generalizing listing with
  | nil => exact fun p fault ↦ by simp
  | cons r rest ih =>
    obtain ⟨hr, hrest⟩ := List.forall_mem_cons.mp hscanners
    obtain ⟨hbefore, hpairwise⟩ := List.pairwise_cons.mp hsorted
    have hboth := (hr listing).bind (fun next ↦ ih hpairwise hrest next) ?_
    · rw [addEntries_cons]
      exact hboth.congr fun p fault ↦ by simp
    · rintro p fault q other ⟨more, rfl, -⟩ ⟨r', hr', more', rfl, -⟩
      exact .names (hbefore r' hr') more more'

/-- Faults below a spot are under the names of the entries there. -/
theorem exists_faultUnder_iff {p : List Octets} {fault : Fault} :
    (∃ r ∈ spot.entries disk, FaultUnder disk spot r.1 p fault) ↔ FaultAt disk spot p fault := by
  constructor
  · rintro ⟨r, -, rest, rfl, hfault⟩
    exact hfault
  · intro hfault
    obtain ⟨r, hr, rest, rfl⟩ := exists_entry_of_faultAt hfault
    exact ⟨r, hr, rest, rfl, hfault⟩

/-- The scan of a directory reports the faults below a spot where that directory stands, if the scan
behind links reports the faults below each spot with fewer links left. -/
theorem reports_tree (hdisk : disk.isProper) (hacyclic : disk.IsAcyclic) {viaLink : Scanner}
    (hlink : ∀ inner : Spot, disk.HasTrail inner.trail → inner.linksLeft < links →
      Reports (FaultAt disk inner) (viaLink inner)) (entry : Entry) :
    ∀ spot : Spot, disk.HasTrail spot.trail → disk.current spot.trail = entry →
      spot.linksLeft ≤ links → Reports (FaultAt disk spot) (tree disk viaLink entry spot) := by
  induction entry using Entry.induct with
  | file content =>
    intro spot _ hcurrent _ p fault hfault
    simpa [hcurrent, Entry.isDir] using isDir_of_faultAt hfault
  | link target =>
    intro spot _ hcurrent _ p fault hfault
    simpa [hcurrent, Entry.isDir] using isDir_of_faultAt hfault
  | dir entries ih =>
    intro spot hspot hcurrent hlinks
    have hentries : spot.entries disk = sortByName entries := by
      rw [Spot.entries, hcurrent, Entry.entries]
    have hproper : (Entry.dir entries).isProper :=
      hcurrent ▸ Disk.isProper_current hdisk (hspot.isSound hdisk)
    have hsorted : ((sortByName entries).map fun r ↦ (r.1, r.2, tree disk viaLink r.2)).Pairwise
        fun a b ↦ a.1.Before b.1 :=
      List.pairwise_map.mpr (pairwise_sortByName (Entry.nodup_of_isProper hproper))
    rw [tree, scanners_eq_map, ← map_sortByName]
    refine (reports_addEntries hsorted ?_ _).congr ?_
    · rintro _ hmapped listing
      obtain ⟨r, hr, rfl⟩ := List.mem_map.mp hmapped
      refine reports_addEntry hdisk hacyclic hspot (hentries ▸ hr)
        (fun inner htrail hfewer ↦ hlink inner htrail (by omega))
        fun inner htrail hinner hsame ↦ ?_
      exact ih r (mem_sortByName.mp hr) inner htrail hinner (by omega)
    · intro p fault
      rw [← exists_faultUnder_iff, hentries]
      simp

/-- **What a scan reports.** The scan of a directory reports the faults below it, if its bound on
links allows for all that are left. -/
theorem reports_directory (hdisk : disk.isProper) (hacyclic : disk.IsAcyclic) (links : Nat)
    (spot : Spot) (hspot : disk.HasTrail spot.trail) (hlinks : spot.linksLeft ≤ links) :
    Reports (FaultAt disk spot) (directory disk links spot) := by
  induction links generalizing spot with
  | zero =>
    exact reports_tree hdisk hacyclic (fun _ _ hnone ↦ absurd hnone (Nat.not_lt_zero _)) _ spot
      hspot rfl hlinks
  | succ links ih =>
    exact reports_tree hdisk hacyclic (fun inner htrail hfewer ↦ ih inner htrail (by omega)) _ spot
      hspot rfl hlinks

end Scans

/-! ### The page directory -/

/-- Whether a path leads to a directory at a place. -/
def IsDirAt (disk : Disk) (workingDir path : DiskPath) (place : Disk.Trail × Nat) : Prop :=
  disk.find workingDir path = .ok place ∧ (disk.current place.1).isDir

/-- The spot of a path at the place that it leads to. -/
def Spot.ofPath (path : DiskPath) (place : Disk.Trail × Nat) : Spot := ⟨path, place.1, place.2⟩

section PageDirectory

variable {disk : Disk} {workingDir path : DiskPath} {place : Disk.Trail × Nat}

theorem buildRouteTree_of_isDirAt (h : IsDirAt disk workingDir path place) :
    buildRouteTree disk workingDir path =
      (directory disk place.2 (Spot.ofPath path place)).map Listing.routes := by
  obtain ⟨trail, left⟩ := place
  simp only [buildRouteTree, h.1, if_pos h.2, Spot.ofPath]

theorem buildRouteTree_of_not_isDirAt (h : ∀ place, ¬IsDirAt disk workingDir path place) :
    buildRouteTree disk workingDir path = .error (.pageDirMissing path) := by
  rw [buildRouteTree]
  split
  · rfl
  · next trail left hfind =>
    split
    · next hdir => exact absurd ⟨hfind, hdir⟩ (h (trail, left))
    · rfl

/-- **When and how a scan fails.** On a proper disk without cycles the routes of a path are made if
and only if the path leads to a directory below which nothing is wrong: every entry of every
directory that names lead to leads somewhere, and the metadata beside every folder and page there
can be read. If they are not made, the fault is that the path leads to no directory, or it is the
first one below the directory. The metadata of every page is looked at, so it does not matter
whether the page would be pruned. -/
theorem buildRouteTree_outcome (hdisk : disk.isProper) (hacyclic : disk.IsAcyclic)
    (workingDir path : DiskPath) :
    ((∃ routes, buildRouteTree disk workingDir path = .ok routes) ↔
      ∃ place, IsDirAt disk workingDir path place ∧
        ∀ position fault, ¬FaultAt disk (Spot.ofPath path place) position fault) ∧
    (∀ fault, buildRouteTree disk workingDir path = .error fault ↔
      fault = .pageDirMissing path ∧ (∀ place, ¬IsDirAt disk workingDir path place) ∨
      ∃ place, IsDirAt disk workingDir path place ∧
        IsFirst (FaultAt disk (Spot.ofPath path place)) fault) ∧
    ∀ place dirs inner stem fault, IsDirAt disk workingDir path place →
      disk.reach (DiskPath.entering dirs) place = some inner → disk.HasPage inner [] stem →
      SidecarFault disk ((Spot.ofPath path place).below dirs inner) stem fault →
      ∃ reported, buildRouteTree disk workingDir path = .error reported := by
  by_cases hnone : ∀ place, ¬IsDirAt disk workingDir path place
  · rw [buildRouteTree_of_not_isDirAt hnone]
    refine ⟨iff_of_false nofun ?_, fun fault ↦ ⟨fun h ↦ ?_, ?_⟩, ?_⟩
    · rintro ⟨place, hplace, -⟩
      exact hnone place hplace
    · exact .inl ⟨(Except.error.inj h).symm, hnone⟩
    · rintro (⟨rfl, -⟩ | ⟨place, hplace, -⟩)
      · rfl
      · exact absurd hplace (hnone place)
    · exact fun _ _ _ _ _ _ _ _ _ ↦ ⟨_, rfl⟩
  · obtain ⟨place, hplace⟩ := not_forall_not.mp hnone
    have hunique {other : Disk.Trail × Nat} (hother : IsDirAt disk workingDir path other) :
        other = place := Except.ok.inj (hother.1.symm.trans hplace.1)
    have hreports : Reports (FaultAt disk (Spot.ofPath path place))
        (buildRouteTree disk workingDir path) := by
      rw [buildRouteTree_of_isDirAt hplace]
      exact (reports_directory hdisk hacyclic _ (Spot.ofPath path place)
        (Disk.hasTrail_of_find hplace.1) (Nat.le_refl _)).map _
    have hok := hreports.ok_iff
    refine ⟨hok.trans ⟨fun h ↦ ⟨place, hplace, h⟩, ?_⟩,
      fun fault ↦ hreports.error_iff.trans ⟨fun h ↦ .inr ⟨place, hplace, h⟩, ?_⟩, ?_⟩
    · rintro ⟨other, hother, h⟩
      rwa [hunique hother] at h
    · rintro (⟨-, hnone'⟩ | ⟨other, hother, h⟩)
      · exact absurd hplace (hnone' place)
      · rwa [hunique hother] at h
    · rintro other dirs inner stem fault hother hreach ⟨hstem, page, hpage, hfile⟩ hfault
      obtain rfl := hunique hother
      have hat : FaultAt disk (Spot.ofPath path other)
          (dirs.map .text ++ [.text (pageFile stem)]) fault :=
        ⟨dirs, _, inner, rfl, hreach, .page hpage hfile hstem hfault⟩
      cases hresult : buildRouteTree disk workingDir path with
      | ok routes => exact absurd hat (hok.mp ⟨routes, hresult⟩ _ _)
      | error reported => exact ⟨reported, rfl⟩

end PageDirectory

/-! ### A page directory with two faults -/

/-- A folder whose only page has metadata that is no JSON. Pruning would remove the page, because it
is the index page of the folder. -/
def faultyBlog : Entry :=
  .dir [(.text "index.meta.json", .file (.text "\x7b title: ")),
    (.text "index.vue", .file (.text ""))]

/-- A page directory with the folder, a link to a directory and a link that leads nowhere. -/
def faultyPages : Entry :=
  .dir [(.text "blog", faultyBlog), (.text "common", .link ⟨"/shared"⟩),
    (.text "old.vue", .link ⟨"gone.vue"⟩)]

/-- A disk with the page directory and the directory that is linked from there. -/
def faultyDisk : Disk := ⟨[(.text "pages", faultyPages), (.text "shared", .dir [])]⟩

/-- The directories and files of the disk with the names that lead to them. -/
def faultyPlaces : List (List Octets × Entry) :=
  [([], .dir faultyDisk.entries), ([.text "pages"], faultyPages), ([.text "shared"], .dir []),
    ([.text "pages", .text "blog"], faultyBlog),
    ([.text "pages", .text "blog", .text "index.meta.json"], .file (.text "\x7b title: ")),
    ([.text "pages", .text "blog", .text "index.vue"], .file (.text ""))]

/-- Ranks for the disk: the linked directory has the lowest one. -/
def faultyRank (names : List Octets) : Nat :=
  if names = [.text "shared"] then 0 else 4 - names.length

theorem isProper_faultyDisk : faultyDisk.isProper := by decide

theorem mem_faultyPlaces {trail : Disk.Trail} (h : faultyDisk.HasTrail trail) :
    (trail.names, faultyDisk.current trail) ∈ faultyPlaces := by
  induction h with
  | root => exact List.mem_cons_self
  | @into trail name entry above hchild hlink ih =>
    have hinside : ∀ place ∈ faultyPlaces, ∀ r ∈ place.2.entries, (∀ target, r.2 ≠ .link target) →
        (place.1 ++ [r.1], r.2) ∈ faultyPlaces := by
      simp only [faultyPlaces, faultyDisk, Entry.entries, List.forall_mem_cons]
      grind [faultyPages, faultyBlog, Entry.entries]
    rw [Disk.Trail.names_cons]
    exact hinside _ ih _ (Entry.mem_of_child? hchild) hlink

/-- The links of the disk are in the page directory. -/
theorem of_link_faultyDisk {trail : Disk.Trail} (h : faultyDisk.HasTrail trail) {name : Octets}
    {target : DiskPath} (hchild : (faultyDisk.current trail).child? name = some (.link target)) :
    trail.names = [.text "pages"] ∧ faultyDisk.current trail = faultyPages ∧
      (target = ⟨"/shared"⟩ ∨ target = ⟨"gone.vue"⟩) := by
  have hlinks : ∀ place ∈ faultyPlaces, ∀ r ∈ place.2.entries, r.2 = .link target →
      place.1 = [.text "pages"] ∧ place.2 = faultyPages ∧
        (target = ⟨"/shared"⟩ ∨ target = ⟨"gone.vue"⟩) := by
    simp [faultyPlaces, faultyDisk, faultyPages, faultyBlog, Entry.entries]
    grind
  exact hlinks _ (mem_faultyPlaces h) _ (Entry.mem_of_child? hchild) rfl

theorem isAcyclic_faultyDisk : faultyDisk.IsAcyclic := by
  refine Disk.isAcyclic_of_rank faultyRank ?_ ?_
  · intro trail name entry htrail
    have hlower : ∀ place ∈ faultyPlaces, place.1 ≠ [] →
        faultyRank place.1 < faultyRank place.1.dropLast := by
      simp [faultyPlaces, faultyRank]
    simpa [Disk.Trail.names_cons] using
      hlower _ (mem_faultyPlaces htrail) (by simp [Disk.Trail.names_cons])
  · intro trail name target links place htrail hchild h
    obtain ⟨hnames, hpages, htarget⟩ := of_link_faultyDisk htrail hchild
    rw [hnames]
    cases links with
    | zero => simp [Disk.reach_link_zero hchild] at h
    | succ links =>
      rw [Disk.reach_link_succ hchild] at h
      rcases htarget with rfl | rfl
      · have hsteps : DiskPath.steps ⟨"/shared"⟩ ++ [] = [.stay, .enter (.text "shared")] := by
          decide
        have hshared : (faultyDisk.current []).child? (.text "shared") = some (.dir []) := by
          simp [faultyDisk, Disk.current, Entry.child?, Entry.entries]
        rw [hsteps, if_neg (by decide), if_pos (by decide), Disk.reach_stay rfl,
          Disk.reach_enter hshared (by simp), Disk.reach_nil, Option.some.injEq] at h
        rw [← h]
        simp [Disk.Trail.names, faultyRank]
      · have hsteps : DiskPath.steps ⟨"gone.vue"⟩ ++ [] = [.enter (.text "gone.vue")] := by
          decide
        have hgone : (faultyDisk.current trail).child? (.text "gone.vue") = none := by
          rw [hpages]
          simp [faultyPages, Entry.child?, Entry.entries]
        rw [hsteps, if_neg (by decide), if_neg (by decide), Disk.reach_free hgone] at h
        cases h

/-- The file of metadata that a scan reports. -/
def reportedMetadata {α : Type} : Except Fault α → Option DiskPath
  | .error (.metadata path _) => some path
  | _ => none

theorem exists_of_reportedMetadata {α : Type} {result : Except Fault α} {path : DiskPath}
    (h : reportedMetadata result = some path) :
    ∃ cause, result = .error (.metadata path cause) := by
  unfold reportedMetadata at h
  split at h
  · next path' cause =>
    obtain rfl := Option.some.inj h
    exact ⟨cause, rfl⟩
  · cases h

/-- The metadata of the index page is the first fault, although nothing would come of the page and
there is a link that leads nowhere. -/
theorem buildRouteTree_outcome_malformed : faultyDisk.isProper ∧ faultyDisk.IsAcyclic ∧
    ∃ place cause, IsDirAt faultyDisk ⟨"/"⟩ ⟨"/pages"⟩ place ∧
      buildRouteTree faultyDisk ⟨"/"⟩ ⟨"/pages"⟩ =
        .error (.metadata ⟨"/pages/blog/index.meta.json"⟩ cause) ∧
      IsFirst (FaultAt faultyDisk (Spot.ofPath ⟨"/pages"⟩ place))
        (.metadata ⟨"/pages/blog/index.meta.json"⟩ cause) := by
  refine ⟨isProper_faultyDisk, isAcyclic_faultyDisk, ?_⟩
  have hreported : reportedMetadata (buildRouteTree faultyDisk ⟨"/"⟩ ⟨"/pages"⟩) =
      some ⟨"/pages/blog/index.meta.json"⟩ := by
    decide +kernel
  obtain ⟨cause, herror⟩ := exists_of_reportedMetadata hreported
  have houtcome :=
    buildRouteTree_outcome isProper_faultyDisk isAcyclic_faultyDisk ⟨"/"⟩ ⟨"/pages"⟩
  rcases (houtcome.2.1 _).mp herror with ⟨hmissing, -⟩ | ⟨place, hplace, hfirst⟩
  · cases hmissing
  · exact ⟨place, cause, hplace, herror, hfirst⟩

end Scan

end PageRoutes
