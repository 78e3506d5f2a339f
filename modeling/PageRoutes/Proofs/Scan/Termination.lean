import PageRoutes.Proofs.Scan.FirstFault
import PageRoutes.Proofs.Scan.ListingOrder
/-!
# Scans come to an end

A scan calls itself for every directory that it comes to, and links may lead it back to where it has
been. What ends it is that one path may cross only so many links: on the way into a directory either
the links that are left become fewer, or none is crossed and the tree that is looked at becomes
smaller. So the equation that a scan satisfies, level by level, has one solution, and a scan that
comes into a cycle runs out of links, which is a fault.

## Main definitions

* `Scan.Enters` : the directories for which a scan of a directory calls itself.
* `Scan.listed` : one level of a scan, by any scanner for the directories that it enters.
* `Scan.Recurses` : scanners that call themselves.
* `Disk.HasCycleBelow` : names that lead from a directory back to it.

## Main results

* `Scan.wellFounded_enters` : no scan enters directories forever.
* `Scan.Recurses.eq` : scanners that call themselves are the same.
* `Scan.not_foundAt_of_way_back` : a scan does not succeed where names lead back.
* `Scan.buildRouteTree_terminates` : the scan of a path ends, with a fault if there is a cycle.
-/

namespace PageRoutes

/-- Whether names that are texts lead from the end of a trail to a directory, and from there back to
it, however many links are crossed on the way. -/
def Disk.HasCycleBelow (disk : Disk) (start : Disk.Trail) : Prop :=
  ∃ dirs back links links' place place', back ≠ [] ∧
    disk.reach (DiskPath.entering dirs) (start, links) = some place ∧
    disk.reach (DiskPath.entering back) (place.1, links') = some place' ∧
    place'.1.names = place.1.names

namespace Scan

/-- The directories that a scan enters from a directory: those that entries whose names are texts
stand for, links followed. -/
inductive Enters (disk : Disk) (spot : Spot) : Spot → Prop
  | into {dirName entry place} (hentry : (.text dirName, entry) ∈ spot.entries disk)
    (hplace : entryPlace disk spot (.text dirName) entry = some place)
    (hdir : (disk.current place.1).isDir) :
    Enters disk spot ⟨spot.path.join ⟨dirName⟩, place.1, place.2⟩

/-- One level of a scan: the entries of a directory in order, with a scanner for all directories
that are entered. -/
def listed (disk : Disk) (scan : Scanner) (spot : Spot) : Except Fault Listing :=
  addEntries disk spot scan ((spot.entries disk).map fun r ↦ (r.1, r.2, scan)) ⟨[], none⟩

/-- Whether a scanner calls itself for the directories that it enters. -/
def Recurses (disk : Disk) (scan : Scanner) : Prop :=
  ∀ spot : Spot, disk.HasTrail spot.trail → scan spot = listed disk scan spot

variable {disk : Disk} {spot inner : Spot} {listing : Listing}

/-! ### The way into a directory -/

/-- **The measure of a scan.** On the way into a directory either a link is crossed, or what is
looked at next is a part of what was looked at. -/
theorem Enters.decreases (h : Enters disk spot inner) :
    inner.linksLeft < spot.linksLeft ∨ inner.linksLeft = spot.linksLeft ∧
      sizeOf (disk.current inner.trail) < sizeOf (disk.current spot.trail) := by
  have hpart {name : Octets} {entry : Entry} (hentry : (name, entry) ∈ spot.entries disk) :
      sizeOf entry < sizeOf (disk.current spot.trail) := by
    have hentry := Spot.mem_entries.mp hentry
    cases hcurrent : disk.current spot.trail with
    | dir entries =>
      rw [hcurrent, Entry.entries] at hentry
      have hlt := List.sizeOf_lt_of_mem hentry
      simp only [Prod.mk.sizeOf_spec, Entry.dir.sizeOf_spec] at hlt ⊢
      omega
    | file => simp [hcurrent, Entry.entries] at hentry
    | link => simp [hcurrent, Entry.entries] at hentry
  cases h with
  | @into dirName entry place hentry hplace hdir =>
    cases entry with
    | dir entries =>
      obtain rfl := Option.some.inj hplace
      exact .inr ⟨rfl, hpart hentry⟩
    | file content =>
      obtain rfl := Option.some.inj hplace
      cases hdir
    | link target =>
      -- On a disk that is not proper the name may lead to another entry than the link.
      rcases Disk.into_or_left_lt_of_reach hplace with ⟨other, hchild, rfl⟩ | hlt
      · exact .inr ⟨rfl, hpart (Spot.mem_entries.mpr (Entry.mem_of_child? hchild))⟩
      · exact .inl hlt

/-- **No endless way down.** There is no endless chain of directories that a scan enters one from
the other. -/
theorem wellFounded_enters (disk : Disk) : WellFounded fun inner spot ↦ Enters disk spot inner := by
  have hlex := (Prod.lex Nat.lt_wfRel Nat.lt_wfRel).wf
  refine Subrelation.wf (fun {inner spot} h ↦ ?_)
    (InvImage.wf (fun s : Spot ↦ (s.linksLeft, sizeOf (disk.current s.trail))) hlex)
  rcases Enters.decreases h with hlinks | ⟨hlinks, hsize⟩
  · exact .left _ _ hlinks
  · show Prod.Lex _ _ (inner.linksLeft, _) (spot.linksLeft, _)
    rw [hlinks]
    exact .right _ hsize

theorem Enters.hasTrail (hdisk : disk.isProper) (hspot : disk.HasTrail spot.trail)
    (h : Enters disk spot inner) : disk.HasTrail inner.trail := by
  cases h with
  | into hentry hplace _ =>
    rw [entryPlace_eq_reach hdisk (hspot.isSound hdisk) hentry] at hplace
    exact Disk.hasTrail_of_reach hspot hplace

/-! ### One level of a scan -/

/-- What an entry adds to a listing depends on scanners only at the directory that is entered. -/
theorem addEntry_congr (hdisk : disk.isProper) (hspot : disk.HasTrail spot.trail)
    {viaLink viaLink' inside inside' : Scanner} {name : Octets} {entry : Entry}
    (hentry : (name, entry) ∈ spot.entries disk)
    (hinside : ∀ inner, Enters disk spot inner → disk.current inner.trail = entry →
      inner.linksLeft = spot.linksLeft → inside inner = inside' inner)
    (hlink : ∀ inner, Enters disk spot inner → inner.linksLeft < spot.linksLeft →
      viaLink inner = viaLink' inner) (listing : Listing) :
    addEntry disk spot viaLink name entry inside listing =
      addEntry disk spot viaLink' name entry inside' listing := by
  cases entry with
  | file content => rfl
  | dir entries =>
    cases name with
    | raw => rfl
    | text dirName =>
      simp only [addEntry, Octets.text?_text]
      rw [hinside _ (.into hentry rfl rfl) rfl rfl]
  | link target =>
    simp only [addEntry]
    split
    · rfl
    · next trail left hwalk =>
      split
      · next hdir =>
        cases name with
        | raw => rfl
        | text dirName =>
          have hplace := Disk.reach_eq_some_iff.mpr hwalk
          have hchild := (Entry.child?_eq_some_iff
            (Disk.isProper_current hdisk (hspot.isSound hdisk))).mpr (Spot.mem_entries.mp hentry)
          simp only [Octets.text?_text]
          rw [hlink _ (.into hentry hplace hdir) (Disk.left_lt_of_reach hchild hplace)]
      · rfl

/-- One level of a scan calls the scanner only for the directories that it enters. -/
theorem listed_congr (hdisk : disk.isProper) (hspot : disk.HasTrail spot.trail)
    {scan scan' : Scanner} (h : ∀ inner, Enters disk spot inner → scan inner = scan' inner) :
    listed disk scan spot = listed disk scan' spot := by
  refine addEntries_congr ?_ _
  rw [List.forall₂_map_left_iff, List.forall₂_map_right_iff, List.forall₂_same]
  exact fun r hr ↦ addEntry_congr hdisk hspot hr (fun inner hinner _ _ ↦ h inner hinner)
    fun inner hinner _ ↦ h inner hinner

/-- **One scan.** Scanners that call themselves are the same. -/
theorem Recurses.eq (hdisk : disk.isProper) {scan scan' : Scanner} (h : Recurses disk scan)
    (h' : Recurses disk scan') (spot : Spot) (hspot : disk.HasTrail spot.trail) :
    scan spot = scan' spot := by
  induction spot using (wellFounded_enters disk).induction with
  | _ spot ih =>
    rw [h spot hspot, h' spot hspot]
    exact listed_congr hdisk hspot fun inner hinner ↦ ih inner hinner (hinner.hasTrail hdisk hspot)

/-! ### The bound on links -/

/-- The scanner behind links where at most `links` links are left. -/
def behindLinks (disk : Disk) : (links : Nat) → Scanner
  | 0 => fun spot ↦ .error (.disk spot.path .tooManyLinks)
  | links + 1 => directory disk links

theorem directory_eq (disk : Disk) (links : Nat) (spot : Spot) :
    directory disk links spot =
      tree disk (behindLinks disk links) (disk.current spot.trail) spot := by
  cases links <;> rfl

/-- The scan of a tree calls the scanner behind links only where fewer links are left. -/
theorem tree_congr (hdisk : disk.isProper) {viaLink viaLink' : Scanner} {links : Nat}
    (hlink : ∀ inner : Spot, disk.HasTrail inner.trail → inner.linksLeft < links →
      viaLink inner = viaLink' inner) (entry : Entry) :
    ∀ spot : Spot, disk.HasTrail spot.trail → disk.current spot.trail = entry →
      spot.linksLeft ≤ links → tree disk viaLink entry spot = tree disk viaLink' entry spot := by
  induction entry using Entry.induct with
  | file content => exact fun _ _ _ _ ↦ rfl
  | link target => exact fun _ _ _ _ ↦ rfl
  | dir entries ih =>
    intro spot hspot hcurrent hlinks
    rw [tree, tree, scanners_eq_map, scanners_eq_map, ← map_sortByName, ← map_sortByName]
    refine addEntries_congr ?_ _
    rw [List.forall₂_map_left_iff, List.forall₂_map_right_iff, List.forall₂_same]
    intro r hr
    have hentry : r ∈ spot.entries disk := by rwa [Spot.entries, hcurrent]
    refine addEntry_congr hdisk hspot hentry (fun inner hinner hsame heq ↦ ?_)
      fun inner hinner hlt ↦ ?_
    · exact ih r (mem_sortByName.mp hr) inner (hinner.hasTrail hdisk hspot) hsame (heq ▸ hlinks)
    · exact hlink inner (hinner.hasTrail hdisk hspot) (Nat.lt_of_lt_of_le hlt hlinks)

/-- A bound on links that allows for all that are left has no influence on a scan. -/
theorem directory_eq_of_le (hdisk : disk.isProper) {links : Nat} (spot : Spot)
    (hspot : disk.HasTrail spot.trail) (hlinks : spot.linksLeft ≤ links) :
    directory disk links spot = directory disk spot.linksLeft spot := by
  induction h : spot.linksLeft using Nat.strongRecOn generalizing links spot with
  | ind left ih =>
    rw [directory_eq, directory_eq]
    refine tree_congr hdisk (fun inner hinner hlt ↦ ?_) _ spot hspot rfl (Nat.le_of_eq h)
    obtain ⟨more, rfl⟩ := Nat.exists_eq_add_of_lt (Nat.lt_of_lt_of_le hlt (h ▸ hlinks))
    obtain ⟨fewer, rfl⟩ := Nat.exists_eq_add_of_lt hlt
    exact (ih _ hlt inner hinner (Nat.le_add_right _ _) rfl).trans
      (ih _ hlt inner hinner (Nat.le_add_right _ _) rfl).symm

/-- Scans with a bound on links that allows for all that are left call themselves. -/
theorem recurses_directory (hdisk : disk.isProper) :
    Recurses disk fun spot ↦ directory disk spot.linksLeft spot := by
  intro spot hspot
  have hbehind (inner : Spot) (hinner : disk.HasTrail inner.trail)
      (hlt : inner.linksLeft < spot.linksLeft) :
      behindLinks disk spot.linksLeft inner = directory disk inner.linksLeft inner := by
    obtain ⟨fewer, heq⟩ := Nat.exists_eq_add_of_lt hlt
    rw [heq, behindLinks, directory_eq_of_le hdisk inner hinner (Nat.le_add_right _ _)]
  simp only [directory_eq disk spot.linksLeft spot]
  cases hcurrent : disk.current spot.trail with
  | file => simp [listed, Spot.entries, hcurrent, Entry.entries, sortByName, tree, addEntries]
  | link => simp [listed, Spot.entries, hcurrent, Entry.entries, sortByName, tree, addEntries]
  | dir entries =>
    have hentries : spot.entries disk = sortByName entries := by
      rw [Spot.entries, hcurrent, Entry.entries]
    rw [tree, listed, scanners_eq_map, ← map_sortByName, ← hentries]
    refine addEntries_congr ?_ _
    rw [List.forall₂_map_left_iff, List.forall₂_map_right_iff, List.forall₂_same]
    refine fun r hr ↦ addEntry_congr hdisk hspot hr (fun inner _ hsame heq ↦ ?_)
      fun inner hinner hlt ↦ hbehind inner (hinner.hasTrail hdisk hspot) hlt
    show _ = directory disk inner.linksLeft inner
    rw [heq, directory_eq, hsame]

/-! ### Cycles -/

/-- Where a scan succeeds there are enough links left to follow all names. -/
theorem FoundAt.exists_reach (hdisk : disk.isProper) {finds : List Find}
    (h : FoundAt disk spot finds) {dirs : List String} {links : Nat} {place : Disk.Trail × Nat}
    (hreach : disk.reach (DiskPath.entering dirs) (spot.trail, links) = some place) :
    ∃ left, disk.reach (DiskPath.entering dirs) spot.place = some (place.1, left) := by
  induction dirs generalizing spot finds links with
  | nil =>
    rw [DiskPath.entering, List.map_nil, Disk.reach_nil, Option.some.injEq] at hreach
    exact ⟨spot.linksLeft, by rw [← hreach]; exact Disk.reach_nil ..⟩
  | cons name rest ih =>
    rw [DiskPath.entering, List.map_cons, Disk.reach_cons] at hreach
    obtain ⟨⟨trail, links'⟩, hfirst, hrest⟩ := Option.bind_eq_some_iff.mp hreach
    obtain ⟨next, hnext⟩ : ∃ next, disk.reach [.enter (.text name)] spot.place = some next := by
      have hother : disk.reach [.enter (.text name)] (Spot.mk spot.path spot.trail links).place =
          some (trail, links') := hfirst
      obtain ⟨entry, hentry⟩ := exists_entry_of_reach hother
      obtain ⟨own, hown, -⟩ := h.found.exists_finds hentry
      have hplace := entryPlace_eq_reach hdisk h.sound hentry
      cases hown with
      | passed hown _ _ => exact ⟨_, hplace ▸ hown⟩
      | page hown _ _ _ _ => exact ⟨_, hplace ▸ hown⟩
      | folder hown _ _ _ _ => exact ⟨_, hplace ▸ hown⟩
    obtain rfl : trail = next.1 := Disk.eq_of_reach hfirst hnext
    rw [DiskPath.entering, List.map_cons, Disk.reach_cons, hnext, Option.bind_some]
    cases rest with
    | nil =>
      rw [List.map_nil, Disk.reach_nil, Option.some.injEq] at hrest
      exact ⟨next.2, by rw [← hrest]; exact Disk.reach_nil ..⟩
    | cons name' rest =>
      have hdir := Disk.isDir_of_reach hrest
      obtain ⟨inside, metadata, hmem⟩ := h.exists_folder hdisk hnext hdir
      obtain ⟨place', hplace', -, hfound⟩ := h.of_mem_folder hdisk hmem
      obtain rfl := Option.some.inj (hnext.symm.trans hplace')
      exact ih hfound hrest

/-- What a scan that succeeds has found is also found in all directories that names lead to. -/
theorem FoundAt.exists_foundAt (hdisk : disk.isProper) {finds : List Find}
    (h : FoundAt disk spot finds) {dirs : List String} {place : Disk.Trail × Nat}
    (hreach : disk.reach (DiskPath.entering dirs) spot.place = some place)
    (hdir : (disk.current place.1).isDir) :
    ∃ path inside, FoundAt disk ⟨path, place.1, place.2⟩ inside := by
  obtain ⟨inside, hopens⟩ := h.exists_opens hdisk hreach hdir
  obtain ⟨inner, hinner, -, -, hfound⟩ := h.of_opens hdisk hopens
  obtain rfl := Option.some.inj (hreach.symm.trans hinner)
  exact ⟨inner.path, inside, hfound⟩

/-- **Ways back.** A scan does not succeed where names lead from a directory back to it: each time
round takes a link. -/
theorem not_foundAt_of_way_back (hdisk : disk.isProper) {back : List String} (hback : back ≠ [])
    {trail : Disk.Trail} {links left' : Nat}
    (hreach : disk.reach (DiskPath.entering back) (trail, links) = some (trail, left'))
    (path : DiskPath) (left : Nat) (finds : List Find) :
    ¬FoundAt disk ⟨path, trail, left⟩ finds := by
  induction left using Nat.strongRecOn generalizing path finds with
  | ind left ih =>
    intro h
    obtain ⟨fewer, hround⟩ := h.exists_reach hdisk hreach
    have hnames : disk.reach ((back.map .text).map .enter) (trail, left) = some (trail, fewer) := by
      rw [List.map_map]
      exact hround
    have hlt : fewer < left := Disk.left_lt_of_reach_names (by simpa using hback) hnames
    have hdir : (disk.current trail).isDir := by
      obtain ⟨name, rest, rfl⟩ := List.exists_cons_of_ne_nil hback
      exact Disk.isDir_of_reach hround
    obtain ⟨path', inside, hagain⟩ := h.exists_foundAt hdisk hround hdir
    exact ih fewer hlt path' inside hagain

/-! ### The page directory -/

section PageDirectory

variable {workingDir path : DiskPath} {place : Disk.Trail × Nat}

/-- What a scan of a path has found if it has succeeded. -/
theorem IsDirAt.exists_foundAt (hdisk : disk.isProper) (h : IsDirAt disk workingDir path place)
    {routes : List Route} (hroutes : buildRouteTree disk workingDir path = .ok routes) :
    ∃ finds, FoundAt disk (Spot.ofPath path place) finds := by
  have hpath : path.text ≠ "" := by
    intro hempty
    have hfind := h.1
    rw [Disk.find, Disk.locate, if_pos (by simp [hempty])] at hfind
    cases hfind
  rw [buildRouteTree_of_isDirAt h] at hroutes
  cases hscan : directory disk place.2 (Spot.ofPath path place) with
  | error fault =>
    rw [hscan] at hroutes
    cases hroutes
  | ok listing =>
    obtain ⟨finds, hfound, -⟩ := reads_directory place.2 _ listing hscan
    exact ⟨finds, (Disk.hasTrail_of_find h.1).isSound hdisk, hpath, hfound⟩

/-- A cycle below the directory that a path leads to is a fault. -/
theorem exists_fault_of_hasCycleBelow (hdisk : disk.isProper)
    (hplace : IsDirAt disk workingDir path place) (hcycle : disk.HasCycleBelow place.1) :
    ∃ fault, buildRouteTree disk workingDir path = .error fault := by
  cases hroutes : buildRouteTree disk workingDir path with
  | error fault => exact ⟨fault, rfl⟩
  | ok routes =>
    obtain ⟨dirs, back, links, links', there, again, hback, hthere, hagain, hnames⟩ := hcycle
    have htrail := Disk.hasTrail_of_reach (Disk.hasTrail_of_find hplace.1) hthere
    have hsame := (Disk.hasTrail_of_reach htrail hagain).eq_of_names htrail hnames
    obtain ⟨finds, hfound⟩ := hplace.exists_foundAt hdisk hroutes
    obtain ⟨left, hreach⟩ := hfound.exists_reach hdisk hthere
    have hdir : (disk.current there.1).isDir := by
      obtain ⟨name, rest, rfl⟩ := List.exists_cons_of_ne_nil hback
      exact (Disk.isDir_of_reach hagain :)
    obtain ⟨path', inside, hinside⟩ := hfound.exists_foundAt hdisk hreach hdir
    have hway : disk.reach (DiskPath.entering back) (there.1, links') =
        some (there.1, again.2) := by rw [hagain, ← hsame]
    exact (not_foundAt_of_way_back hdisk hback hway path' left inside hinside).elim

/-- **Scans come to an end.** On every proper disk and for every path, the recursion of a scan is
well-founded, and it is a recursion: one level of it calls the scan only for the directories that
are entered from there. So one scanner calls itself for them, and no other one does, and the routes
of a path are those that it gives. If texts name a way from the directory of the path to a directory
and from there, links followed, back to it, then the scan ends with a fault, however long the way
is. -/
theorem buildRouteTree_terminates (hdisk : disk.isProper) (workingDir path : DiskPath) :
    (WellFounded fun inner spot ↦ Enters disk spot inner) ∧
    (∀ scan scan' spot, disk.HasTrail spot.trail →
      (∀ inner, Enters disk spot inner → scan inner = scan' inner) →
      listed disk scan spot = listed disk scan' spot) ∧
    (∃ scan, Recurses disk scan ∧
      (∀ scan', Recurses disk scan' → ∀ spot, disk.HasTrail spot.trail → scan' spot = scan spot) ∧
      ∀ place, IsDirAt disk workingDir path place →
        buildRouteTree disk workingDir path =
          (scan (Spot.ofPath path place)).map Listing.routes) ∧
    ∀ place, IsDirAt disk workingDir path place → disk.HasCycleBelow place.1 →
      ∃ fault, buildRouteTree disk workingDir path = .error fault := by
  refine ⟨wellFounded_enters disk, fun _ _ _ hspot ↦ listed_congr hdisk hspot,
    ⟨_, recurses_directory hdisk, fun scan' h spot hspot ↦ ?_, fun place hplace ↦ ?_⟩,
    fun place ↦ exists_fault_of_hasCycleBelow hdisk⟩
  · exact h.eq hdisk (recurses_directory hdisk) spot hspot
  · exact buildRouteTree_of_isDirAt hplace

/-- Pages with two folders, each with a link to the other one. -/
def linkedPages : Entry :=
  .dir [(.text "a", .dir [(.text "next", .link ⟨"/pages/b"⟩)]),
    (.text "b", .dir [(.text "next", .link ⟨"/pages/a"⟩)])]

/-- A disk with these pages. -/
def linkedDisk : Disk := ⟨[(.text "pages", linkedPages)]⟩

/-- The trail to the pages. -/
def linkedTrail : Disk.Trail := [(.text "pages", linkedPages)]

theorem isDirAt_linkedDisk : IsDirAt linkedDisk ⟨"/"⟩ ⟨"/pages"⟩ (linkedTrail, Disk.linkLimit) := by
  have hsteps : Disk.stepsFrom ⟨"/"⟩ ⟨"/pages"⟩ = [.stay, .enter (.text "pages")] := by
    decide +kernel
  refine ⟨?_, rfl⟩
  rw [Disk.find, Disk.locate, hsteps]
  rfl

/-- From the first folder the links lead back to it. -/
theorem hasCycleBelow_linkedDisk : linkedDisk.HasCycleBelow linkedTrail := by
  have hround : ((linkedDisk.reach (DiskPath.entering ["a"]) (linkedTrail, 0)).bind fun there ↦
      (linkedDisk.reach (DiskPath.entering ["next", "next"]) (there.1, 2)).map fun again ↦
        decide (again.1.names = there.1.names)) = some true := by
    decide +kernel
  obtain ⟨there, hthere, hagain⟩ := Option.bind_eq_some_iff.mp hround
  obtain ⟨again, hagain, hnames⟩ := Option.map_eq_some_iff.mp hagain
  exact ⟨["a"], ["next", "next"], 0, 2, there, again, by simp, hthere, hagain,
    of_decide_eq_true hnames⟩

/-- Two folders with links to each other. -/
theorem buildRouteTree_terminates_linked : linkedDisk.isProper ∧
    (∃ place, IsDirAt linkedDisk ⟨"/"⟩ ⟨"/pages"⟩ place ∧ linkedDisk.HasCycleBelow place.1) ∧
    ∃ fault, buildRouteTree linkedDisk ⟨"/"⟩ ⟨"/pages"⟩ = .error fault := by
  have hproper : linkedDisk.isProper := by decide
  have hends := buildRouteTree_terminates hproper ⟨"/"⟩ ⟨"/pages"⟩
  exact ⟨hproper, ⟨_, isDirAt_linkedDisk, hasCycleBelow_linkedDisk⟩,
    hends.2.2.2 _ isDirAt_linkedDisk hasCycleBelow_linkedDisk⟩

end PageDirectory

end Scan

end PageRoutes
