import PageRoutes.Proofs.Disk.PathNames
import PageRoutes.Scan
/-!
# What a scan finds

A scan that succeeds reads pages and folders off the disk and makes routes of them. Here the two
steps are apart. A find is a page file or a directory with what was found inside it, and
`Scan.Found` says what finds the entries of a directory give; the routes of finds are then a
function of the finds alone, which does not look at the disk.

## Main definitions

* `Scan.Find` : a page or a folder that a scan has come upon.
* `Scan.Find.route`, `Scan.routesOf`, `Scan.indexPageOf` : what finds give to a routing table.
* `Scan.entryPlace` : the place that an entry stands for, links followed.
* `Scan.Found` : the finds of the entries of a directory.

## Main results

* `Scan.reads_directory` : a scan that succeeds gives the listing of what is found.
-/

namespace PageRoutes.Scan

/-- A page file, or a directory with what is found inside it. Both carry the metadata beside them.
-/
inductive Find where
  | page (stem : String) (file : DiskPath) (metadata : Option Json)
  | folder (name : String) (inside : List Find) (metadata : Option Json)

/-! ### The routes of finds -/

/-- The last index page among finds. -/
def indexPageOf : List Find → Option DiskPath
  | [] => none
  | .page stem file _ :: rest =>
    (indexPageOf rest).or (if Segment.normalize stem = Segment.indexName then some file else none)
  | .folder _ _ _ :: rest => indexPageOf rest

mutual

/-- The node of a find. -/
def Find.route : Find → Route
  | .page stem file metadata =>
    Route.page (Segment.routePath (Segment.normalize stem)) file metadata
  | .folder name inside metadata =>
    Route.folder (Segment.routePath (Segment.normalize name)) (indexPageOf inside) (routesOf inside)
      metadata

/-- The nodes of finds. -/
def routesOf : List Find → List Route
  | [] => []
  | f :: rest => f.route :: routesOf rest

end

theorem routesOf_eq_map (finds : List Find) : routesOf finds = finds.map Find.route := by
  induction finds with
  | nil => rfl
  | cons f rest ih => rw [routesOf, ih, List.map_cons]

/-! ### Finds on a disk -/

/-- The place that an entry of a directory stands for: itself, or what a link leads to. -/
def entryPlace (disk : Disk) (spot : Spot) (name : Octets) : Entry → Option (Disk.Trail × Nat)
  | .link _ => disk.reach [.enter name] (spot.trail, spot.linksLeft)
  | entry => some ((name, entry) :: spot.trail, spot.linksLeft)

/-- The entries of a directory in the order of their names. -/
def Spot.entries (disk : Disk) (spot : Spot) : List (Octets × Entry) :=
  sortByName (disk.current spot.trail).entries

/-- Whether a scan passes over an entry at a place: its name is no text, or it is neither a
directory nor a page file. -/
def IsPassed (disk : Disk) (place : Disk.Trail × Nat) (name : Octets) : Prop :=
  ∀ s, name = .text s →
    (disk.current place.1).isDir = false ∧ (DiskPath.splitExtension s).2 ≠ some pageExtension

/-- What entries of a directory give. -/
inductive Found (disk : Disk) : Spot → List (Octets × Entry) → List Find → Prop
  | nil (spot : Spot) : Found disk spot [] []
  | passed {spot name entry rest finds place}
    (hplace : entryPlace disk spot name entry = some place)
    (hpassed : IsPassed disk place name) (hrest : Found disk spot rest finds) :
    Found disk spot ((name, entry) :: rest) finds
  | page {spot fileName entry rest finds place stem metadata}
    (hplace : entryPlace disk spot (.text fileName) entry = some place)
    (hfile : (disk.current place.1).isDir = false)
    (hname : DiskPath.splitExtension fileName = (stem, some pageExtension))
    (hmeta : sidecar disk spot (Segment.normalize stem) = .ok metadata)
    (hrest : Found disk spot rest finds) :
    Found disk spot ((.text fileName, entry) :: rest)
      (.page stem (spot.path.join ⟨fileName⟩) metadata :: finds)
  | folder {spot dirName entry rest finds place inside metadata}
    (hplace : entryPlace disk spot (.text dirName) entry = some place)
    (hdir : (disk.current place.1).isDir)
    (hinside : Found disk ⟨spot.path.join ⟨dirName⟩, place.1, place.2⟩
      (Spot.entries disk ⟨spot.path.join ⟨dirName⟩, place.1, place.2⟩) inside)
    (hmeta : sidecar disk spot (Segment.normalize dirName) = .ok metadata)
    (hrest : Found disk spot rest finds) :
    Found disk spot ((.text dirName, entry) :: rest) (.folder dirName inside metadata :: finds)

/-! ### Listings -/

/-- A listing with finds added to it. -/
def Listing.add (listing : Listing) (finds : List Find) : Listing :=
  ⟨listing.routes ++ routesOf finds, (indexPageOf finds).or listing.indexPage⟩

/-- The listing of finds. -/
def Listing.ofFinds (finds : List Find) : Listing := ⟨routesOf finds, indexPageOf finds⟩

theorem indexPageOf_append (a b : List Find) :
    indexPageOf (a ++ b) = (indexPageOf b).or (indexPageOf a) := by
  induction a with
  | nil => simp [indexPageOf]
  | cons f rest ih => cases f <;> simp [indexPageOf, ih, Option.or_assoc]

@[simp] theorem Listing.add_nil (listing : Listing) : listing.add [] = listing := by
  simp [add, routesOf, indexPageOf]

theorem Listing.add_add (listing : Listing) (a b : List Find) :
    (listing.add a).add b = listing.add (a ++ b) := by
  simp [add, routesOf_eq_map, indexPageOf_append, Option.or_assoc]

theorem Listing.add_empty (finds : List Find) :
    (Listing.mk [] none).add finds = .ofFinds finds := by
  simp [add, ofFinds]

/-! ### Scans that succeed -/

variable {disk : Disk} {spot : Spot} {listing result : Listing}

/-- The first step of a computation that succeeds has succeeded. -/
private theorem exists_of_bind {α β : Type} {first : Except Fault α} {next : α → Except Fault β}
    {b : β} (h : first >>= next = .ok b) : ∃ a, first = .ok a ∧ next a = .ok b := by
  cases first with
  | error fault => cases h
  | ok a => exact ⟨a, rfl, h⟩

/-- Whether a scanner gives the listing of what is found at a spot, if it gives any. -/
def Reads (disk : Disk) (scanner : Scanner) (spot : Spot) : Prop :=
  ∀ listing, scanner spot = .ok listing →
    ∃ finds, Found disk spot (spot.entries disk) finds ∧ listing = .ofFinds finds

/-- Whether a listing grows by what one entry gives. -/
private def Grows (disk : Disk) (spot : Spot) (name : Octets) (entry : Entry)
    (listing result : Listing) : Prop :=
  ∃ finds, result = listing.add finds ∧
    ∀ rest more, Found disk spot rest more → Found disk spot ((name, entry) :: rest) (finds ++ more)

private theorem grows_of_isPassed {name : Octets} {entry : Entry} {place : Disk.Trail × Nat}
    (hplace : entryPlace disk spot name entry = some place) (hpassed : IsPassed disk place name) :
    Grows disk spot name entry listing listing :=
  ⟨[], (listing.add_nil).symm, fun _ _ ↦ .passed hplace hpassed⟩

private theorem grows_of_addFolder {dirName : String} {entry : Entry} {place : Disk.Trail × Nat}
    {scanner : Scanner} (hplace : entryPlace disk spot (.text dirName) entry = some place)
    (hdir : (disk.current place.1).isDir)
    (hreads : Reads disk scanner ⟨spot.path.join ⟨dirName⟩, place.1, place.2⟩)
    (h : addFolder disk spot dirName (scanner ⟨spot.path.join ⟨dirName⟩, place.1, place.2⟩)
      listing = .ok result) : Grows disk spot (.text dirName) entry listing result := by
  obtain ⟨nested, hnested, h⟩ := exists_of_bind h
  obtain ⟨metadata, hmeta, h⟩ := exists_of_bind h
  obtain ⟨inside, hinside, rfl⟩ := hreads nested hnested
  refine ⟨[.folder dirName inside metadata], ?_, fun _ _ ↦ .folder hplace hdir hinside hmeta⟩
  rw [← Except.ok.inj h]
  simp [Listing.add, Listing.ofFinds, routesOf, Find.route, indexPageOf]

private theorem grows_of_addFile {fileName : String} {entry : Entry} {place : Disk.Trail × Nat}
    (hplace : entryPlace disk spot (.text fileName) entry = some place)
    (hfile : (disk.current place.1).isDir = false)
    (h : addFile disk spot fileName listing = .ok result) :
    Grows disk spot (.text fileName) entry listing result := by
  unfold addFile at h
  split at h
  next stem extension hsplit =>
  split at h
  · next hext =>
    subst hext
    obtain ⟨metadata, hmeta, h⟩ := exists_of_bind h
    refine ⟨[.page stem (spot.path.join ⟨fileName⟩) metadata], ?_,
      fun _ _ ↦ .page hplace hfile hsplit hmeta⟩
    rw [← Except.ok.inj h]
    simp only [Listing.add, routesOf, Find.route, indexPageOf, Option.none_or]
    split <;> rfl
  · next hext =>
    rw [← Except.ok.inj h]
    refine grows_of_isPassed hplace fun s hs ↦ ⟨hfile, ?_⟩
    cases hs
    rwa [hsplit]

/-- An entry makes the listing grow by what it gives. -/
private theorem grows_of_addEntry {viaLink inside : Scanner} {name : Octets} {entry : Entry}
    (hlink : ∀ inner, Reads disk viaLink inner)
    (hinside : ∀ inner, disk.current inner.trail = entry → Reads disk inside inner)
    (h : addEntry disk spot viaLink name entry inside listing = .ok result) :
    Grows disk spot name entry listing result := by
  cases entry with
  | dir entries =>
    cases name with
    | raw bytes hbytes =>
      rw [← Except.ok.inj h]
      exact grows_of_isPassed rfl nofun
    | text dirName => exact grows_of_addFolder (show _ = some (_, _) from rfl) rfl (hinside _ rfl) h
  | file content =>
    cases name with
    | raw bytes hbytes =>
      rw [← Except.ok.inj h]
      exact grows_of_isPassed rfl nofun
    | text fileName => exact grows_of_addFile (show _ = some (_, _) from rfl) rfl h
  | link target =>
    simp only [addEntry] at h
    split at h
    · cases h
    · next trail left hwalk =>
      have hplace : entryPlace disk spot name (.link target) = some (trail, left) := by
        exact Disk.reach_eq_some_iff.mpr hwalk
      split at h
      · next hdir =>
        split at h
        · cases h
        · cases name with
          | raw bytes hbytes =>
            rw [← Except.ok.inj h]
            exact grows_of_isPassed hplace nofun
          | text dirName => exact grows_of_addFolder hplace hdir (hlink _) h
      · next hdir =>
        cases name with
        | raw bytes hbytes =>
          rw [← Except.ok.inj h]
          exact grows_of_isPassed hplace nofun
        | text fileName => exact grows_of_addFile hplace (by simpa using hdir) h

/-! ### Whole directories -/

theorem map_insertByName {α β : Type} (f : Octets × α → β) (item : Octets × α)
    (items : List (Octets × α)) :
    (insertByName item items).map (fun r ↦ (r.1, f r)) =
      insertByName (item.1, f item) (items.map fun r ↦ (r.1, f r)) := by
  induction items with
  | nil => rfl
  | cons first rest ih =>
    rw [insertByName, List.map_cons, insertByName]
    split
    · rfl
    · rw [List.map_cons, ih]

/-- Ordering by name does not look at what the names stand for. -/
theorem map_sortByName {α β : Type} (f : Octets × α → β) (items : List (Octets × α)) :
    (sortByName items).map (fun r ↦ (r.1, f r)) = sortByName (items.map fun r ↦ (r.1, f r)) := by
  induction items with
  | nil => rfl
  | cons item rest ih => rw [sortByName, map_insertByName, ih, List.map_cons, sortByName]

theorem mem_insertByName {α : Type} {item r : Octets × α} {items : List (Octets × α)} :
    r ∈ insertByName item items ↔ r = item ∨ r ∈ items := by
  induction items with
  | nil => simp [insertByName]
  | cons first rest ih =>
    rw [insertByName]
    split
    · simp
    · simp only [List.mem_cons, ih]
      tauto

@[simp] theorem mem_sortByName {α : Type} {r : Octets × α} {items : List (Octets × α)} :
    r ∈ sortByName items ↔ r ∈ items := by
  induction items with
  | nil => simp [sortByName]
  | cons item rest ih => rw [sortByName, mem_insertByName, ih, List.mem_cons]

theorem scanners_eq_map (disk : Disk) (viaLink : Scanner) (entries : List (Octets × Entry)) :
    scanners disk viaLink entries = entries.map fun r ↦ (r.1, r.2, tree disk viaLink r.2) := by
  induction entries with
  | nil => rfl
  | cons r rest ih => rw [scanners, ih, List.map_cons]

/-- Entries one after the other make the listing grow by what all of them give. -/
private theorem exists_of_addEntries {viaLink : Scanner} (hlink : ∀ inner, Reads disk viaLink inner)
    (entries : List (Octets × Entry))
    (hentries : ∀ r ∈ entries, ∀ inner, disk.current inner.trail = r.2 →
      Reads disk (tree disk viaLink r.2) inner)
    (h : addEntries disk spot viaLink (entries.map fun r ↦ (r.1, r.2, tree disk viaLink r.2))
      listing = .ok result) :
    ∃ finds, Found disk spot entries finds ∧ result = listing.add finds := by
  induction entries generalizing listing with
  | nil => exact ⟨[], .nil spot, by rw [← Except.ok.inj h, Listing.add_nil]⟩
  | cons r rest ih =>
    obtain ⟨hr, hrest⟩ := List.forall_mem_cons.mp hentries
    rw [List.map_cons, addEntries] at h
    split at h
    · cases h
    · next next hnext =>
      obtain ⟨finds, rfl, hfound⟩ := grows_of_addEntry hlink hr hnext
      obtain ⟨more, hmore, rfl⟩ := ih hrest h
      exact ⟨finds ++ more, hfound _ _ hmore, Listing.add_add ..⟩

/-- The scan of an entry reads the spot where that entry stands, if the scan behind links reads
every spot. -/
theorem reads_tree {viaLink : Scanner} (hlink : ∀ inner, Reads disk viaLink inner) (entry : Entry) :
    ∀ spot : Spot, disk.current spot.trail = entry → Reads disk (tree disk viaLink entry) spot := by
  induction entry using Entry.induct with
  | file content =>
    intro spot hspot listing h
    exact ⟨[], by simpa [Spot.entries, hspot, Entry.entries, sortByName] using .nil spot,
      (Except.ok.inj h).symm⟩
  | link target =>
    intro spot hspot listing h
    exact ⟨[], by simpa [Spot.entries, hspot, Entry.entries, sortByName] using .nil spot,
      (Except.ok.inj h).symm⟩
  | dir entries ih =>
    intro spot hspot listing h
    rw [tree, scanners_eq_map, ← map_sortByName] at h
    obtain ⟨finds, hfound, rfl⟩ := exists_of_addEntries hlink (sortByName entries)
      (fun r hr ↦ ih r (mem_sortByName.mp hr)) h
    refine ⟨finds, ?_, Listing.add_empty finds⟩
    simpa [Spot.entries, hspot, Entry.entries] using hfound

/-- **What a scan gives.** A scan of a directory that succeeds gives the listing of what is found
there, however many links may be followed. -/
theorem reads_directory (links : Nat) (spot : Spot) : Reads disk (directory disk links) spot := by
  induction links generalizing spot with
  | zero => exact reads_tree (fun inner listing h ↦ by cases h) _ spot rfl
  | succ links ih => exact reads_tree ih _ spot rfl

end PageRoutes.Scan
