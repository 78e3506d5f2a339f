import Mathlib.Data.List.Sort
import PageRoutes.Proofs.Scan.Order
/-!
# The order in which directories list their entries

A file system may list the entries of a directory in any order, and in another order the next time.
A scan does not depend on it. To say so, a disk is compared with the sorted disk, on which every
directory lists its entries in the order of the bytes of their names: names lead to the same things
on both, and both are scanned in the same way. Disks that differ only in the order of their listings
have the same sorted disk.

## Main definitions

* `Entry.Reorders`, `Disk.Reorders` : trees and disks that differ in nothing but listing orders.
* `Entry.sorted`, `Disk.sorted` : a tree or a disk with all its listings in order.

## Main results

* `Disk.walk_sorted` : moves lead to the same place on the sorted disk.
* `Scan.buildRouteTree_sorted` : the routes of the sorted disk are those of the disk.
* `Disk.sorted_eq_of_reorders` : disks that differ only in listing orders have one sorted disk.
-/

namespace PageRoutes

mutual

/-- Trees that are the same up to the order in which each directory in them lists its entries. -/
inductive Entry.Reorders : Entry → Entry → Prop
  | file (content : Octets) : Entry.Reorders (.file content) (.file content)
  | link (target : DiskPath) : Entry.Reorders (.link target) (.link target)
  | dir {entries reordered others} (horder : entries.Perm reordered)
    (hinside : Entry.ReordersInside reordered others) : Entry.Reorders (.dir entries) (.dir others)

/-- The same entries in the same order, each of them up to the listing orders inside it. -/
inductive Entry.ReordersInside : List (Octets × Entry) → List (Octets × Entry) → Prop
  | nil : Entry.ReordersInside [] []
  | cons {name entry other rest others} (hentry : Entry.Reorders entry other)
    (hrest : Entry.ReordersInside rest others) :
    Entry.ReordersInside ((name, entry) :: rest) ((name, other) :: others)

end

/-- Disks that are the same up to the order in which each directory lists its entries. -/
def Disk.Reorders (disk other : Disk) : Prop :=
  (Entry.dir disk.entries).Reorders (.dir other.entries)

mutual

/-- A tree in which every directory lists its entries in the order of their names. -/
def Entry.sorted : Entry → Entry
  | .dir entries => .dir (Scan.sortByName (allSorted entries))
  | .file content => .file content
  | .link target => .link target

/-- `Entry.sorted` for all entries of a directory, which stay in the order in which they are. -/
def Entry.allSorted : List (Octets × Entry) → List (Octets × Entry)
  | [] => []
  | (name, e) :: rest => (name, e.sorted) :: allSorted rest

end

/-- A disk on which every directory lists its entries in the order of their names. -/
def Disk.sorted (disk : Disk) : Disk := ⟨(Entry.dir disk.entries).sorted.entries⟩

/-! ### Lists in the order of their names -/

theorem Octets.le_iff {a b : Octets} : a.le b ↔ ¬b.Before a := by
  rw [before_iff_not_le, not_not]

theorem Octets.le_of_not_le {a b : Octets} (h : ¬a.le b) : b.le a := by
  rw [le_iff]
  exact (before_iff_not_le.mpr h).asymm

theorem Octets.le_trans {a b c : Octets} (hab : a.le b) (hbc : b.le c) : a.le c := by
  rw [le, leBytes_iff] at *
  exact List.le_trans hab hbc

namespace Scan

variable {α : Type} {name : Octets} {item : Octets × α} {items others : List (Octets × α)}

theorem perm_insertByName : (insertByName item items).Perm (item :: items) := by
  induction items with
  | nil => exact .refl _
  | cons first rest ih =>
    rw [insertByName]
    split
    · exact .refl _
    · exact (ih.cons first).trans (.swap item first rest)

theorem perm_sortByName : (sortByName items).Perm items := by
  induction items with
  | nil => exact .refl _
  | cons item rest ih => exact perm_insertByName.trans (ih.cons item)

/-- Items with different names have one order. -/
theorem sortByName_eq_of_perm (h : items.Perm others) (hnodup : (items.map Prod.fst).Nodup) :
    sortByName items = sortByName others := by
  have hothers : (others.map Prod.fst).Nodup := (h.map Prod.fst).nodup hnodup
  have hperm : (sortByName items).Perm (sortByName others) :=
    (perm_sortByName.trans h).trans perm_sortByName.symm
  exact hperm.eq_of_pairwise (fun _ _ _ _ hab hba ↦ (hab.asymm hba).elim)
    (pairwise_sortByName hnodup) (pairwise_sortByName hothers)

/-- Of items with the same name the one that was first stays first. -/
theorem find?_insertByName :
    (insertByName item items).find? (fun r ↦ r.1 = name) =
      (item :: items).find? fun r ↦ r.1 = name := by
  induction items with
  | nil => rfl
  | cons first rest ih =>
    rw [insertByName]
    split
    · rfl
    · next hle =>
      have hne : item.1 ≠ first.1 := by
        rintro heq
        rw [heq, ← Octets.before_iff_not_le] at hle
        exact Octets.Before.irrefl _ hle
      rw [List.find?_cons, ih]
      by_cases hfirst : first.1 = name
      · have hitem : item.1 ≠ name := fun h ↦ hne (h.trans hfirst.symm)
        simp [hfirst, hitem]
      · simp [List.find?_cons, hfirst]

theorem find?_sortByName :
    (sortByName items).find? (fun r ↦ r.1 = name) = items.find? fun r ↦ r.1 = name := by
  induction items with
  | nil => rfl
  | cons item rest ih => rw [sortByName, find?_insertByName, List.find?_cons, ih, List.find?_cons]

theorem pairwise_le_insertByName (h : items.Pairwise fun a b ↦ a.1.le b.1) :
    (insertByName item items).Pairwise fun a b ↦ a.1.le b.1 := by
  induction items with
  | nil => exact List.pairwise_singleton ..
  | cons first rest ih =>
    obtain ⟨hfirst, hrest⟩ := List.pairwise_cons.mp h
    rw [insertByName]
    split
    · next hle =>
      refine List.pairwise_cons.mpr ⟨?_, h⟩
      exact List.forall_mem_cons.mpr ⟨hle, fun r hr ↦ Octets.le_trans hle (hfirst r hr)⟩
    · next hle =>
      refine List.pairwise_cons.mpr ⟨fun r hr ↦ ?_, ih hrest⟩
      rcases mem_insertByName.mp hr with rfl | hr
      · exact Octets.le_of_not_le hle
      · exact hfirst r hr

/-- Items that are in order already are left as they are. -/
theorem sortByName_of_pairwise (h : items.Pairwise fun a b ↦ a.1.le b.1) :
    sortByName items = items := by
  induction items with
  | nil => rfl
  | cons item rest ih =>
    obtain ⟨hitem, hrest⟩ := List.pairwise_cons.mp h
    rw [sortByName, ih hrest]
    cases rest with
    | nil => rfl
    | cons next rest => rw [insertByName, if_pos (hitem next List.mem_cons_self)]

theorem sortByName_sortByName : sortByName (sortByName items) = sortByName items := by
  refine sortByName_of_pairwise ?_
  induction items with
  | nil => exact .nil
  | cons item rest ih => exact pairwise_le_insertByName ih

end Scan

/-! ### Sorted trees -/

namespace Entry

theorem allSorted_eq_map (entries : List (Octets × Entry)) :
    allSorted entries = entries.map fun r ↦ (r.1, r.2.sorted) := by
  induction entries with
  | nil => rfl
  | cons r rest ih => rw [allSorted, ih, List.map_cons]

variable {e f : Entry}

@[simp] theorem isDir_sorted (e : Entry) : e.sorted.isDir = e.isDir := by
  cases e <;> rfl

@[simp] theorem isFile_sorted (e : Entry) : e.sorted.isFile = e.isFile := by
  cases e <;> rfl

@[simp] theorem textOf_sorted (e : Entry) : Disk.textOf e.sorted = Disk.textOf e := by
  cases e <;> rfl

theorem entries_sorted (e : Entry) :
    e.sorted.entries = Scan.sortByName (e.entries.map fun r ↦ (r.1, r.2.sorted)) := by
  cases e with
  | dir entries => rw [sorted, Entry.entries, Entry.entries, allSorted_eq_map]
  | file => rfl
  | link => rfl

/-- A name leads to the same entry in a sorted directory. -/
theorem child?_sorted (name : Octets) (e : Entry) :
    e.sorted.child? name = (e.child? name).map sorted := by
  rw [child?, child?, entries_sorted, Scan.find?_sortByName, List.find?_map, Option.map_map,
    Option.map_map]
  rfl

theorem Reorders.refl (e : Entry) : e.Reorders e := by
  induction e using Entry.induct with
  | file content => exact .file content
  | link target => exact .link target
  | dir entries ih =>
    refine .dir (.refl entries) ?_
    induction entries with
    | nil => exact .nil
    | cons r rest ihRest =>
      obtain ⟨hr, hrest⟩ := List.forall_mem_cons.mp ih
      exact .cons hr (ihRest hrest)

theorem exists_of_reorders_dir {entries : List (Octets × Entry)}
    (h : (Entry.dir entries).Reorders f) :
    ∃ reordered others, f = .dir others ∧ entries.Perm reordered ∧
      ReordersInside reordered others := by
  cases h with
  | dir horder hinside => exact ⟨_, _, rfl, horder, hinside⟩

/-- **One sorted tree.** Proper trees that differ only in listing orders have the same sorted tree.
-/
theorem sorted_eq_of_reorders (he : e.isProper) (h : e.Reorders f) : e.sorted = f.sorted := by
  induction e using Entry.induct generalizing f with
  | file content => cases h; rfl
  | link target => cases h; rfl
  | dir entries ih =>
    obtain ⟨reordered, others, rfl, horder, hinside⟩ := exists_of_reorders_dir h
    have hmap : ∀ {rest others}, ReordersInside rest others → rest ⊆ entries →
        allSorted rest = allSorted others := by
      intro rest others hrest hsub
      induction rest generalizing others with
      | nil => cases hrest; rfl
      | cons r rest ihRest =>
        cases hrest with
        | cons hentry hrest =>
          obtain ⟨hr, hsub⟩ := List.cons_subset.mp hsub
          rw [allSorted, allSorted, ih _ hr (isProper_mem he hr).2 hentry, ihRest hrest hsub]
    rw [sorted, sorted, ← hmap hinside horder.symm.subset, allSorted_eq_map, allSorted_eq_map]
    refine congrArg Entry.dir (Scan.sortByName_eq_of_perm (horder.map _) ?_)
    rw [List.map_map]
    exact nodup_of_isProper he

end Entry

/-! ### Walks on the sorted disk -/

namespace Disk

/-- A trail with everything on it sorted. -/
def Trail.sorted (t : Trail) : Trail := t.map fun r ↦ (r.1, r.2.sorted)

/-- A place on the sorted disk. -/
def Place.sorted : Place → Place
  | .found trail left => .found trail.sorted left
  | .vacant parent name => .vacant parent.sorted name

@[simp] theorem Trail.names_sorted (t : Trail) : t.sorted.names = t.names := by
  simp [sorted, names]

@[simp] theorem current_sorted (disk : Disk) (t : Trail) :
    disk.sorted.current t.sorted = (disk.current t).sorted := by
  cases t <;> rfl

/-- **Walks on the sorted disk.** Moves lead to the same place on the sorted disk, or end in the
same fault. -/
theorem walk_sorted (disk : Disk) (links : Nat) (moves : List DiskPath.Step) (trail : Trail) :
    disk.sorted.walk links moves trail.sorted = (disk.walk links moves trail).map Place.sorted := by
  induction links using Nat.strongRecOn generalizing moves trail with
  | ind links ihLinks =>
    induction moves generalizing trail with
    | nil => simp [Except.map, Place.sorted]
    | cons step rest ih =>
      cases hdir : (disk.current trail).isDir with
      | false =>
        rw [walk_of_not_isDir hdir, walk_of_not_isDir (by simpa using hdir)]
        rfl
      | true =>
        have hsorted : (disk.sorted.current trail.sorted).isDir := by simpa using hdir
        cases step with
        | stay => rw [walk_stay hdir, walk_stay hsorted, ih]
        | up =>
          rw [walk_up hdir, walk_up hsorted, ← ih]
          simp [Trail.sorted]
        | enter name =>
          have hchild' : (disk.sorted.current trail.sorted).child? name =
              ((disk.current trail).child? name).map Entry.sorted := by
            rw [current_sorted, Entry.child?_sorted]
          cases hchild : (disk.current trail).child? name with
          | none =>
            rw [hchild] at hchild'
            rw [walk_free hdir hchild, walk_free hsorted hchild']
            split <;> rfl
          | some e =>
            rw [hchild] at hchild'
            cases e with
            | file content =>
              rw [walk_enter hchild nofun, walk_enter hchild' nofun, ← ih]
              rfl
            | dir entries =>
              rw [walk_enter hchild nofun, walk_enter hchild' nofun, ← ih]
              rfl
            | link target =>
              cases links with
              | zero =>
                rw [walk_link_zero hchild, walk_link_zero hchild']
                rfl
              | succ links =>
                rw [walk_link_succ hchild, walk_link_succ hchild']
                split
                · rfl
                · rw [← ihLinks links (Nat.lt_succ_self links)]
                  split <;> rfl

theorem find_sorted (disk : Disk) (workingDir p : DiskPath) :
    disk.sorted.find workingDir p =
      (disk.find workingDir p).map fun place ↦ (place.1.sorted, place.2) := by
  rw [find, find, locate, locate]
  split
  · rfl
  · have hwalk := disk.walk_sorted linkLimit (stepsFrom workingDir p) []
    rw [show Trail.sorted [] = [] from rfl] at hwalk
    rw [hwalk]
    rcases disk.walk linkLimit (stepsFrom workingDir p) [] with _ | ⟨_, _⟩ | ⟨_, _⟩ <;> rfl

end Disk

/-! ### Scans of the sorted disk -/

namespace Scan

variable {disk other : Disk} {spot spot' : Spot} {listing : Listing}

/-- Entries that are taken into a listing in the same way one by one are so one after the other. -/
theorem addEntries_congr {viaLink viaLink' : Scanner}
    {items items' : List (Octets × Entry × Scanner)}
    (h : List.Forall₂ (fun r r' ↦ ∀ listing,
      addEntry disk spot viaLink r.1 r.2.1 r.2.2 listing =
        addEntry other spot' viaLink' r'.1 r'.2.1 r'.2.2 listing) items items')
    (listing : Listing) :
    addEntries disk spot viaLink items listing =
      addEntries other spot' viaLink' items' listing := by
  induction h generalizing listing with
  | nil => rfl
  | @cons r r' _ _ hr _ ih =>
    rw [addEntries, addEntries, hr listing]
    cases addEntry other spot' viaLink' r'.1 r'.2.1 r'.2.2 listing with
    | error fault => rfl
    | ok next => exact ih next

/-- A spot on the sorted disk. -/
def Spot.sorted (spot : Spot) : Spot := { spot with trail := spot.trail.sorted }

@[simp] theorem Spot.path_sorted (spot : Spot) : spot.sorted.path = spot.path := rfl

@[simp] theorem Spot.linksLeft_sorted (spot : Spot) : spot.sorted.linksLeft = spot.linksLeft := rfl

@[simp] theorem Spot.trail_sorted (spot : Spot) : spot.sorted.trail = spot.trail.sorted := rfl

theorem sidecar_sorted (disk : Disk) (spot : Spot) (name : String) :
    sidecar disk.sorted spot.sorted name = sidecar disk spot name := by
  simp only [sidecar, Spot.sorted, Disk.walk_sorted]
  rcases disk.walk spot.linksLeft _ spot.trail with _ | ⟨trail, left⟩ | ⟨_, _⟩ <;>
    simp [Except.map, Disk.Place.sorted]

theorem addFolder_sorted (disk : Disk) (spot : Spot) (dirName : String)
    (inside : Except Fault Listing) (listing : Listing) :
    addFolder disk.sorted spot.sorted dirName inside listing =
      addFolder disk spot dirName inside listing := by
  simp only [addFolder, sidecar_sorted]

theorem addFile_sorted (disk : Disk) (spot : Spot) (fileName : String) (listing : Listing) :
    addFile disk.sorted spot.sorted fileName listing = addFile disk spot fileName listing := by
  simp only [addFile, sidecar_sorted, Spot.path_sorted]

/-- An entry is taken into a listing in the same way on the sorted disk, if the scans that this
needs are the same there. -/
theorem addEntry_sorted {viaLink viaLink' inside inside' : Scanner}
    (hlink : ∀ inner : Spot, viaLink' inner.sorted = viaLink inner)
    (hinside : ∀ inner : Spot, inside' inner.sorted = inside inner) (name : Octets)
    (entry : Entry) :
    addEntry disk.sorted spot.sorted viaLink' name entry.sorted inside' listing =
      addEntry disk spot viaLink name entry inside listing := by
  cases entry with
  | dir entries =>
    cases name with
    | raw => rfl
    | text dirName =>
      simp only [addEntry, Entry.sorted, Octets.text?_text, addFolder_sorted]
      rw [← hinside]
      rfl
  | file content =>
    cases name with
    | raw => rfl
    | text fileName => simp only [addEntry, Entry.sorted, Octets.text?_text, addFile_sorted]
  | link target =>
    simp only [addEntry, Entry.sorted, Spot.path_sorted, Spot.linksLeft_sorted, Spot.trail_sorted,
      Disk.walk_sorted]
    rcases disk.walk spot.linksLeft [.enter name] spot.trail with cause | ⟨trail, left⟩ | ⟨_, _⟩
    · rfl
    · simp only [Except.map, Disk.Place.sorted, Disk.Place.existing, bind, Except.bind,
        Disk.current_sorted, Entry.isDir_sorted, Disk.Trail.names_sorted]
      cases name with
      | raw => rfl
      | text s =>
        have hlinked := hlink ⟨spot.path.join ⟨s⟩, trail, left⟩
        simp only [Spot.sorted] at hlinked
        simp only [Octets.text?_text, addFile_sorted, addFolder_sorted, hlinked]
    · rfl

/-- The scan of a sorted entry gives what the scan of the entry gives. -/
theorem tree_sorted {viaLink viaLink' : Scanner}
    (hlink : ∀ inner : Spot, viaLink' inner.sorted = viaLink inner) (entry : Entry) (spot : Spot) :
    tree disk.sorted viaLink' entry.sorted spot.sorted = tree disk viaLink entry spot := by
  induction entry using Entry.induct generalizing spot with
  | file content => rfl
  | link target => rfl
  | dir entries ih =>
    rw [Entry.sorted, tree, tree, scanners_eq_map, scanners_eq_map, ← map_sortByName,
      ← map_sortByName, sortByName_sortByName, Entry.allSorted_eq_map, ← map_sortByName,
      List.map_map]
    refine addEntries_congr ?_ _
    rw [List.forall₂_map_left_iff, List.forall₂_map_right_iff, List.forall₂_same]
    intro r hr listing
    exact addEntry_sorted hlink (ih r (mem_sortByName.mp hr)) r.1 r.2

theorem directory_sorted (disk : Disk) (links : Nat) (spot : Spot) :
    directory disk.sorted links spot.sorted = directory disk links spot := by
  induction links generalizing spot with
  | zero =>
    simp only [directory, Spot.trail_sorted, Disk.current_sorted]
    exact tree_sorted (fun _ ↦ rfl) _ spot
  | succ links ih =>
    simp only [directory, Spot.trail_sorted, Disk.current_sorted]
    exact tree_sorted ih _ spot

/-- **Scans of the sorted disk.** The routes of a path, or the fault that there are none, are the
same on the sorted disk. -/
theorem buildRouteTree_sorted (disk : Disk) (workingDir path : DiskPath) :
    buildRouteTree disk.sorted workingDir path = buildRouteTree disk workingDir path := by
  rw [buildRouteTree, buildRouteTree, Disk.find_sorted]
  rcases disk.find workingDir path with cause | ⟨trail, left⟩
  · rfl
  · have hscan := directory_sorted disk left ⟨path, trail, left⟩
    simp only [Spot.sorted] at hscan
    simp only [Except.map, Disk.current_sorted, Entry.isDir_sorted, hscan]

end Scan

/-- Proper disks that differ only in listing orders have the same sorted disk. -/
theorem Disk.sorted_eq_of_reorders {disk other : Disk} (hdisk : disk.isProper)
    (h : disk.Reorders other) : disk.sorted = other.sorted := by
  rw [sorted, sorted, Entry.sorted_eq_of_reorders hdisk h]

/-- **Listing orders.** What is made of the routes of a path does not depend on the orders in which
directories list their entries. -/
theorem buildRouteTree_eq_of_reorders {disk other : Disk} (hdisk : disk.isProper)
    (h : disk.Reorders other) (workingDir path : DiskPath) :
    buildRouteTree disk workingDir path = buildRouteTree other workingDir path := by
  rw [← Scan.buildRouteTree_sorted disk, ← Scan.buildRouteTree_sorted other,
    Disk.sorted_eq_of_reorders hdisk h]

end PageRoutes
