import Mathlib.Data.List.Flatten
import PageRoutes.Proofs.Scan.Order
import PageRoutes.Proofs.Scan.Pruning
/-!
# What stands side by side

The finds of a directory come in the order of the bytes of their file names, since its entries do.
So no two of them have the same name, and the index page that a directory shows is the one whose
name comes last.

The components of nodes are paths of page files, and the path of a page begins with the names on the
way to it. Different finds of a directory therefore have no component in common. A folder and what
it keeps of its inside have none in common either: the folder shows its index page, and the node of
this page is what it drops.

## Main definitions

* `Scan.Find.entryName` : the file name of a find.
* `Disk.IsLastIndexPage` : the index page of a directory that comes last.

## Main results

* `Scan.FoundAt.pairwise_entryName` : the finds of a directory in order.
* `Scan.FoundAt.indexPageOf_eq_some_iff` : the index page that a directory shows.
* `Scan.FoundAt.pairwise_components` : no two nodes of routes have the same component.
-/

namespace PageRoutes

/-- Whether a page is the last one in the order of the bytes of their file names among the index
pages of the directory that names lead to. -/
structure Disk.IsLastIndexPage (disk : Disk) (start : Disk.Trail × Nat) (dirs : List String)
    (stem : String) : Prop where
  hasPage : disk.HasPage start dirs stem
  normalize_eq : Segment.normalize stem = Segment.indexName
  last : ∀ other, disk.HasPage start dirs other → Segment.normalize other = Segment.indexName →
    other = stem ∨ (Octets.text (Scan.pageFile other)).Before (.text (Scan.pageFile stem))

namespace Scan

/-- The name of the file or directory that a find is. -/
def Find.entryName : Find → String
  | .page stem _ _ => pageFile stem
  | .folder name _ _ => name

/-- An induction over finds in which a folder comes after what is inside it. -/
theorem Find.induct {P : Find → Prop}
    (page : ∀ stem file metadata, P (.page stem file metadata))
    (folder : ∀ name inside metadata, (∀ f ∈ inside, P f) → P (.folder name inside metadata))
    (f : Find) : P f :=
  Find.rec (motive_2 := fun finds ↦ ∀ f ∈ finds, P f) page folder (fun _ h ↦ nomatch h)
    (fun _ _ hf hrest ↦ List.forall_mem_cons.mpr ⟨hf, hrest⟩) f

variable {disk : Disk} {spot : Spot} {finds inside : List Find}

/-! ### Finds in order -/

/-- Finds come in the order of the entries that they come from, and each from an entry of its own.
-/
theorem Found.entryName_sublist {entries : List (Octets × Entry)}
    (h : Found disk spot entries finds) :
    (finds.map fun f ↦ Octets.text f.entryName).Sublist (entries.map Prod.fst) := by
  induction h with
  | nil => exact .slnil
  | passed _ _ _ ih => exact ih.cons _
  | page _ _ hname _ _ ih =>
    obtain ⟨rfl, -⟩ := splitExtension_eq_page_iff.mp hname
    exact ih.cons_cons _
  | folder _ _ _ _ _ _ ih => exact ih.cons_cons _

/-- **Finds in order.** The file names of the finds of a directory come in the order of their bytes.
-/
theorem FoundAt.pairwise_entryName (hdisk : disk.isProper) (h : FoundAt disk spot finds) :
    finds.Pairwise fun f g ↦ (Octets.text f.entryName).Before (.text g.entryName) := by
  have hnames : ((spot.entries disk).map Prod.fst).Pairwise Octets.Before := by
    rw [List.pairwise_map]
    exact pairwise_sortByName (Entry.nodup_of_isProper (Disk.isProper_current hdisk h.sound))
  exact List.pairwise_map.mp (hnames.sublist h.found.entryName_sublist)

/-- Finds of a directory with the same file name are the same. -/
theorem FoundAt.eq_of_entryName (hdisk : disk.isProper) (h : FoundAt disk spot finds) {f g : Find}
    (hf : f ∈ finds) (hg : g ∈ finds) (hname : f.entryName = g.entryName) : f = g := by
  have hnodup : (finds.map Find.entryName).Nodup := by
    refine List.pairwise_map.mpr ((h.pairwise_entryName hdisk).imp ?_)
    intro f g hbefore heq
    rw [heq] at hbefore
    exact Octets.Before.irrefl _ hbefore
  exact List.inj_on_of_nodup_map hnodup hf hg hname

/-! ### The last index page -/

/-- The index page of a directory is the last one among its finds. -/
theorem exists_append_of_indexPageOf {file : DiskPath} (h : indexPageOf finds = some file) :
    ∃ before stem metadata after, finds = before ++ .page stem file metadata :: after ∧
      Segment.normalize stem = Segment.indexName ∧ indexPageOf after = none := by
  induction finds with
  | nil => cases h
  | cons f rest ih =>
    have hlater (h : indexPageOf rest = some file) :
        ∃ before stem metadata after, f :: rest = before ++ .page stem file metadata :: after ∧
          Segment.normalize stem = Segment.indexName ∧ indexPageOf after = none := by
      obtain ⟨before, stem, metadata, after, rfl, hstem, hafter⟩ := ih h
      exact ⟨f :: before, stem, metadata, after, rfl, hstem, hafter⟩
    cases f with
    | folder => exact hlater h
    | page stem file' metadata =>
      rw [indexPageOf, Option.or_eq_some_iff] at h
      rcases h with h | ⟨hrest, h⟩
      · exact hlater h
      · split at h
        · next hstem =>
          obtain rfl := Option.some.inj h
          exact ⟨[], stem, metadata, rest, rfl, hstem, hrest⟩
        · cases h

/-- **The index page of a directory.** Of the index pages in a directory the one whose file name
comes last is shown. -/
theorem FoundAt.indexPageOf_eq_some_iff (hdisk : disk.isProper) (h : FoundAt disk spot finds)
    {dirs : List String} (hopens : Opens finds dirs inside) {file : DiskPath} :
    indexPageOf inside = some file ↔ ∃ stem, disk.IsLastIndexPage spot.place dirs stem ∧
      file = spot.path.below (dirs ++ [pageFile stem]) := by
  obtain ⟨inner, hreach, hpath, -, hfound⟩ := h.of_opens hdisk hopens
  have hpage (stem : String) (file : DiskPath) : (∃ metadata, .page stem file metadata ∈ inside) ↔
      disk.HasPage spot.place dirs stem ∧ file = spot.path.below (dirs ++ [pageFile stem]) := by
    rw [hfound.mem_page_iff hdisk, Disk.hasPage_of_reach hreach, hpath, DiskPath.below_append]
    rfl
  have hlast {file : DiskPath} (hindex : indexPageOf inside = some file) :
      ∃ stem, disk.IsLastIndexPage spot.place dirs stem ∧
        file = spot.path.below (dirs ++ [pageFile stem]) := by
    obtain ⟨before, stem, metadata, after, rfl, hstem, hafter⟩ :=
      exists_append_of_indexPageOf hindex
    obtain ⟨hhas, hfile⟩ := (hpage stem file).mp ⟨metadata, by simp⟩
    refine ⟨stem, ⟨hhas, hstem, fun other hother hname ↦ ?_⟩, hfile⟩
    obtain ⟨metadata', hmem⟩ := (hpage other _).mpr ⟨hother, rfl⟩
    -- Another index page is not behind the last one, so it is in front of it.
    rcases List.mem_append.mp hmem with hbefore | hmem
    · have hordered := (List.pairwise_append.mp (hfound.pairwise_entryName hdisk)).2.2
      exact .inr (hordered _ hbefore _ List.mem_cons_self)
    · rcases List.mem_cons.mp hmem with heq | hbehind
      · exact .inl (Find.page.inj heq).1
      · exact absurd hname (indexPageOf_eq_none_iff.mp hafter _ _ _ hbehind)
  refine ⟨hlast, ?_⟩
  rintro ⟨stem, hstem, rfl⟩
  obtain ⟨metadata, hmem⟩ := (hpage stem _).mpr ⟨hstem.hasPage, rfl⟩
  obtain ⟨file, hindex⟩ : ∃ file, indexPageOf inside = some file :=
    Option.ne_none_iff_exists'.mp fun hnone ↦
      indexPageOf_eq_none_iff.mp hnone _ _ _ hmem hstem.normalize_eq
  obtain ⟨stem', hstem', rfl⟩ := hlast hindex
  rcases hstem.last stem' hstem'.hasPage hstem'.normalize_eq with rfl | hbefore
  · exact hindex
  · rcases hstem'.last stem hstem.hasPage hstem.normalize_eq with rfl | hafter
    · exact hindex
    · exact (hbefore.asymm hafter).elim

/-! ### Components -/

theorem components_routesOf (finds : List Find) :
    Route.components (routesOf finds) = finds.flatMap fun f ↦ Route.componentsIn f.route := by
  rw [routesOf_eq_map, Route.components_eq_flatMap, List.flatMap_map]

@[simp] theorem componentsIn_page (stem : String) (file : DiskPath) (metadata : Option Json) :
    Route.componentsIn (Find.page stem file metadata).route = [file] := rfl

theorem componentsIn_folder (name : String) (inside : List Find) (metadata : Option Json) :
    Route.componentsIn (Find.folder name inside metadata).route =
      (indexPageOf inside).toList ++
        (inside.filter (keeps (.folder name inside metadata))).flatMap
          fun f ↦ Route.componentsIn f.route := by
  have hchildren := (Find.folder name inside metadata).children_route
  rw [Route.componentsIn_eq, hchildren, Route.components_eq_flatMap, List.flatMap_map]
  rfl

/-- **Components and names.** The components of a find's nodes are paths inside the directory that
go on with the file name of the find. -/
theorem FoundAt.components_eq (hdisk : disk.isProper) (h : FoundAt disk spot finds) {f : Find}
    (hf : f ∈ finds) {file : DiskPath} (hfile : file ∈ Route.componentsIn f.route) :
    ∃ rest, file.components = spot.path.components ++ .name f.entryName :: rest := by
  induction f using Find.induct generalizing spot finds with
  | page stem file' metadata =>
    obtain rfl : file = file' := by simpa using hfile
    obtain ⟨hname, rfl⟩ := h.isFileName_page hdisk hf
    exact ⟨[], DiskPath.components_join h.path_ne hname⟩
  | folder name inside metadata ih =>
    obtain ⟨place, -, hname, hinside⟩ := h.of_mem_folder hdisk hf
    obtain ⟨g, hg, hfile⟩ : ∃ g ∈ inside, file ∈ Route.componentsIn g.route := by
      rw [componentsIn_folder, List.mem_append, Option.mem_toList, List.mem_flatMap] at hfile
      rcases hfile with hindex | ⟨g, hg, hfile⟩
      · obtain ⟨stem, beside, hmem, -⟩ := exists_of_indexPageOf hindex
        exact ⟨_, hmem, by simp⟩
      · exact ⟨g, List.mem_of_mem_filter hg, hfile⟩
    obtain ⟨rest, hrest⟩ := ih g hg hinside hg hfile
    rw [DiskPath.components_join h.path_ne hname] at hrest
    exact ⟨_, hrest.trans (List.append_assoc ..)⟩

/-- Finds of a directory with a component in common are the same. -/
theorem FoundAt.eq_of_equiv (hdisk : disk.isProper) (h : FoundAt disk spot finds) {f g : Find}
    (hf : f ∈ finds) (hg : g ∈ finds) {p q : DiskPath} (hp : p ∈ Route.componentsIn f.route)
    (hq : q ∈ Route.componentsIn g.route) (hequiv : p.equiv q) : f = g := by
  obtain ⟨rest, hrest⟩ := h.components_eq hdisk hf hp
  obtain ⟨more, hmore⟩ := h.components_eq hdisk hg hq
  have heq : p.components = q.components := beq_iff_eq.mp hequiv
  rw [hrest, hmore, List.append_cancel_left_eq, List.cons.injEq] at heq
  exact h.eq_of_entryName hdisk hf hg (DiskPath.Component.name.inj heq.1)

/-- The components of a directory's nodes differ if those of each find do. -/
theorem FoundAt.pairwise_flatMap (hdisk : disk.isProper) (h : FoundAt disk spot finds)
    (hfinds : ∀ f ∈ finds, (Route.componentsIn f.route).Pairwise fun p q ↦ ¬p.equiv q) :
    (finds.flatMap fun f ↦ Route.componentsIn f.route).Pairwise fun p q ↦ ¬p.equiv q := by
  refine List.pairwise_flatMap.mpr ⟨hfinds, ?_⟩
  refine (h.pairwise_entryName hdisk).imp_of_mem ?_
  rintro f g hf hg hbefore p hp q hq hequiv
  obtain rfl := h.eq_of_equiv hdisk hf hg hp hq hequiv
  exact Octets.Before.irrefl _ hbefore

/-- The components of a find's nodes differ. -/
theorem FoundAt.pairwise_componentsIn (hdisk : disk.isProper) (h : FoundAt disk spot finds)
    {f : Find} (hf : f ∈ finds) :
    (Route.componentsIn f.route).Pairwise fun p q ↦ ¬p.equiv q := by
  induction f using Find.induct generalizing spot finds with
  | page => exact List.pairwise_singleton ..
  | folder name inside metadata ih =>
    obtain ⟨place, -, -, hinside⟩ := h.of_mem_folder hdisk hf
    have hall := hinside.pairwise_flatMap hdisk fun g hg ↦ ih g hg hinside hg
    rw [componentsIn_folder, List.pairwise_append]
    refine ⟨?_, hall.sublist (List.filter_sublist.flatMap _), ?_⟩
    · cases indexPageOf inside <;> simp
    · intro file hindex q hq hequiv
      rw [Option.mem_toList] at hindex
      obtain ⟨stem, beside, hmem, hstem⟩ := exists_of_indexPageOf hindex
      obtain ⟨g, hg, hq⟩ := List.mem_flatMap.mp hq
      obtain ⟨hginside, hkeeps⟩ := List.mem_filter.mp hg
      -- What shows the folder's index page inside it is the page itself, and this is dropped.
      obtain rfl := hinside.eq_of_equiv hdisk hmem hginside (List.mem_singleton_self file) hq hequiv
      have hdropped : keeps (.folder name inside metadata) (.page stem file beside) = false := by
        have hshown : (Find.folder name inside metadata).route.component = some file :=
          (Find.component_route_of_mem_inside hmem).trans hindex
        rw [keeps, Bool.not_eq_false', hshown, isRedundant_iff]
        exact ⟨hstem, beq_self_eq_true _⟩
      rw [hdropped] at hkeeps
      cases hkeeps

/-- **Each page at most once.** Different nodes of routes have components that differ, also where
paths are compared by what they are made of. -/
theorem FoundAt.pairwise_components (hdisk : disk.isProper) (h : FoundAt disk spot finds) :
    (Route.components (routesOf finds)).Pairwise fun p q ↦ ¬p.equiv q := by
  rw [components_routesOf]
  exact h.pairwise_flatMap hdisk fun f hf ↦ h.pairwise_componentsIn hdisk hf

end Scan

end PageRoutes
