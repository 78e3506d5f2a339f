import PageRoutes.Proofs.Scan.Names
/-!
# What pruning takes away

A folder drops the children that repeat its own component under an empty path. On a proper disk such
a child is of one of two kinds. It is the node of the folder's index page, whose component the
folder shows itself, or it is the node of a folder named `index` without an index page inside a
folder that has no index page either; in this case everything below the child goes with it.

A page is therefore the component of a node unless the way to it crosses a folder of the second
kind.

## Main definitions

* `Scan.keeps` : whether a folder keeps the node of what is found inside it.
* `Scan.Find.Shows` : whether the node of a find shows a page.
* `Disk.IsBare` : whether the directory that names lead to has no index page.
* `Disk.Cuts` : whether the way along names crosses an index folder that is dropped.

## Main results

* `Scan.descent_routesOf_iff` : the nodes of routes are the ways down on which every step is kept.
* `Scan.FoundAt.hasPage_of_shows` : the names that lead to the page that a node shows.
* `Scan.exists_page_of_component` : the page that a node shows, and the paths on the way to it.
* `Scan.FoundAt.exists_node_iff` : which pages are the components of nodes.
-/

namespace PageRoutes

/-- Whether the directory that names lead to from a place has no index page. -/
def Disk.IsBare (disk : Disk) (start : Disk.Trail × Nat) (dirs : List String) : Prop :=
  ∀ stem, Segment.normalize stem = Segment.indexName → ¬disk.HasPage start dirs stem

/-- Whether the way along names of directories crosses an index folder without an index page inside
a folder below the start that has no index page either. -/
def Disk.Cuts (disk : Disk) (start : Disk.Trail × Nat) (dirs : List String) : Prop :=
  ∃ above name below, above ≠ [] ∧ dirs = above ++ name :: below ∧
    Segment.normalize name = Segment.indexName ∧
    disk.IsBare start above ∧ disk.IsBare start (above ++ [name])

namespace Scan

/-! ### Nodes and ways down -/

/-- Whether the node of a find keeps the node of another find among its children. -/
def keeps (f g : Find) : Bool := !Route.isRedundant f.route.component g.route

@[simp] theorem Find.path_route (f : Find) :
    f.route.path = Segment.routePath (Segment.normalize f.name) := by
  cases f <;> simp [route, name, Route.page, Route.folder]

theorem Find.children_route (f : Find) :
    f.route.children = (f.inside.filter (keeps f)).map route := by
  cases f with
  | page stem file metadata => simp [route, inside, Route.page]
  | folder name inside metadata =>
    simp only [route, Find.inside, Route.folder, routesOf_eq_map, List.filter_map]
    rfl

/-- A find with something inside it is a folder, whose node shows its index page. -/
theorem Find.component_route_of_mem_inside {f g : Find} (h : g ∈ f.inside) :
    f.route.component = indexPageOf f.inside := by
  obtain ⟨metadata, heq⟩ := Find.exists_of_mem_inside h
  rw [heq]
  simp [route, Route.folder, inside]

/-- **Nodes of routes.** The descents into the routes of finds are the ways down through the finds
on which every step is kept. -/
theorem descent_routesOf_iff {finds : List Find} {chain : List Route} :
    Descent Route.children (routesOf finds) chain ↔
      ∃ way, Descent Find.inside finds way ∧ way.IsChain (fun f g ↦ keeps f g) ∧
        chain = way.map Find.route := by
  rw [routesOf_eq_map]
  exact descent_map_filter_iff Find.children_route

/-- The paths of nodes are empty or begin with one separator. -/
theorem FoundAt.isRooted_path {disk : Disk} {spot : Spot} {finds : List Find}
    (hdisk : disk.isProper) (h : FoundAt disk spot finds) {chain : List Route}
    (hdown : Descent Route.children (routesOf finds) chain) {node : Route} (hnode : node ∈ chain) :
    Segment.IsRooted node.path := by
  obtain ⟨way, hway, -, rfl⟩ := descent_routesOf_iff.mp hdown
  obtain ⟨f, hf, rfl⟩ := List.mem_map.mp hnode
  rw [Find.path_route]
  exact Segment.isRooted_routePath_normalize (h.name_ne_empty hdisk hway hf)

/-! ### Index pages -/

/-- The index page among finds is a page whose normalised name is `index`. -/
theorem exists_of_indexPageOf {finds : List Find} {file : DiskPath}
    (h : indexPageOf finds = some file) :
    ∃ stem metadata, .page stem file metadata ∈ finds ∧
      Segment.normalize stem = Segment.indexName := by
  induction finds with
  | nil => simp [indexPageOf] at h
  | cons f rest ih =>
    cases f with
    | folder name inside metadata =>
      obtain ⟨stem, metadata, hmem, hstem⟩ := ih h
      exact ⟨stem, metadata, List.mem_cons_of_mem _ hmem, hstem⟩
    | page stem file' metadata =>
      rw [indexPageOf, Option.or_eq_some_iff] at h
      rcases h with h | ⟨-, h⟩
      · obtain ⟨stem, metadata, hmem, hstem⟩ := ih h
        exact ⟨stem, metadata, List.mem_cons_of_mem _ hmem, hstem⟩
      · split at h
        · next hstem =>
          obtain rfl := Option.some.inj h
          exact ⟨stem, metadata, List.mem_cons_self, hstem⟩
        · cases h

/-- A directory with no index page among its finds has no page whose normalised name is `index`. -/
theorem indexPageOf_eq_none_iff {finds : List Find} :
    indexPageOf finds = none ↔
      ∀ stem file metadata, .page stem file metadata ∈ finds →
        Segment.normalize stem ≠ Segment.indexName := by
  constructor
  · intro h stem file metadata hmem
    induction finds with
    | nil => simp at hmem
    | cons f rest ih =>
      rcases List.mem_cons.mp hmem with rfl | hrest
      · rw [indexPageOf, Option.or_eq_none_iff] at h
        exact fun hstem ↦ by simp [hstem] at h
      · cases f with
        | folder => exact ih h hrest
        | page => exact ih (Option.or_eq_none_iff.mp h).1 hrest
  · intro h
    by_contra hnone
    obtain ⟨file, hfile⟩ := Option.ne_none_iff_exists'.mp hnone
    obtain ⟨stem, metadata, hmem, hstem⟩ := exists_of_indexPageOf hfile
    exact h stem _ metadata hmem hstem

/-- Whether a find is a page, or a folder with the page as an index page in it. The node of no other
find shows the page. -/
inductive Find.Shows : Find → String → DiskPath → Prop
  | page {stem : String} {file : DiskPath} {metadata : Option Json} :
    Shows (.page stem file metadata) stem file
  | folder {name stem : String} {inside : List Find} {file : DiskPath}
    {metadata beside : Option Json} (hmem : .page stem file beside ∈ inside)
    (hstem : Segment.normalize stem = Segment.indexName) :
    Shows (.folder name inside metadata) stem file

/-- The component of a find's node is a page that the find shows. -/
theorem Find.exists_shows {f : Find} {file : DiskPath} (h : f.route.component = some file) :
    ∃ stem, f.Shows stem file := by
  cases f with
  | page stem file' metadata =>
    obtain rfl : file' = file := by simpa [route, Route.page] using h
    exact ⟨stem, .page⟩
  | folder name inside metadata =>
    have hindex : indexPageOf inside = some file := by simpa [route, Route.folder] using h
    obtain ⟨stem, _, hmem, hstem⟩ := exists_of_indexPageOf hindex
    exact ⟨stem, .folder hmem hstem⟩

/-- **Shown pages.** The names on the way to a find that shows a page are those that lead to the
page, or the page is an index page and they are those that lead to its folder. -/
theorem FoundAt.hasPage_of_shows {disk : Disk} {spot : Spot} {finds way : List Find} {f : Find}
    (hdisk : disk.isProper) (h : FoundAt disk spot finds)
    (hway : Descent Find.inside finds (way ++ [f])) {stem : String} {file : DiskPath}
    (hshows : f.Shows stem file) :
    ∃ dirs, disk.HasPage spot.place dirs stem ∧ file = spot.path.below (dirs ++ [pageFile stem]) ∧
      (f.isFolder = false ∧ (way ++ [f]).map Find.name = dirs ++ [stem] ∨
        Segment.normalize stem = Segment.indexName ∧ (way ++ [f]).map Find.name = dirs) := by
  rw [List.map_append, List.map_singleton]
  cases hshows with
  | page =>
    obtain ⟨inside, hopens, hmem⟩ := exists_opens_of_descent hway
    obtain ⟨hpage, hfile⟩ := (h.exists_page_iff hdisk).mp ⟨_, _, hopens, hmem⟩
    exact ⟨_, hpage, hfile, .inl ⟨rfl, rfl⟩⟩
  | folder hmem hstem =>
    have hopens := opens_of_isFolder hway rfl
    obtain ⟨hpage, hfile⟩ := (h.exists_page_iff hdisk).mp ⟨_, _, hopens, hmem⟩
    exact ⟨_, hpage, hfile, .inr ⟨hstem, rfl⟩⟩

/-- The way down to a node is the way down to a find whose node it is. -/
theorem exists_find_of_descent {finds : List Find} {chain : List Route} {node : Route}
    (h : Descent Route.children (routesOf finds) (chain ++ [node])) :
    ∃ way f, Descent Find.inside finds (way ++ [f]) ∧
      (way ++ [f]).IsChain (fun f g ↦ keeps f g) ∧ chain = way.map Find.route ∧
      node = f.route := by
  obtain ⟨way, hway, hchain, hmap⟩ := descent_routesOf_iff.mp h
  obtain ⟨above, f, rfl⟩ := (List.eq_nil_or_concat way).resolve_left hway.ne_nil
  rw [List.concat_eq_append] at hway hchain hmap
  rw [List.map_append] at hmap
  obtain ⟨habove, hnode⟩ := List.append_inj' hmap rfl
  exact ⟨above, f, hway, hchain, habove, List.singleton_inj.mp hnode⟩

/-- **The page that a node shows.** The component of a node is a page to which a way down leads on
whose steps between folders nothing is dropped, and the paths on the way to the node are those of
the names on the way to the page. -/
theorem exists_page_of_component {finds : List Find} {chain : List Route} {node : Route}
    {file : DiskPath} (h : Descent Route.children (routesOf finds) (chain ++ [node]))
    (hfile : node.component = some file) :
    ∃ folders stem metadata, Descent Find.inside finds (folders ++ [.page stem file metadata]) ∧
      folders.IsChain (fun f g ↦ keeps f g) ∧
      String.join ((chain ++ [node]).map Route.path) =
        String.join
          ((folders.map Find.name ++ [stem]).map (Segment.routePath ∘ Segment.normalize)) := by
  obtain ⟨way, f, hway, hchain, rfl, rfl⟩ := exists_find_of_descent h
  have hpaths : String.join ((way.map Find.route ++ [f.route]).map Route.path) =
      String.join
        (((way ++ [f]).map Find.name).map (Segment.routePath ∘ Segment.normalize)) := by
    simp [Function.comp_def]
  obtain ⟨stem, hshows⟩ := Find.exists_shows hfile
  cases hshows with
  | @page _ _ metadata =>
    refine ⟨way, stem, metadata, hway, hchain.left_of_append, ?_⟩
    rw [hpaths, List.map_append]
    rfl
  | @folder name _ _ _ _ beside hmem hstem =>
    -- The node of a folder shows the folder's index page, whose own path is empty.
    have hdown := hway.snoc hmem
    refine ⟨_, stem, beside, hdown, hchain, ?_⟩
    rw [hpaths]
    simp [String.join_append, hstem]

/-! ### Redundant children -/

section Redundant

variable {disk : Disk} {spot : Spot} {finds inside : List Find}

/-- Whether a directory that names open has an index page is seen on the disk. -/
theorem FoundAt.indexPageOf_eq_none_iff_isBare (hdisk : disk.isProper) (h : FoundAt disk spot finds)
    {dirs : List String} (hopens : Opens finds dirs inside) :
    indexPageOf inside = none ↔ disk.IsBare spot.place dirs := by
  obtain ⟨inner, hreach, -, -, hfound⟩ := h.of_opens hdisk hopens
  have hpage := Disk.hasPage_of_reach hreach
  rw [indexPageOf_eq_none_iff]
  constructor
  · intro hnone stem hstem hhas
    obtain ⟨metadata, hmem⟩ := (hfound.mem_page_iff hdisk).mpr ⟨(hpage stem).mp hhas, rfl⟩
    exact hnone stem _ metadata hmem hstem
  · intro hbare stem file metadata hmem hstem
    exact hbare stem hstem ((hpage stem).mpr ((hfound.mem_page_iff hdisk).mp ⟨metadata, hmem⟩).1)

theorem isRedundant_iff (component : Option DiskPath) (f : Find) :
    Route.isRedundant component f.route ↔
      Segment.normalize f.name = Segment.indexName ∧
        Route.sameComponent f.route.component component := by
  rw [Route.isRedundant, Bool.and_eq_true, String.isEmpty_iff, Find.path_route,
    Segment.routePath_eq_empty_iff]

/-- **Redundant folders.** A folder inside another is redundant if it is named `index` and neither
has an index page. Two index pages are never the same component. -/
theorem FoundAt.isRedundant_folder_iff (hdisk : disk.isProper) (h : FoundAt disk spot inside)
    {name : String} {next : List Find} {metadata : Option Json}
    (hmem : .folder name next metadata ∈ inside) :
    Route.isRedundant (indexPageOf inside) (Find.folder name next metadata).route ↔
      Segment.normalize name = Segment.indexName ∧
        indexPageOf inside = none ∧ indexPageOf next = none := by
  rw [isRedundant_iff]
  refine and_congr_right fun _ ↦ ?_
  simp only [Find.route, Route.folder]
  cases hnext : indexPageOf next with
  | none => cases hinside : indexPageOf inside <;> simp [Route.sameComponent]
  | some inner =>
    cases hinside : indexPageOf inside with
    | none => simp [Route.sameComponent]
    | some outer =>
      obtain ⟨stem, _, houter, -⟩ := exists_of_indexPageOf hinside
      obtain ⟨stem', _, hinner, -⟩ := exists_of_indexPageOf hnext
      obtain ⟨place, -, hname, hfound⟩ := h.of_mem_folder hdisk hmem
      obtain ⟨hfile, rfl⟩ := h.isFileName_page hdisk houter
      obtain ⟨hfile', rfl⟩ := hfound.isFileName_page hdisk hinner
      simp only [Route.sameComponent, DiskPath.equiv, reduceCtorEq, and_false, iff_false,
        beq_iff_eq]
      rw [DiskPath.components_join hfound.path_ne hfile', DiskPath.components_join h.path_ne hname,
        DiskPath.components_join h.path_ne hfile]
      intro heq
      simpa using congrArg List.length heq

/-- **Redundant pages.** A page is redundant inside a folder only if the folder shows it itself. -/
theorem FoundAt.indexPageOf_eq_of_isRedundant_page (hdisk : disk.isProper)
    (h : FoundAt disk spot inside) {stem : String} {file : DiskPath} {metadata : Option Json}
    (hmem : .page stem file metadata ∈ inside)
    (hredundant : Route.isRedundant (indexPageOf inside) (Find.page stem file metadata).route) :
    indexPageOf inside = some file := by
  obtain ⟨-, hsame⟩ := (isRedundant_iff _ _).mp hredundant
  cases hindex : indexPageOf inside with
  | none => simp [hindex, Find.route, Route.page, Route.sameComponent] at hsame
  | some index =>
    obtain ⟨stem', _, hmem', -⟩ := exists_of_indexPageOf hindex
    obtain ⟨hname, rfl⟩ := h.isFileName_page hdisk hmem
    obtain ⟨hname', rfl⟩ := h.isFileName_page hdisk hmem'
    simp only [hindex, Find.route, Route.page, Route.sameComponent, DiskPath.equiv, beq_iff_eq,
      DiskPath.components_join h.path_ne hname, DiskPath.components_join h.path_ne hname',
      List.append_cancel_left_eq, List.cons.injEq, DiskPath.Component.name.injEq, and_true] at hsame
    rw [hsame]

/-! ### Folders and pages that are kept -/

/-- A step between folders on a way down is dropped if the second is an index folder and neither has
an index page. -/
theorem FoundAt.keeps_eq_false_iff (hdisk : disk.isProper) (h : FoundAt disk spot finds)
    {way rest : List Find} {a b : Find}
    (hway : Descent Find.inside finds (way ++ a :: b :: rest)) (hb : b.isFolder) :
    keeps a b = false ↔ Segment.normalize b.name = Segment.indexName ∧
      disk.IsBare spot.place (way.map Find.name ++ [a.name]) ∧
      disk.IsBare spot.place (way.map Find.name ++ [a.name] ++ [b.name]) := by
  obtain ⟨hopens, hmem⟩ := opens_of_descent hway
  have hway' : Descent Find.inside finds (way ++ [a] ++ b :: rest) := by simpa using hway
  have hopens' := opens_of_isFolder hway'.stop hb
  rw [List.map_append] at hopens'
  obtain ⟨inner, -, -, -, hinner⟩ := h.of_opens hdisk hopens
  obtain ⟨metadata, heq⟩ := Find.exists_of_isFolder hb
  have hcomponent := Find.component_route_of_mem_inside hmem
  have hiff := hinner.isRedundant_folder_iff hdisk (heq ▸ hmem)
  rw [← heq, h.indexPageOf_eq_none_iff_isBare hdisk hopens,
    h.indexPageOf_eq_none_iff_isBare hdisk hopens'] at hiff
  rw [keeps, hcomponent, Bool.not_eq_false', hiff]
  rfl

/-- **Ways that are kept.** Along the folders at the beginning of a way down every step is kept
unless their names are cut on the disk. -/
theorem FoundAt.isChain_keeps_iff (hdisk : disk.isProper) (h : FoundAt disk spot finds)
    {folders rest : List Find} (hway : Descent Find.inside finds (folders ++ rest))
    (hfolders : ∀ f ∈ folders, f.isFolder) :
    folders.IsChain (fun a b ↦ keeps a b) ↔ ¬disk.Cuts spot.place (folders.map Find.name) := by
  have hstep {way more : List Find} {a b : Find} (hsplit : folders = way ++ a :: b :: more) :
      keeps a b = false ↔ Segment.normalize b.name = Segment.indexName ∧
        disk.IsBare spot.place (way.map Find.name ++ [a.name]) ∧
        disk.IsBare spot.place (way.map Find.name ++ [a.name] ++ [b.name]) := by
    have hdown : Descent Find.inside finds (way ++ a :: b :: (more ++ rest)) := by
      simpa [hsplit] using hway
    exact h.keeps_eq_false_iff hdisk hdown (hfolders b (by simp [hsplit]))
  rw [List.isChain_iff_forall_rel_of_append_cons_cons]
  constructor
  · rintro hchain ⟨above, name, below, habove, hdirs, hname, hbare, hbare'⟩
    obtain ⟨outer, inner, hsplit, rfl, hinner⟩ := List.map_eq_append_iff.mp hdirs
    obtain ⟨b, more, rfl, rfl, -⟩ := List.map_eq_cons_iff.mp hinner
    obtain ⟨way, a, rfl⟩ := (List.eq_nil_or_concat outer).resolve_left (by simpa using habove)
    rw [List.concat_eq_append, List.append_assoc] at hsplit
    rw [List.concat_eq_append, List.map_append] at hbare hbare'
    have hfalse := (hstep hsplit).mpr ⟨hname, hbare, hbare'⟩
    simp [hchain hsplit] at hfalse
  · intro hcuts a b way more hsplit
    by_contra hfalse
    obtain ⟨hname, hbare, hbare'⟩ := (hstep hsplit).mp (by simpa using hfalse)
    exact hcuts ⟨_, b.name, more.map Find.name, by simp, by simp [hsplit], hname, hbare, hbare'⟩

/-- **Pages of routes.** A page that names lead to is the component of a node of the routes if and
only if its way is not cut. -/
theorem FoundAt.exists_node_iff (hdisk : disk.isProper) (h : FoundAt disk spot finds)
    {dirs : List String} {stem : String} (hpage : disk.HasPage spot.place dirs stem) :
    (∃ chain node, Descent Route.children (routesOf finds) (chain ++ [node]) ∧
        node.component = some (spot.path.below (dirs ++ [pageFile stem]))) ↔
      ¬disk.Cuts spot.place dirs := by
  constructor
  · rintro ⟨chain, node, hdown, hnode⟩
    obtain ⟨folders, stem', metadata, hway, hchain, -⟩ := exists_page_of_component hdown hnode
    obtain ⟨inside, hopens, hmem⟩ := exists_opens_of_descent hway
    obtain ⟨hpage', hfile⟩ := (h.exists_page_iff hdisk).mp ⟨inside, metadata, hopens, hmem⟩
    obtain ⟨rfl, -⟩ := h.names_eq_of_hasPage hdisk hpage hpage' (congrArg _ hfile)
    exact (h.isChain_keeps_iff hdisk hway (isFolder_of_descent hway)).mp hchain
  · intro hcuts
    obtain ⟨file, hfile⟩ : ∃ file, file = spot.path.below (dirs ++ [pageFile stem]) := ⟨_, rfl⟩
    rw [← hfile]
    obtain ⟨inside, metadata, hopens, hmem⟩ := (h.exists_page_iff hdisk).mpr ⟨hpage, hfile⟩
    obtain ⟨folders, hway, rfl⟩ := exists_descent_of_opens hopens hmem
    have hchain := (h.isChain_keeps_iff hdisk hway (isFolder_of_descent hway)).mpr hcuts
    rcases List.eq_nil_or_concat folders with rfl | ⟨outer, last, rfl⟩
    · exact ⟨[], _, descent_routesOf_iff.mpr ⟨_, hway, .singleton _, rfl⟩, rfl⟩
    · rw [List.concat_eq_append] at hway hchain
      cases hlast : keeps last (.page stem file metadata) with
      | true =>
        refine ⟨(outer ++ [last]).map Find.route, (Find.page stem file metadata).route,
          descent_routesOf_iff.mpr ⟨_, hway, ?_, by simp⟩, rfl⟩
        exact hchain.append (.singleton _) (by simpa using hlast)
      | false =>
        -- The folder drops the page because it shows it itself.
        have hway' :
            Descent Find.inside finds (outer ++ last :: .page stem file metadata :: []) := by
          simpa using hway
        obtain ⟨hopens', hpage'⟩ := opens_of_descent hway'
        obtain ⟨inner, -, -, -, hinner⟩ := h.of_opens hdisk hopens'
        have hcomponent := Find.component_route_of_mem_inside hpage'
        rw [keeps, Bool.not_eq_false', hcomponent] at hlast
        have hshown := hinner.indexPageOf_eq_of_isRedundant_page hdisk hpage' hlast
        exact ⟨outer.map Find.route, last.route,
          descent_routesOf_iff.mpr ⟨_, hway'.stop, hchain, by simp⟩, hcomponent.trans hshown⟩

end Redundant

end Scan

end PageRoutes
