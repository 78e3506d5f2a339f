import PageRoutes.Proofs.Project.Metadata
import PageRoutes.Proofs.Route.Separators
import PageRoutes.Proofs.Scan.Siblings
/-!
# The shape of a project's routes

Each node of a project's routes is made from a page file or from a folder, and the nodes above it
are made from the folders around it. What a node is made from determines its shape. The node of a
page has no children. The node of a folder shows the index page of the folder, which is the last one
in the order of the bytes of file names if there are several; the others keep nodes of their own.

A folder does not keep a child that repeats its component under an empty path. It looks at paths
with their slashes. A path is a slash with something behind it or nothing at all, so no path becomes
empty when the slashes are taken away, and what has been pruned stays so. Only one slash stands in
front of a path, therefore none is left.

## Main definitions

* `Route.IsPruned` : forests without children that repeat the component above them.
* `Project.Scans` : what is found in the page directory of a project.
* `Project.MadeFrom` : whether the nodes on a way down are made from what names lead to.
* `Project.IsLastIndexPage` : the index page of a folder that comes last.

## Main results

* `Project.components_of_routes` : the components of nodes are pages, each at most once.
* `Project.separators_of_routes` : the slashes in front of the paths of nodes.
* `Project.shape_of_routes` : the children and the components of nodes.
-/

namespace PageRoutes

namespace Scan

variable {disk : Disk} {spot : Spot} {finds way : List Find} {f : Find}

/-- The node of a folder shows the index page of what is inside it. -/
theorem Find.component_route_of_isFolder (h : f.isFolder) :
    f.route.component = indexPageOf f.inside := by
  obtain ⟨metadata, heq⟩ := Find.exists_of_isFolder h
  rw [heq]
  simp [route, Route.folder, inside]

/-- The node of a page has no children. -/
theorem Find.children_route_of_not_isFolder (h : f.isFolder = false) : f.route.children = [] := by
  cases f with
  | page => rfl
  | folder => cases h

/-- The paths of nodes are empty or have exactly one slash in front. -/
theorem FoundAt.isSeparated_path (hdisk : disk.isProper) (h : FoundAt disk spot finds)
    (hway : Descent Find.inside finds way) (hf : f ∈ way) : Segment.IsSeparated f.route.path := by
  rw [Find.path_route]
  exact Segment.isSeparated_routePath_normalize (h.name_ne_empty hdisk hway hf)
    (h.slash_not_mem_name hdisk hway hf)

end Scan

namespace Route

/-! ### Pruned forests -/

/-- Whether no node of a forest has a child with an empty path that shows what the node shows. -/
def IsPruned (routes : List Route) : Prop :=
  ∀ way node, Descent children routes (way ++ [node]) → ∀ child ∈ node.children,
    child.path = "" → ¬sameComponent child.component node.component

/-- The nodes of finds keep no child that repeats their component. -/
theorem isPruned_routesOf (finds : List Scan.Find) : IsPruned (Scan.routesOf finds) := by
  intro chain node hdown child hchild hpath hsame
  obtain ⟨way, f, -, -, -, rfl⟩ := Scan.exists_find_of_descent hdown
  rw [Scan.Find.children_route] at hchild
  obtain ⟨g, hg, rfl⟩ := List.mem_map.mp hchild
  have hkeeps := (List.mem_filter.mp hg).2
  have hredundant : isRedundant f.route.component g.route := by
    rw [isRedundant, hpath, hsame]
    rfl
  simp [Scan.keeps, hredundant] at hkeeps

/-- **Stripped forests are pruned.** Where paths are empty or a slash with something behind it, no
path becomes empty by stripping, and a pruned forest stays pruned. -/
theorem IsPruned.stripNested {routes : List Route} (h : IsPruned routes)
    (hrooted : ∀ way node, Descent children routes (way ++ [node]) →
      Segment.IsRooted node.path) : IsPruned (stripNested routes) := by
  intro way node hdown child hchild hpath
  obtain ⟨origin, horigin, heq⟩ := descent_stripNested_iff.mp hdown
  obtain ⟨above, r, rfl⟩ := (List.eq_nil_or_concat origin).resolve_left horigin.ne_nil
  rw [List.concat_eq_append] at horigin heq
  rw [(path_and_children_of_stripWay heq).2] at hchild
  obtain ⟨c, hc, rfl⟩ := List.mem_map.mp hchild
  -- The child's path was empty before, so the forest has been pruned with respect to it.
  rw [path_strip, stripSlash_eq_empty_iff (hrooted _ _ (horigin.snoc hc))] at hpath
  rw [component_strip, component_of_stripWay heq]
  exact h above r horigin c hc hpath

end Route

namespace Project

variable {project : Project} {disk : Disk} {workingDir : DiskPath} {routes : List Route}

/-! ### What nodes are made from -/

/-- Whether a spot is the page directory of a project, and finds are what is found there. -/
structure Scans (project : Project) (disk : Disk) (workingDir : DiskPath) (spot : Scan.Spot)
    (finds : List Scan.Find) : Prop where
  find_eq : disk.find workingDir (project.pageDir workingDir) = .ok spot.place
  path_eq : spot.path = project.pageDir workingDir
  found : Scan.FoundAt disk spot finds

/-- Whether the nodes on a way down are made from what names lead to from the page directory, with
their separators stripped: the last node from a folder or from a page, where the last name is the
stem of the page, and the nodes above it from the folders on the way. -/
def MadeFrom (project : Project) (disk : Disk) (workingDir : DiskPath) (names : List String)
    (isFolder : Bool) (way : List Route) : Prop :=
  ∃ spot finds above f, project.Scans disk workingDir spot finds ∧
    Descent Scan.Find.inside finds (above ++ [f]) ∧ (above ++ [f]).map Scan.Find.name = names ∧
    f.isFolder = isFolder ∧ way = Route.stripWay ((above ++ [f]).map Scan.Find.route)

/-- Whether a page is the last one in the order of the bytes of their file names among the index
pages of the folder that names lead to. -/
def IsLastIndexPage (project : Project) (disk : Disk) (workingDir : DiskPath) (dirs : List String)
    (stem : String) : Prop :=
  ∃ start, disk.find workingDir (project.pageDir workingDir) = .ok start ∧
    disk.IsLastIndexPage start dirs stem

/-- The routes of a project are those of what is found in its page directory, stripped. -/
theorem exists_scans (hdisk : disk.isProper) (h : project.routes disk workingDir = .ok routes) :
    ∃ spot finds, project.Scans disk workingDir spot finds ∧
      buildRouteTree disk workingDir (project.pageDir workingDir) = .ok (Scan.routesOf finds) ∧
      routes = Route.stripNested (Scan.routesOf finds) := by
  obtain ⟨tree, htree, rfl⟩ := exists_buildRouteTree h
  obtain ⟨spot, finds, hfind, hpath, hfound, rfl⟩ := exists_found_of_buildRouteTree hdisk htree
  exact ⟨spot, finds, ⟨hfind, hpath, hfound⟩, htree, rfl⟩

/-- The nodes on any way down are made from something. -/
theorem exists_madeFrom (hdisk : disk.isProper) (h : project.routes disk workingDir = .ok routes)
    {way : List Route} (hdown : Descent Route.children routes way) :
    ∃ dirs name isFolder, project.MadeFrom disk workingDir (dirs ++ [name]) isFolder way := by
  obtain ⟨spot, finds, hscans, -, rfl⟩ := exists_scans hdisk h
  obtain ⟨outer, node, rfl⟩ := (List.eq_nil_or_concat way).resolve_left hdown.ne_nil
  rw [List.concat_eq_append] at hdown ⊢
  obtain ⟨above, f, hway, hstrip, -⟩ := exists_find hdown
  exact ⟨above.map Scan.Find.name, f.name, f.isFolder, spot, finds, above, f, hscans, hway,
    by simp, rfl, hstrip⟩

namespace MadeFrom

variable {names dirs : List String} {name stem : String} {isFolder : Bool} {way : List Route}
  {node : Route}

/-- What a node has of the find that it is made from. -/
theorem exists_route (h : project.MadeFrom disk workingDir names isFolder (way ++ [node])) :
    ∃ spot finds above f, project.Scans disk workingDir spot finds ∧
      Descent Scan.Find.inside finds (above ++ [f]) ∧
      above.map Scan.Find.name ++ [f.name] = names ∧ f.isFolder = isFolder ∧
      node.component = f.route.component ∧ node.children = f.route.children.map Route.strip ∧
      node.path = if way = [] then f.route.path else Route.stripSlash f.route.path := by
  obtain ⟨spot, finds, above, f, hscans, hway, hnames, hkind, hstrip⟩ := h
  rw [List.map_append] at hnames hstrip
  obtain ⟨hpath, hchildren⟩ := Route.path_and_children_of_stripWay hstrip
  exact ⟨spot, finds, above, f, hscans, hway, hnames, hkind,
    Route.component_of_stripWay hstrip, hchildren, hpath⟩

/-- The path of a topmost node is empty or has exactly one slash in front. -/
theorem isSeparated_path (hdisk : disk.isProper)
    (h : project.MadeFrom disk workingDir names isFolder ([] ++ [node])) :
    Segment.IsSeparated node.path := by
  obtain ⟨spot, finds, above, f, hscans, hdown, -, -, -, -, hpath⟩ := h.exists_route
  rw [hpath, if_pos rfl]
  exact hscans.found.isSeparated_path hdisk hdown (by simp)

/-- Below the top no path has a slash in front. -/
theorem isRelative_path (hdisk : disk.isProper)
    (h : project.MadeFrom disk workingDir names isFolder (way ++ [node])) (hway : way ≠ []) :
    Route.IsRelative node.path := by
  obtain ⟨spot, finds, above, f, hscans, hdown, -, -, -, -, hpath⟩ := h.exists_route
  rw [hpath, if_neg hway]
  exact Route.isRelative_stripSlash (hscans.found.isSeparated_path hdisk hdown (by simp))

/-- The path of a node is empty only if the node is made from something named `index`. -/
theorem path_eq_empty_iff (hdisk : disk.isProper)
    (h : project.MadeFrom disk workingDir (dirs ++ [name]) isFolder (way ++ [node])) :
    node.path = "" ↔ Segment.normalize name = Segment.indexName := by
  obtain ⟨spot, finds, above, f, hscans, hdown, hnames, -, -, -, hpath⟩ := h.exists_route
  obtain ⟨-, hname⟩ := List.append_inj' hnames rfl
  have hrooted : Segment.IsRooted f.route.path :=
    (hscans.found.isSeparated_path hdisk hdown (by simp)).isRooted
  rw [hpath, ← List.singleton_inj.mp hname, ← Segment.routePath_eq_empty_iff, ← f.path_route]
  split
  · rfl
  · exact Route.stripSlash_eq_empty_iff hrooted

/-- A page that a node is made from is one of the project, and the node has no children. -/
theorem hasPage (hdisk : disk.isProper)
    (h : project.MadeFrom disk workingDir (dirs ++ [stem]) false (way ++ [node])) :
    project.HasPage disk workingDir dirs stem ∧ node.children = [] := by
  obtain ⟨spot, finds, above, f, hscans, hdown, hnames, hkind, -, hchildren, -⟩ := h.exists_route
  obtain ⟨rfl, hname⟩ := List.append_inj' hnames rfl
  rw [hchildren, Scan.Find.children_route_of_not_isFolder hkind]
  cases f with
  | folder => cases hkind
  | page stem' file metadata =>
    obtain rfl : stem' = stem := List.singleton_inj.mp hname
    obtain ⟨inside, hopens, hmem⟩ := Scan.exists_opens_of_descent hdown
    obtain ⟨hpage, -⟩ := (hscans.found.exists_page_iff hdisk).mp ⟨_, _, hopens, hmem⟩
    exact ⟨⟨spot.place, hscans.find_eq, hpage⟩, rfl⟩

/-- A folder that a node is made from is one of the project. -/
theorem hasFolder (hdisk : disk.isProper)
    (h : project.MadeFrom disk workingDir dirs true (way ++ [node])) :
    project.HasFolder disk workingDir dirs := by
  obtain ⟨spot, finds, above, f, hscans, hdown, rfl, hkind, -⟩ := h.exists_route
  exact ⟨spot.place, hscans.find_eq, hscans.found.hasFolder hdisk hdown hkind⟩

/-- **Components of folders.** A node that is made from a folder shows the last index page of the
folder. -/
theorem component_eq_some_iff (hdisk : disk.isProper)
    (h : project.MadeFrom disk workingDir dirs true (way ++ [node])) (file : DiskPath) :
    node.component = some file ↔ ∃ stem, project.IsLastIndexPage disk workingDir dirs stem ∧
      file = project.pagePath workingDir dirs stem := by
  obtain ⟨spot, finds, above, f, hscans, hdown, rfl, hkind, hcomponent, -⟩ := h.exists_route
  have hopens := Scan.opens_of_isFolder hdown hkind
  rw [hcomponent, Scan.Find.component_route_of_isFolder hkind,
    hscans.found.indexPageOf_eq_some_iff hdisk hopens, hscans.path_eq]
  refine exists_congr fun stem ↦ and_congr_left fun _ ↦ ⟨fun hlast ↦ ⟨_, hscans.find_eq, hlast⟩, ?_⟩
  rintro ⟨start, hstart, hlast⟩
  rwa [← Except.ok.inj (hscans.find_eq.symm.trans hstart)] at hlast

/-- A node that is made from a folder shows something if and only if the folder has an index page.
-/
theorem isSome_component_iff (hdisk : disk.isProper)
    (h : project.MadeFrom disk workingDir dirs true (way ++ [node])) :
    node.component.isSome ↔ ∃ stem, project.HasPage disk workingDir dirs stem ∧
      Segment.normalize stem = Segment.indexName := by
  obtain ⟨spot, finds, above, f, hscans, hdown, rfl, hkind, hcomponent, -⟩ := h.exists_route
  have hopens := Scan.opens_of_isFolder hdown hkind
  have hbare := hscans.found.indexPageOf_eq_none_iff_isBare hdisk hopens
  rw [hcomponent, Scan.Find.component_route_of_isFolder hkind, Option.isSome_iff_ne_none, ne_eq,
    hbare, Disk.IsBare]
  simp only [not_forall, not_not, exists_prop]
  constructor
  · rintro ⟨stem, hstem, hpage⟩
    exact ⟨stem, ⟨spot.place, hscans.find_eq, hpage⟩, hstem⟩
  · rintro ⟨stem, ⟨start, hstart, hpage⟩, hstem⟩
    obtain rfl := Except.ok.inj (hscans.find_eq.symm.trans hstart)
    exact ⟨stem, hstem, hpage⟩

end MadeFrom

/-! ### A page directory with several index pages -/

/-- A disk on which the folder `shop` has two index pages and a folder `index` without one. -/
def indexedDisk : Disk :=
  let empty : Entry := .file (.text "")
  let nested : Entry := .dir [(.text "[a][b].vue", empty)]
  let shop : Entry :=
    .dir [(.text "index.vue", empty), (.text "index", nested), (.text "Index.vue", empty)]
  let pages : Entry := .dir [(.text "index.vue", empty), (.text "shop", shop)]
  ⟨[(.text "w", .dir [(.text "src", .dir [(.text "pages", pages)])])]⟩

theorem isProper_indexedDisk : indexedDisk.isProper := by decide

/-- The folder `shop` shows the page whose file name comes last. The other index page and the folder
`index` have nodes with empty paths. -/
theorem exists_routes_indexed : ∃ routes, sample.routes indexedDisk ⟨"/w"⟩ = .ok routes ∧
    routes.map (fun r ↦ (r.path, r.component, r.children.map fun c ↦ (c.path, c.component))) =
      [("", some ⟨"/w/src/pages/index.vue"⟩, []),
        ("/shop", some ⟨"/w/src/pages/shop/index.vue"⟩,
          [("", some ⟨"/w/src/pages/shop/Index.vue"⟩), ("", none)])] := by
  have h : ((sample.routes indexedDisk ⟨"/w"⟩).toOption.map fun routes ↦
      routes.map fun r ↦ (r.path, r.component, r.children.map fun c ↦ (c.path, c.component))) =
        some [("", some ⟨"/w/src/pages/index.vue"⟩, []),
          ("/shop", some ⟨"/w/src/pages/shop/index.vue"⟩,
            [("", some ⟨"/w/src/pages/shop/Index.vue"⟩), ("", none)])] := by
    decide +kernel
  exact exists_ok_of_map_toOption h

/-- The node of the folder `shop` with the children that it keeps. -/
theorem exists_shop : ∃ routes shop upper nested, sample.routes indexedDisk ⟨"/w"⟩ = .ok routes ∧
    shop ∈ routes ∧ shop.path = "/shop" ∧
    shop.component = some ⟨"/w/src/pages/shop/index.vue"⟩ ∧ shop.children = [upper, nested] ∧
    upper.path = "" ∧ upper.component = some ⟨"/w/src/pages/shop/Index.vue"⟩ ∧
    nested.path = "" ∧ nested.component = none := by
  obtain ⟨routes, hroutes, hnodes⟩ := exists_routes_indexed
  obtain ⟨shop, hshop, heq⟩ := List.mem_map.mp
    (hnodes ▸ List.mem_cons_of_mem _ (List.mem_singleton_self _))
  simp only [Prod.mk.injEq, List.map_eq_cons_iff, List.map_eq_nil_iff] at heq
  obtain ⟨hpath, hcomponent, upper, _, hchildren, ⟨hupper, hfile⟩, nested, _, rfl, ⟨hnested, hnone⟩,
    rfl⟩ := heq
  exact ⟨routes, shop, upper, nested, hroutes, hshop, hpath, hcomponent, hchildren, hupper, hfile,
    hnested, hnone⟩

/-! ### Components -/

/-- **Components of routes.** On a proper disk every component of a node is a page of the project,
and the components of different nodes differ as paths. -/
theorem components_of_routes (hdisk : disk.isProper)
    (h : project.routes disk workingDir = .ok routes) :
    (∀ file ∈ Route.components routes, ∃ dirs stem, project.HasPage disk workingDir dirs stem ∧
      file = project.pagePath workingDir dirs stem) ∧
    (Route.components routes).Pairwise fun p q ↦ ¬p.equiv q := by
  obtain ⟨spot, finds, hscans, -, rfl⟩ := exists_scans hdisk h
  rw [Route.components_stripNested]
  refine ⟨fun file hfile ↦ ?_, hscans.found.pairwise_components hdisk⟩
  obtain ⟨chain, node, hdown, hnode⟩ := Route.mem_components_iff.mp hfile
  obtain ⟨way, f, hway, -, -, rfl⟩ := Scan.exists_find_of_descent hdown
  obtain ⟨stem, hshows⟩ := Scan.Find.exists_shows hnode
  obtain ⟨dirs, hpage, hbelow, -⟩ := hscans.found.hasPage_of_shows hdisk hway hshows
  exact ⟨dirs, stem, ⟨_, hscans.find_eq, hpage⟩, by rw [pagePath, ← hscans.path_eq, hbelow]⟩

/-- Both index pages of a folder are components, each of one node. -/
theorem components_of_shop : ∃ routes, sample.routes indexedDisk ⟨"/w"⟩ = .ok routes ∧
    ⟨"/w/src/pages/shop/index.vue"⟩ ∈ Route.components routes ∧
    ⟨"/w/src/pages/shop/Index.vue"⟩ ∈ Route.components routes ∧
    (∀ file ∈ Route.components routes, ∃ dirs stem, sample.HasPage indexedDisk ⟨"/w"⟩ dirs stem ∧
      file = sample.pagePath ⟨"/w"⟩ dirs stem) ∧
    (Route.components routes).Pairwise fun p q ↦ ¬p.equiv q := by
  obtain ⟨routes, shop, upper, nested, hroutes, hshop, -, hshown, hchildren, -, hupper, -⟩ :=
    exists_shop
  have hmem : upper ∈ shop.children := by simp [hchildren]
  exact ⟨routes, hroutes,
    Route.mem_components_iff.mpr ⟨[], shop, .last hshop, hshown⟩,
    Route.mem_components_iff.mpr ⟨[shop], upper, .step hshop (.last hmem), hupper⟩,
    components_of_routes isProper_indexedDisk hroutes⟩

/-! ### Separators -/

/-- **Separators of routes.** Let the routes of a project on a proper disk be found.

* The path of a topmost node is empty or has exactly one slash in front.
* The path of a node below has no slash in front, and it is empty if and only if the last of the
  names that the node is made from is `index` in its normal form.
* Stripping the separators again leaves the routes as they are, which is not so for every forest.
-/
theorem separators_of_routes (hdisk : disk.isProper)
    (h : project.routes disk workingDir = .ok routes) :
    (∀ top ∈ routes, Segment.IsSeparated top.path) ∧
    (∀ way node, way ≠ [] → Descent Route.children routes (way ++ [node]) →
      Route.IsRelative node.path ∧
      (∃ dirs name isFolder,
        project.MadeFrom disk workingDir (dirs ++ [name]) isFolder (way ++ [node])) ∧
      ∀ dirs name isFolder,
        project.MadeFrom disk workingDir (dirs ++ [name]) isFolder (way ++ [node]) →
          (node.path = "" ↔ Segment.normalize name = Segment.indexName)) ∧
    Route.stripNested routes = routes ∧
    ∃ forest, Route.stripNested (Route.stripNested forest) ≠ Route.stripNested forest := by
  have hrelative (way : List Route) (node : Route) (hway : way ≠ [])
      (hdown : Descent Route.children routes (way ++ [node])) : Route.IsRelative node.path := by
    obtain ⟨dirs, name, isFolder, hmade⟩ := exists_madeFrom hdisk h hdown
    exact hmade.isRelative_path hdisk hway
  refine ⟨fun top htop ↦ ?_, fun way node hway hdown ↦ ⟨hrelative way node hway hdown,
    exists_madeFrom hdisk h hdown, fun dirs name isFolder hmade ↦ hmade.path_eq_empty_iff hdisk⟩,
    Route.stripNested_eq_self hrelative, Route.exists_stripNested_ne⟩
  have hdown : Descent Route.children routes ([] ++ [top]) := .last htop
  obtain ⟨dirs, name, isFolder, hmade⟩ := exists_madeFrom hdisk h hdown
  exact hmade.isSeparated_path hdisk

/-- The folder `index` inside `shop` has a node below the top, whose path is empty. -/
theorem separators_of_shop : ∃ routes shop nested, sample.routes indexedDisk ⟨"/w"⟩ = .ok routes ∧
    shop ∈ routes ∧ nested ∈ shop.children ∧ nested.path = "" ∧ nested.component = none ∧
    Segment.IsSeparated shop.path ∧ Route.IsRelative nested.path ∧
    (∃ dirs name isFolder,
      sample.MadeFrom indexedDisk ⟨"/w"⟩ (dirs ++ [name]) isFolder [shop, nested] ∧
      Segment.normalize name = Segment.indexName) ∧
    Route.stripNested routes = routes := by
  obtain ⟨routes, shop, upper, nested, hroutes, hshop, -, -, hchildren, -, -, hpath, hnone⟩ :=
    exists_shop
  have hmem : nested ∈ shop.children := by simp [hchildren]
  obtain ⟨htops, hnested, hstripped, -⟩ := separators_of_routes isProper_indexedDisk hroutes
  obtain ⟨hrelative, ⟨dirs, name, isFolder, hmade⟩, hempty⟩ :=
    hnested [shop] nested (List.cons_ne_nil _ _) (.step hshop (.last hmem))
  exact ⟨routes, shop, nested, hroutes, hshop, hmem, hpath, hnone, htops shop hshop, hrelative,
    ⟨dirs, name, isFolder, hmade, (hempty dirs name isFolder hmade).mp hpath⟩, hstripped⟩

/-! ### Children and components -/

/-- **The shape of routes.** Let the routes of a project on a proper disk be found. They are those
of the page directory with the separators stripped.

* The nodes on any way down are made from something.
* A node that is made from a page has no children.
* A node that is made from a folder shows something if and only if the folder has an index page, and
  then it is the last index page of the folder.
* No node has a child with an empty path that shows what the node shows, neither before the
  separators have been stripped nor after it. -/
theorem shape_of_routes (hdisk : disk.isProper)
    (h : project.routes disk workingDir = .ok routes) :
    ∃ tree, buildRouteTree disk workingDir (project.pageDir workingDir) = .ok tree ∧
    routes = Route.stripNested tree ∧
    (∀ way, Descent Route.children routes way → ∃ dirs name isFolder,
      project.MadeFrom disk workingDir (dirs ++ [name]) isFolder way) ∧
    (∀ dirs stem way node,
      project.MadeFrom disk workingDir (dirs ++ [stem]) false (way ++ [node]) →
        project.HasPage disk workingDir dirs stem ∧ node.children = []) ∧
    (∀ dirs way node, project.MadeFrom disk workingDir dirs true (way ++ [node]) →
      project.HasFolder disk workingDir dirs ∧
      (node.component.isSome ↔ ∃ stem, project.HasPage disk workingDir dirs stem ∧
        Segment.normalize stem = Segment.indexName) ∧
      ∀ file, node.component = some file ↔
        ∃ stem, project.IsLastIndexPage disk workingDir dirs stem ∧
          file = project.pagePath workingDir dirs stem) ∧
    Route.IsPruned tree ∧ Route.IsPruned routes := by
  obtain ⟨spot, finds, hscans, htree, rfl⟩ := exists_scans hdisk h
  have hpruned := Route.isPruned_routesOf finds
  refine ⟨_, htree, rfl, fun way hdown ↦ exists_madeFrom hdisk h hdown,
    fun dirs stem way node hpage ↦ hpage.hasPage hdisk,
    fun dirs way node hfolder ↦ ⟨hfolder.hasFolder hdisk, hfolder.isSome_component_iff hdisk,
      hfolder.component_eq_some_iff hdisk⟩, hpruned, hpruned.stripNested ?_⟩
  exact fun way node hdown ↦ hscans.found.isRooted_path hdisk hdown (by simp)

/-- The node of the folder `shop` shows the last index page of a folder and keeps two children with
empty paths, which show something else. -/
theorem shape_of_shop : ∃ routes shop, sample.routes indexedDisk ⟨"/w"⟩ = .ok routes ∧
    shop ∈ routes ∧ shop.path = "/shop" ∧
    (∃ dirs stem, sample.MadeFrom indexedDisk ⟨"/w"⟩ dirs true ([] ++ [shop]) ∧
      sample.IsLastIndexPage indexedDisk ⟨"/w"⟩ dirs stem ∧
      ⟨"/w/src/pages/shop/index.vue"⟩ = sample.pagePath ⟨"/w"⟩ dirs stem) ∧
    shop.children.map Route.path = ["", ""] ∧
    ∀ child ∈ shop.children, ¬Route.sameComponent child.component shop.component := by
  obtain ⟨routes, shop, upper, nested, hroutes, hshop, hpath, hshown, hchildren, hupper, -,
    hnested, -⟩ := exists_shop
  have hdown : Descent Route.children routes ([] ++ [shop]) := .last hshop
  obtain ⟨tree, -, -, hmade, hpages, hfolders, -, hpruned⟩ :=
    shape_of_routes isProper_indexedDisk hroutes
  obtain ⟨dirs, name, isFolder, hshop'⟩ := hmade _ hdown
  have hkind : isFolder = true := by
    cases isFolder with
    | true => rfl
    | false => simpa [hchildren] using (hpages _ _ _ _ hshop').2
  subst hkind
  obtain ⟨-, -, hlast⟩ := hfolders _ _ _ hshop'
  obtain ⟨stem, hstem, hfile⟩ := (hlast _).mp hshown
  refine ⟨routes, shop, hroutes, hshop, hpath, ⟨_, stem, hshop', hstem, hfile⟩,
    by simp [hchildren, hupper, hnested], fun child hchild ↦ hpruned [] shop hdown child hchild ?_⟩
  simp only [hchildren, List.mem_cons, List.not_mem_nil, or_false] at hchild
  rcases hchild with rfl | rfl
  · exact hupper
  · exact hnested

end Project

end PageRoutes
