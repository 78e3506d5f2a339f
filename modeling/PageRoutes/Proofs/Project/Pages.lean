import PageRoutes.Project
import PageRoutes.Proofs.Scan.Pruning
/-!
# The pages of a project

The pages of a project are the page files that names lead to from its page directory. A node of the
routes that has a component shows one of them, and its URL is made of the names that lead to the
page, each normalised and written as a route path. Neither the stripping of separators nor the
pruning of index children has an influence on it.

A page is shown by a node unless the way to it crosses an index folder without an index page inside
a folder without one. Such an index folder counts as a repetition of the folder around it, and all
pages inside it are lost. At the top of the page directory, where there is no folder around it, it
is kept.

## Main definitions

* `Project.pagePath` : the path of a page as the scan writes it.
* `Project.HasPage` : names that lead to a page of a project.
* `Project.Cuts` : ways that cross an index folder that is dropped.

## Main results

* `Project.url_of_component` : the URL of a node that shows a page.
* `Project.exists_node_iff_not_cuts` : the pages that are shown by a node.
-/

namespace PageRoutes.Project

variable {project : Project} {disk : Disk} {workingDir : DiskPath} {routes : List Route}

/-- The path of the page file with a stem in the directory that names lead to from the page
directory. -/
def pagePath (project : Project) (workingDir : DiskPath) (dirs : List String) (stem : String) :
    DiskPath :=
  (project.pageDir workingDir).below (dirs ++ [Scan.pageFile stem])

/-- Whether names of directories and a stem lead from the page directory to a page file, links
followed. -/
def HasPage (project : Project) (disk : Disk) (workingDir : DiskPath) (dirs : List String)
    (stem : String) : Prop :=
  ∃ start, disk.find workingDir (project.pageDir workingDir) = .ok start ∧
    disk.HasPage start dirs stem

/-- Whether the way along names of directories below the page directory crosses an index folder
without an index page inside a folder that has no index page either. -/
def Cuts (project : Project) (disk : Disk) (workingDir : DiskPath) (dirs : List String) : Prop :=
  ∃ start, disk.find workingDir (project.pageDir workingDir) = .ok start ∧ disk.Cuts start dirs

instance (dirs : List String) (stem : String) :
    Decidable (project.HasPage disk workingDir dirs stem) :=
  match h : disk.find workingDir (project.pageDir workingDir) with
  | .error _ => isFalse (by simp [HasPage, h])
  | .ok start => decidable_of_iff (disk.HasPage start dirs stem) (by simp [HasPage, h])

/-! ### The scan of the page directory -/

theorem pageDir_text_ne_empty (project : Project) (workingDir : DiskPath) :
    (project.pageDir workingDir).text ≠ "" := by
  simp [pageDir, DiskPath.absolutize, DiskPath.ofNames]

/-- The routes of a page directory are those of what is found there. -/
theorem exists_found_of_buildRouteTree (hdisk : disk.isProper) {tree : List Route}
    (h : buildRouteTree disk workingDir (project.pageDir workingDir) = .ok tree) :
    ∃ spot finds, disk.find workingDir (project.pageDir workingDir) = .ok spot.place ∧
      spot.path = project.pageDir workingDir ∧ Scan.FoundAt disk spot finds ∧
      tree = Scan.routesOf finds := by
  rw [buildRouteTree] at h
  split at h
  · cases h
  · next trail left hfind =>
    split at h
    · cases hscan : Scan.directory disk left ⟨project.pageDir workingDir, trail, left⟩ with
      | error fault =>
        rw [hscan] at h
        cases h
      | ok listing =>
        rw [hscan] at h
        obtain ⟨finds, hfound, rfl⟩ := Scan.reads_directory left _ listing hscan
        exact ⟨⟨_, trail, left⟩, finds, hfind, rfl, ⟨Disk.isSound_of_find hdisk hfind,
          project.pageDir_text_ne_empty workingDir, hfound⟩, (Except.ok.inj h).symm⟩
    · cases h

/-- The routes of a project are those of its page directory, with the nested separators stripped.
-/
theorem exists_buildRouteTree (h : project.routes disk workingDir = .ok routes) :
    ∃ tree, buildRouteTree disk workingDir (project.pageDir workingDir) = .ok tree ∧
      routes = Route.stripNested tree := by
  rw [Project.routes] at h
  cases htree : buildRouteTree disk workingDir (project.pageDir workingDir) with
  | error fault =>
    rw [htree] at h
    cases h
  | ok tree =>
    rw [htree] at h
    exact ⟨tree, rfl, (Except.ok.inj h).symm⟩

/-- The routes of a project are those of what is found in its page directory, with the nested
separators stripped. -/
theorem exists_found (hdisk : disk.isProper) (h : project.routes disk workingDir = .ok routes) :
    ∃ spot finds, disk.find workingDir (project.pageDir workingDir) = .ok spot.place ∧
      spot.path = project.pageDir workingDir ∧ Scan.FoundAt disk spot finds ∧
      routes = Route.stripNested (Scan.routesOf finds) := by
  obtain ⟨tree, htree, rfl⟩ := exists_buildRouteTree h
  obtain ⟨spot, finds, hfind, hpath, hfound, rfl⟩ := exists_found_of_buildRouteTree hdisk htree
  exact ⟨spot, finds, hfind, hpath, hfound, rfl⟩

/-! ### A page directory -/

/-- A result that something is computed from is there. -/
theorem exists_ok_of_map_toOption {α β : Type} {result : Except Fault α} {f : α → β} {b : β}
    (h : result.toOption.map f = some b) : ∃ a, result = .ok a ∧ f a = b := by
  cases result with
  | error fault => cases h
  | ok a => exact ⟨a, rfl, Option.some.inj h⟩

/-- A disk on which the directory `/w` has two folders of pages. The folder `blog` has an index page
and a page for each article, the folder `admin` has only an index folder with a page inside it. -/
def sampleDisk : Disk :=
  let empty : Entry := .file (.text "")
  let admin : Entry := .dir [(.text "index", .dir [(.text "settings.vue", empty)])]
  let blog : Entry := .dir [(.text "[id].vue", empty), (.text "index.vue", empty)]
  let pages : Entry := .dir [(.text "admin", admin), (.text "blog", blog)]
  ⟨[(.text "w", .dir [(.text "src", .dir [(.text "pages", pages)])])]⟩

/-- The project in the directory `/w`, with the options that hold if none are given. -/
def sample : Project := ⟨⟨"/w"⟩, {}⟩

theorem isProper_sampleDisk : sampleDisk.isProper := by decide

theorem exists_routes_sample : ∃ routes, sample.routes sampleDisk ⟨"/w"⟩ = .ok routes ∧
    Route.components routes =
      [⟨"/w/src/pages/blog/index.vue"⟩, ⟨"/w/src/pages/blog/[id].vue"⟩] := by
  have h : (sample.routes sampleDisk ⟨"/w"⟩).toOption.map Route.components =
      some [⟨"/w/src/pages/blog/index.vue"⟩, ⟨"/w/src/pages/blog/[id].vue"⟩] := by
    decide +kernel
  exact exists_ok_of_map_toOption h

/-! ### Nodes and pages -/

/-- **URLs of pages.** On a proper disk the component of a node is a page of the project. The URL of
the node is made of the route paths of the names on the way to the page, and no other names lead
there. -/
theorem url_of_component (hdisk : disk.isProper) (h : project.routes disk workingDir = .ok routes)
    {way : List Route} {node : Route} (hdown : Descent Route.children routes (way ++ [node]))
    {file : DiskPath} (hfile : node.component = some file) :
    ∃ dirs stem, project.HasPage disk workingDir dirs stem ∧
      file = project.pagePath workingDir dirs stem ∧
      Route.url (way ++ [node]) =
        String.join ((dirs ++ [stem]).map fun name ↦ Segment.routePath (Segment.normalize name)) ∧
      ∀ dirs' stem', project.HasPage disk workingDir dirs' stem' →
        file = project.pagePath workingDir dirs' stem' → dirs' = dirs ∧ stem' = stem := by
  obtain ⟨spot, finds, hfind, hpath, hfound, rfl⟩ := exists_found hdisk h
  obtain ⟨origin, horigin, heq⟩ := Route.descent_stripNested_iff.mp hdown
  obtain ⟨above, r, rfl⟩ := (List.eq_nil_or_concat origin).resolve_left horigin.ne_nil
  rw [List.concat_eq_append] at horigin heq
  have hcomponent : r.component = some file := (Route.component_of_stripWay heq).symm.trans hfile
  obtain ⟨folders, stem, metadata, hway, -, hurl⟩ :=
    Scan.exists_page_of_component horigin hcomponent
  obtain ⟨inside, hopens, hmem⟩ := Scan.exists_opens_of_descent hway
  obtain ⟨hpage, rfl⟩ := (hfound.exists_page_iff hdisk).mp ⟨inside, metadata, hopens, hmem⟩
  refine ⟨folders.map Scan.Find.name, stem, ⟨spot.place, hfind, hpage⟩, by rw [pagePath, hpath],
    ?_, ?_⟩
  · have hrooted (r' : Route) (hr' : r' ∈ above ++ [r]) : Segment.IsRooted r'.path :=
      hfound.isRooted_path hdisk horigin hr'
    rw [heq, Route.url_stripWay hrooted, hurl]
    rfl
  · rintro dirs' stem' ⟨start, hstart, hpage'⟩ hfile'
    obtain rfl := Except.ok.inj (hfind.symm.trans hstart)
    rw [pagePath, ← hpath] at hfile'
    obtain ⟨hdirs, hstem⟩ := hfound.names_eq_of_hasPage hdisk hpage hpage' (congrArg _ hfile')
    exact ⟨hdirs.symm, hstem.symm⟩

/-- Some node shows the page of an article, and its URL is made of the names that lead there. -/
theorem url_of_component_article :
    ∃ routes way node, sample.routes sampleDisk ⟨"/w"⟩ = .ok routes ∧
      Descent Route.children routes (way ++ [node]) ∧
      node.component = some ⟨"/w/src/pages/blog/[id].vue"⟩ ∧
      ∃ dirs stem, sample.HasPage sampleDisk ⟨"/w"⟩ dirs stem ∧
        ⟨"/w/src/pages/blog/[id].vue"⟩ = sample.pagePath ⟨"/w"⟩ dirs stem ∧
        Route.url (way ++ [node]) =
          String.join ((dirs ++ [stem]).map fun name ↦ Segment.routePath (Segment.normalize name)) ∧
        ∀ dirs' stem', sample.HasPage sampleDisk ⟨"/w"⟩ dirs' stem' →
          ⟨"/w/src/pages/blog/[id].vue"⟩ = sample.pagePath ⟨"/w"⟩ dirs' stem' →
          dirs' = dirs ∧ stem' = stem := by
  obtain ⟨routes, hroutes, hcomponents⟩ := exists_routes_sample
  have hmem : ⟨"/w/src/pages/blog/[id].vue"⟩ ∈ Route.components routes := by simp [hcomponents]
  obtain ⟨way, node, hdown, hnode⟩ := Route.mem_components_iff.mp hmem
  exact ⟨routes, way, node, hroutes, hdown, hnode,
    url_of_component isProper_sampleDisk hroutes hdown hnode⟩

/-- **Pages of nodes.** On a proper disk a page of the project is the component of a node if and
only if the way to it crosses no index folder without an index page inside a folder that has no
index page either. -/
theorem exists_node_iff_not_cuts (hdisk : disk.isProper)
    (h : project.routes disk workingDir = .ok routes) {dirs : List String} {stem : String}
    (hpage : project.HasPage disk workingDir dirs stem) :
    (∃ way node, Descent Route.children routes (way ++ [node]) ∧
        node.component = some (project.pagePath workingDir dirs stem)) ↔
      ¬project.Cuts disk workingDir dirs := by
  obtain ⟨spot, finds, hfind, hpath, hfound, rfl⟩ := exists_found hdisk h
  obtain ⟨start, hstart, hpage⟩ := hpage
  obtain rfl := Except.ok.inj (hfind.symm.trans hstart)
  rw [Route.exists_stripNested_iff, pagePath, ← hpath, hfound.exists_node_iff hdisk hpage]
  refine not_congr ⟨fun hcuts ↦ ⟨_, hfind, hcuts⟩, ?_⟩
  rintro ⟨start, hstart, hcuts⟩
  rwa [← Except.ok.inj (hfind.symm.trans hstart)] at hcuts

/-- An article is a page that some node shows, because its blog has an index page. -/
theorem exists_node_article :
    sample.HasPage sampleDisk ⟨"/w"⟩ ["blog"] "[id]" ∧ ∃ routes,
      sample.routes sampleDisk ⟨"/w"⟩ = .ok routes ∧
      ((∃ way node, Descent Route.children routes (way ++ [node]) ∧
          node.component = some (sample.pagePath ⟨"/w"⟩ ["blog"] "[id]")) ↔
        ¬sample.Cuts sampleDisk ⟨"/w"⟩ ["blog"]) := by
  have hpage : sample.HasPage sampleDisk ⟨"/w"⟩ ["blog"] "[id]" := by decide +kernel
  obtain ⟨routes, hroutes, -⟩ := exists_routes_sample
  exact ⟨hpage, routes, hroutes, exists_node_iff_not_cuts isProper_sampleDisk hroutes hpage⟩

/-- A page that no node shows: it is inside the index folder of a folder without an index page. -/
theorem exists_page_without_node :
    sample.HasPage sampleDisk ⟨"/w"⟩ ["admin", "index"] "settings" ∧ ∃ routes,
      sample.routes sampleDisk ⟨"/w"⟩ = .ok routes ∧
      ¬∃ way node, Descent Route.children routes (way ++ [node]) ∧
        node.component = some (sample.pagePath ⟨"/w"⟩ ["admin", "index"] "settings") := by
  obtain ⟨routes, hroutes, hcomponents⟩ := exists_routes_sample
  refine ⟨by decide +kernel, routes, hroutes, ?_⟩
  rw [← Route.mem_components_iff, hcomponents]
  decide +kernel

end PageRoutes.Project
