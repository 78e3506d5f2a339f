import PageRoutes.Proofs.Project.Pages
import PageRoutes.Proofs.Scan.Metadata
/-!
# The metadata of a project's routes

Metadata for a page or folder stands in a file beside it. Each node of the routes is that of a page
or of a folder and has the metadata beside it, whatever the nodes around it are.

An index page has no node of its own where its folder shows it, for this node has been pruned. Then
the metadata beside the page is in no node: the folder's node has the metadata beside the folder,
or none. An index page at the top of the page directory keeps its metadata, and so does one that is
not the last index page of its folder.

## Main definitions

* `Project.metadata?` : the metadata beside what a name stands for.
* `Project.Follows` : whether the nodes on a way down are those of names.

## Main results

* `Project.metadata_of_nodes` : the metadata of the nodes of pages and folders.
-/

namespace PageRoutes.Project

variable {project : Project} {disk : Disk} {workingDir : DiskPath} {routes : List Route}

/-- The metadata beside what a name stands for in the directory that names lead to from the page
directory. -/
def metadata? (project : Project) (disk : Disk) (workingDir : DiskPath) (dirs : List String)
    (name : String) : Option Json := do
  let start ← (disk.find workingDir (project.pageDir workingDir)).toOption
  disk.metadata? start dirs name

/-- Whether names of directories lead from the page directory to a directory, links followed. -/
def HasFolder (project : Project) (disk : Disk) (workingDir : DiskPath) (dirs : List String) :
    Prop :=
  ∃ start, disk.find workingDir (project.pageDir workingDir) = .ok start ∧ disk.HasFolder start dirs

instance (dirs : List String) : Decidable (project.HasFolder disk workingDir dirs) :=
  match h : disk.find workingDir (project.pageDir workingDir) with
  | .error _ => isFalse (by simp [HasFolder, h])
  | .ok start => decidable_of_iff (disk.HasFolder start dirs) (by simp [HasFolder, h])

/-- The path of the node of a name: it has lost its slash below the top. -/
def nodePath (dirs : List String) (name : String) : String :=
  let path := Segment.routePath (Segment.normalize name)
  if dirs.isEmpty then path else Route.stripSlash path

/-- Whether the nodes on a way down are those of names one after the other: every node has the path
of its name and the metadata beside it. -/
structure Follows (project : Project) (disk : Disk) (workingDir : DiskPath) (names : List String)
    (way : List Route) : Prop where
  length_eq : way.length = names.length
  exists_node : ∀ dirs name, dirs ++ [name] <+: names → ∃ node, way[dirs.length]? = some node ∧
    node.path = nodePath dirs name ∧ node.metadata = project.metadata? disk workingDir dirs name

/-! ### Ways that follow names -/

/-- **Nodes of finds.** After stripping, the nodes of what is found on a way down follow its names.
-/
theorem follows_names {spot : Scan.Spot} {finds way : List Scan.Find} (hdisk : disk.isProper)
    (hfind : disk.find workingDir (project.pageDir workingDir) = .ok spot.place)
    (h : Scan.FoundAt disk spot finds) (hway : Descent Scan.Find.inside finds way) :
    project.Follows disk workingDir (way.map Scan.Find.name)
      (Route.stripWay (way.map Scan.Find.route)) := by
  refine ⟨by simp, fun dirs name hnames ↦ ?_⟩
  -- A name with the names before it cuts the way down at the find that has it.
  obtain ⟨more, hnames⟩ := hnames
  rw [List.append_assoc] at hnames
  obtain ⟨above, below, rfl, rfl, hbelow⟩ := List.map_eq_append_iff.mp hnames.symm
  obtain ⟨f, below, rfl, rfl, -⟩ := List.map_eq_cons_iff.mp hbelow
  have hf : ((above ++ f :: below).map Scan.Find.route)[above.length]? = some f.route := by simp
  obtain ⟨node, hnode, hmetadata, hpath⟩ := Route.exists_getElem?_stripWay hf
  refine ⟨node, by rwa [List.length_map], ?_, ?_⟩
  · rw [hpath, nodePath, Scan.Find.path_route]
    cases above <;> rfl
  · rw [hmetadata, Scan.Find.metadata_route, h.metadata_eq hdisk hway.stop, metadata?, hfind]
    rfl

/-- The node of the last name has the metadata beside this name. -/
theorem Follows.metadata_eq {dirs : List String} {name : String} {way : List Route} {node : Route}
    (h : project.Follows disk workingDir (dirs ++ [name]) (way ++ [node])) :
    node.metadata = project.metadata? disk workingDir dirs name := by
  obtain ⟨node', hnode', -, hmetadata⟩ := h.exists_node dirs name List.prefix_rfl
  have hlength : way.length = dirs.length := by simpa using h.length_eq
  rw [← hlength, List.getElem?_concat_length] at hnode'
  rwa [Option.some.inj hnode']

/-- A way down to a node is that to a find whose node it is. -/
theorem exists_find {finds : List Scan.Find} {way : List Route} {node : Route}
    (h : Descent Route.children (Route.stripNested (Scan.routesOf finds)) (way ++ [node])) :
    ∃ above f, Descent Scan.Find.inside finds (above ++ [f]) ∧
      way ++ [node] = Route.stripWay ((above ++ [f]).map Scan.Find.route) ∧
      node.component = f.route.component := by
  obtain ⟨origin, horigin, heq⟩ := Route.descent_stripNested_iff.mp h
  obtain ⟨chain, r, rfl⟩ := (List.eq_nil_or_concat origin).resolve_left horigin.ne_nil
  rw [List.concat_eq_append] at horigin heq
  obtain ⟨above, f, hway, -, rfl, rfl⟩ := Scan.exists_find_of_descent horigin
  exact ⟨above, f, hway, by simpa using heq, Route.component_of_stripWay heq⟩

/-! ### The nodes of pages and folders -/

/-- A page whose way is not cut is shown by a node. -/
theorem exists_node_of_not_cuts (hdisk : disk.isProper)
    (h : project.routes disk workingDir = .ok routes) {dirs : List String} {stem : String}
    (hpage : project.HasPage disk workingDir dirs stem)
    (hcuts : ¬project.Cuts disk workingDir dirs) :
    ∃ way node, Descent Route.children routes (way ++ [node]) ∧
      node.component = some (project.pagePath workingDir dirs stem) := by
  obtain ⟨spot, finds, hfind, hpath, hfound, rfl⟩ := exists_found hdisk h
  obtain ⟨start, hstart, hpage⟩ := hpage
  obtain rfl := Except.ok.inj (hfind.symm.trans hstart)
  rw [Route.exists_stripNested_iff, pagePath, ← hpath]
  exact (hfound.exists_node_iff hdisk hpage).mpr fun hcut ↦ hcuts ⟨_, hfind, hcut⟩

/-- The nodes on the way to one that shows a page are those of the page's names, or the page is an
index page and they are those of its folder's names. -/
theorem follows_page (hdisk : disk.isProper) (h : project.routes disk workingDir = .ok routes)
    {dirs : List String} {stem : String} (hpage : project.HasPage disk workingDir dirs stem)
    {way : List Route} {node : Route} (hdown : Descent Route.children routes (way ++ [node]))
    (hnode : node.component = some (project.pagePath workingDir dirs stem)) :
    project.Follows disk workingDir (dirs ++ [stem]) (way ++ [node]) ∨
      Segment.normalize stem = Segment.indexName ∧
        project.Follows disk workingDir dirs (way ++ [node]) := by
  obtain ⟨spot, finds, hfind, hpath, hfound, rfl⟩ := exists_found hdisk h
  obtain ⟨start, hstart, hpage⟩ := hpage
  obtain rfl := Except.ok.inj (hfind.symm.trans hstart)
  obtain ⟨above, f, hway, hstrip, hcomponent⟩ := exists_find hdown
  have hfollows := follows_names hdisk hfind hfound hway
  rw [← hstrip] at hfollows
  rw [hcomponent] at hnode
  obtain ⟨stem', hshows⟩ := Scan.Find.exists_shows hnode
  obtain ⟨dirs', hpage', hfile, hnames⟩ := hfound.hasPage_of_shows hdisk hway hshows
  rw [pagePath, ← hpath] at hfile
  obtain ⟨rfl, rfl⟩ := hfound.names_eq_of_hasPage hdisk hpage hpage' (congrArg _ hfile)
  rcases hnames with ⟨-, hnames⟩ | ⟨hstem, hnames⟩
  · exact .inl (hnames ▸ hfollows)
  · exact .inr ⟨hstem, hnames ▸ hfollows⟩

/-- A folder that is not cut off has a node, which shows nothing or an index page in the folder. -/
theorem exists_follows_folder (hdisk : disk.isProper)
    (h : project.routes disk workingDir = .ok routes) {dirs : List String} {name : String}
    (hfolder : project.HasFolder disk workingDir (dirs ++ [name]))
    (hcuts : ¬project.Cuts disk workingDir (dirs ++ [name])) :
    ∃ way node, Descent Route.children routes (way ++ [node]) ∧
      project.Follows disk workingDir (dirs ++ [name]) (way ++ [node]) ∧
      ∀ file, node.component = some file → ∃ stem, Segment.normalize stem = Segment.indexName ∧
        project.HasPage disk workingDir (dirs ++ [name]) stem ∧
        file = project.pagePath workingDir (dirs ++ [name]) stem := by
  obtain ⟨spot, finds, hfind, hpath, hfound, rfl⟩ := exists_found hdisk h
  obtain ⟨start, hstart, hfolder⟩ := hfolder
  obtain rfl := Except.ok.inj (hfind.symm.trans hstart)
  obtain ⟨folders, hway, hnames, hfolders, hiff⟩ :=
    hfound.exists_folders hdisk (by simp) hfolder
  have hchain := hiff.mpr fun hcut ↦ hcuts ⟨_, hfind, hcut⟩
  obtain ⟨above, f, rfl⟩ := (List.eq_nil_or_concat folders).resolve_left hway.ne_nil
  rw [List.concat_eq_append] at hway hnames hfolders hchain
  have hfollows := follows_names hdisk hfind hfound hway
  have hdown := Route.descent_stripNested_iff.mpr
    ⟨_, Scan.descent_routesOf_iff.mpr ⟨_, hway, hchain, rfl⟩, rfl⟩
  obtain ⟨way, node, heq⟩ := (List.eq_nil_or_concat _).resolve_left hdown.ne_nil
  rw [List.concat_eq_append] at heq
  rw [heq] at hdown hfollows
  rw [hnames] at hfollows
  refine ⟨way, node, hdown, hfollows, fun file hfile ↦ ?_⟩
  rw [List.map_append, List.map_singleton] at heq
  rw [Route.component_of_stripWay heq.symm] at hfile
  obtain ⟨stem, hshows⟩ := Scan.Find.exists_shows hfile
  obtain ⟨_, hpage, hbelow, hshown⟩ := hfound.hasPage_of_shows hdisk hway hshows
  obtain ⟨hstem, rfl⟩ := hshown.resolve_left fun hleaf ↦ by simp [hfolders f (by simp)] at hleaf
  rw [hnames] at hpage hbelow
  exact ⟨stem, hstem, ⟨_, hfind, hpage⟩, by rw [pagePath, ← hpath, hbelow]⟩

/-- The nodes on a way down are those of names that lead to a page or to a folder. -/
theorem exists_names_of_descent (hdisk : disk.isProper)
    (h : project.routes disk workingDir = .ok routes) {way : List Route}
    (hdown : Descent Route.children routes way) :
    ∃ dirs name, (project.HasPage disk workingDir dirs name ∨
        project.HasFolder disk workingDir (dirs ++ [name])) ∧
      project.Follows disk workingDir (dirs ++ [name]) way := by
  obtain ⟨spot, finds, hfind, hpath, hfound, rfl⟩ := exists_found hdisk h
  obtain ⟨outer, node, rfl⟩ := (List.eq_nil_or_concat way).resolve_left hdown.ne_nil
  rw [List.concat_eq_append] at hdown ⊢
  obtain ⟨above, f, hway, hstrip, -⟩ := exists_find hdown
  have hfollows := follows_names hdisk hfind hfound hway
  rw [← hstrip, List.map_append] at hfollows
  refine ⟨_, f.name, ?_, hfollows⟩
  cases f with
  | page stem file metadata =>
    obtain ⟨inside, hopens, hmem⟩ := Scan.exists_opens_of_descent hway
    exact .inl ⟨_, hfind, ((hfound.exists_page_iff hdisk).mp ⟨_, _, hopens, hmem⟩).1⟩
  | folder name inside metadata =>
    exact .inr ⟨_, hfind, hfound.hasFolder hdisk hway rfl⟩

/-- At the top of the page directory nothing is cut. -/
theorem not_cuts_top (name : String) : ¬project.Cuts disk workingDir [name] := by
  rintro ⟨start, -, above, _, below, habove, hdirs, -⟩
  obtain ⟨first, above, rfl⟩ := List.exists_cons_of_ne_nil habove
  simp at hdirs

/-! ### A page directory with metadata -/

/-- A disk on which metadata stands beside the page `about`, beside the folder `users` and, inside
the folder `blog`, beside its index page. -/
def describedDisk : Disk :=
  let empty : Entry := .file (.text "")
  let title (name : String) : Entry := .file (.text ("\x7b\"title\": \"" ++ name ++ "\"\x7d"))
  let blog : Entry := .dir [(.text "index.meta.json", title "Blog"), (.text "index.vue", empty)]
  let users : Entry := .dir [(.text "[id].vue", empty)]
  let pages : Entry := .dir [(.text "about.meta.json", title "About"), (.text "about.vue", empty),
    (.text "blog", blog), (.text "users", users), (.text "users.meta.json", title "Users")]
  ⟨[(.text "w", .dir [(.text "src", .dir [(.text "pages", pages)])])]⟩

theorem isProper_describedDisk : describedDisk.isProper := by decide

theorem exists_routes_described : ∃ routes, sample.routes describedDisk ⟨"/w"⟩ = .ok routes ∧
    routes.map (fun r ↦ (r.component, r.metadata.isSome)) =
      [(some ⟨"/w/src/pages/about.vue"⟩, true), (some ⟨"/w/src/pages/blog/index.vue"⟩, false),
        (none, true)] := by
  have h : ((sample.routes describedDisk ⟨"/w"⟩).toOption.map fun routes ↦
      routes.map fun r ↦ (r.component, r.metadata.isSome)) =
        some [(some ⟨"/w/src/pages/about.vue"⟩, true),
          (some ⟨"/w/src/pages/blog/index.vue"⟩, false), (none, true)] := by
    decide +kernel
  exact exists_ok_of_map_toOption h

/-! ### The metadata of nodes -/

/-- **Metadata of nodes.** Let the routes of a project on a proper disk be found.

* A page is shown by a node, unless the way to the page is cut. The nodes on the way to one that
  shows a page are those of the names that lead to the page, or the page is an index page and they
  are those of the names that lead to its folder.
* A folder has a node, which shows nothing or an index page in the folder, unless the way to the
  folder is cut.
* The nodes on any way down are those of names that lead to a page or to a folder.

The nodes of names have the metadata beside the names. -/
theorem metadata_of_nodes (hdisk : disk.isProper)
    (h : project.routes disk workingDir = .ok routes) :
    (∀ dirs stem, project.HasPage disk workingDir dirs stem →
      (¬project.Cuts disk workingDir dirs →
        ∃ way node, Descent Route.children routes (way ++ [node]) ∧
          node.component = some (project.pagePath workingDir dirs stem)) ∧
      ∀ way node, Descent Route.children routes (way ++ [node]) →
        node.component = some (project.pagePath workingDir dirs stem) →
          project.Follows disk workingDir (dirs ++ [stem]) (way ++ [node]) ∨
          Segment.normalize stem = Segment.indexName ∧
            project.Follows disk workingDir dirs (way ++ [node])) ∧
    (∀ dirs name, project.HasFolder disk workingDir (dirs ++ [name]) →
      ¬project.Cuts disk workingDir (dirs ++ [name]) →
        ∃ way node, Descent Route.children routes (way ++ [node]) ∧
          project.Follows disk workingDir (dirs ++ [name]) (way ++ [node]) ∧
          ∀ file, node.component = some file → ∃ stem, Segment.normalize stem = Segment.indexName ∧
            project.HasPage disk workingDir (dirs ++ [name]) stem ∧
            file = project.pagePath workingDir (dirs ++ [name]) stem) ∧
    ∀ way, Descent Route.children routes way → ∃ dirs name,
      (project.HasPage disk workingDir dirs name ∨
        project.HasFolder disk workingDir (dirs ++ [name])) ∧
      project.Follows disk workingDir (dirs ++ [name]) way :=
  ⟨fun _ _ hpage ↦ ⟨exists_node_of_not_cuts hdisk h hpage,
      fun _ _ hdown hnode ↦ follows_page hdisk h hpage hdown hnode⟩,
    fun _ _ hfolder hcuts ↦ exists_follows_folder hdisk h hfolder hcuts,
    fun _ hdown ↦ exists_names_of_descent hdisk h hdown⟩

/-- The node of a page and that of a folder have the metadata beside them, which is there. -/
theorem metadata_of_about_and_users : ∃ routes, sample.routes describedDisk ⟨"/w"⟩ = .ok routes ∧
    (∃ way node, Descent Route.children routes (way ++ [node]) ∧
      node.component = some (sample.pagePath ⟨"/w"⟩ [] "about") ∧
      node.metadata = sample.metadata? describedDisk ⟨"/w"⟩ [] "about") ∧
    (∃ way node, Descent Route.children routes (way ++ [node]) ∧
      node.metadata = sample.metadata? describedDisk ⟨"/w"⟩ [] "users") ∧
    (sample.metadata? describedDisk ⟨"/w"⟩ [] "about").isSome ∧
    (sample.metadata? describedDisk ⟨"/w"⟩ [] "users").isSome := by
  obtain ⟨routes, hroutes, hnodes⟩ := exists_routes_described
  obtain ⟨hpages, hfolders, -⟩ := metadata_of_nodes isProper_describedDisk hroutes
  refine ⟨routes, hroutes, ?_, ?_, by decide +kernel, by decide +kernel⟩
  · obtain ⟨node, hnode, hshown⟩ : ∃ node ∈ routes, (node.component, node.metadata.isSome) =
        (some ⟨"/w/src/pages/about.vue"⟩, true) :=
      List.mem_map.mp (by simp [hnodes])
    have hcomponent : node.component = some (sample.pagePath ⟨"/w"⟩ [] "about") :=
      (Prod.mk.inj hshown).1.trans (by decide +kernel)
    have hdown : Descent Route.children routes ([] ++ [node]) := .last hnode
    obtain ⟨-, hnodes⟩ := hpages [] "about" (by decide +kernel)
    rcases hnodes [] node hdown hcomponent with h | ⟨hindex, -⟩
    · exact ⟨[], node, hdown, hcomponent, h.metadata_eq⟩
    · exact absurd hindex (by decide +kernel)
  · have hfolder : sample.HasFolder describedDisk ⟨"/w"⟩ ["users"] := by decide +kernel
    obtain ⟨way, node, hdown, hfollows, -⟩ := hfolders [] "users" hfolder (not_cuts_top "users")
    exact ⟨way, node, hdown, hfollows.metadata_eq⟩

/-- An index page without its metadata: the page is shown by its folder, and there is no metadata
beside the folder. -/
theorem exists_page_without_metadata :
    sample.HasPage describedDisk ⟨"/w"⟩ ["blog"] "index" ∧
    (sample.metadata? describedDisk ⟨"/w"⟩ ["blog"] "index").isSome ∧
    sample.metadata? describedDisk ⟨"/w"⟩ [] "blog" = none ∧
    ∃ routes way node, sample.routes describedDisk ⟨"/w"⟩ = .ok routes ∧
      Descent Route.children routes (way ++ [node]) ∧
      node.component = some (sample.pagePath ⟨"/w"⟩ ["blog"] "index") ∧ node.metadata = none := by
  have hbeside : sample.metadata? describedDisk ⟨"/w"⟩ [] "blog" = none :=
    Option.isNone_iff_eq_none.mp (by decide +kernel)
  refine ⟨by decide +kernel, by decide +kernel, hbeside, ?_⟩
  obtain ⟨routes, hroutes, hnodes⟩ := exists_routes_described
  obtain ⟨node, hnode, hshown⟩ : ∃ node ∈ routes, (node.component, node.metadata.isSome) =
      (some ⟨"/w/src/pages/blog/index.vue"⟩, false) :=
    List.mem_map.mp (by simp [hnodes])
  obtain ⟨hcomponent, hmetadata⟩ := Prod.mk.inj hshown
  refine ⟨routes, [], node, hroutes, .last hnode, hcomponent.trans (by decide +kernel), ?_⟩
  simpa using hmetadata

end PageRoutes.Project
