import PageRoutes.Proofs.Project.Pages
import PageRoutes.Proofs.Scan.Relevance
/-!
# What the routes of a project depend on

The routes of a project, the text of its routes module and the fault that there are none depend on
the page directory alone, and not on everything in it. The order in which a file system lists its
directories has no influence on them. Without symbolic links, nothing has an influence but the
directories, the names of the page files and the metadata beside these.

## Main results

* `Project.routes_of_reorders` : listing orders have no influence.
* `Project.routes_of_alike` : files that no route is made of have no influence.
-/

namespace PageRoutes.Project

variable {project : Project} {disk other : Disk} {workingDir : DiskPath}

/-- What a project is built into is made of the routes of its page directory. -/
theorem eq_of_buildRouteTree
    (h : buildRouteTree disk workingDir (project.pageDir workingDir) =
      buildRouteTree other workingDir (project.pageDir workingDir)) :
    project.routes disk workingDir = project.routes other workingDir ∧
      project.routesModule disk workingDir = project.routesModule other workingDir := by
  have hroutes : project.routes disk workingDir = project.routes other workingDir := by
    rw [routes, routes, h]
  exact ⟨hroutes, by rw [routesModule, routesModule, hroutes]⟩

/-- **Listing orders.** Projects on disks that differ only in the orders in which directories list
their entries, at any level, have the same routes, in the same order, or fail with the same fault,
and they have the same routes module. -/
theorem routes_of_reorders (project : Project) (hdisk : disk.isProper) (h : disk.Reorders other)
    (workingDir : DiskPath) :
    project.routes disk workingDir = project.routes other workingDir ∧
      project.routesModule disk workingDir = project.routesModule other workingDir :=
  eq_of_buildRouteTree (buildRouteTree_eq_of_reorders hdisk h workingDir _)

/-- The sample disk with the entries of two directories in another order. -/
def relistedDisk : Disk :=
  let empty : Entry := .file (.text "")
  let admin : Entry := .dir [(.text "index", .dir [(.text "settings.vue", empty)])]
  let blog : Entry := .dir [(.text "index.vue", empty), (.text "[id].vue", empty)]
  let pages : Entry := .dir [(.text "blog", blog), (.text "admin", admin)]
  ⟨[(.text "w", .dir [(.text "src", .dir [(.text "pages", pages)])])]⟩

theorem reorders_relistedDisk : sampleDisk.Reorders relistedDisk := by
  refine .dir (.refl _) (.cons (.dir (.refl _) (.cons (.dir (.refl _) (.cons ?_ .nil)) .nil)) .nil)
  exact .dir (.swap ..) (.cons (.dir (.swap ..) (.cons (.refl _) (.cons (.refl _) .nil)))
    (.cons (.refl _) .nil))

/-- The order in which the folders and the pages of the blog are listed has no influence. -/
theorem routes_of_relistedDisk : sampleDisk.isProper ∧ sampleDisk.Reorders relistedDisk ∧
    sample.routes sampleDisk ⟨"/w"⟩ = sample.routes relistedDisk ⟨"/w"⟩ ∧
    sample.routesModule sampleDisk ⟨"/w"⟩ = sample.routesModule relistedDisk ⟨"/w"⟩ :=
  ⟨isProper_sampleDisk, reorders_relistedDisk,
    routes_of_reorders sample isProper_sampleDisk reorders_relistedDisk ⟨"/w"⟩⟩

/-- **Files without influence.** On disks without symbolic links a project has the same routes, or
fails with the same fault, and has the same routes module, if the trees at its page directory agree
in their directories, in their page files and in the contents of the metadata files beside these. So
neither what is in a page file nor any other file has an influence, not even a metadata file for a
name that no page and no directory beside it has. -/
theorem routes_of_alike (project : Project) (hdisk : disk.isProper) (hother : other.isProper)
    (hfree : disk.isLinkFree) (hfree' : other.isLinkFree) (workingDir : DiskPath)
    (halike : Option.Rel Entry.Alike (disk.treeAt? workingDir (project.pageDir workingDir))
      (other.treeAt? workingDir (project.pageDir workingDir))) :
    project.routes disk workingDir = project.routes other workingDir ∧
      project.routesModule disk workingDir = project.routesModule other workingDir :=
  eq_of_buildRouteTree (buildRouteTree_eq_of_alike hdisk hother hfree hfree' halike)

/-- A disk with the page directory of the sample project. -/
def diskOf (pages : Entry) : Disk :=
  ⟨[(.text "w", .dir [(.text "src", .dir [(.text "pages", pages)])])]⟩

theorem treeAt?_diskOf (entries : List (Octets × Entry)) :
    (diskOf (.dir entries)).treeAt? ⟨"/w"⟩ (sample.pageDir ⟨"/w"⟩) = some (.dir entries) := by
  have hdir : sample.pageDir ⟨"/w"⟩ = ⟨"/w/src/pages"⟩ := by decide +kernel
  have hsteps : Disk.stepsFrom ⟨"/w"⟩ ⟨"/w/src/pages"⟩ =
      [.stay, .enter (.text "w"), .enter (.text "src"), .enter (.text "pages")] := by
    decide +kernel
  rw [hdir, Disk.treeAt?, Disk.find, Disk.locate, hsteps]
  rfl

/-- Pages with metadata and a folder. -/
def pages : Entry :=
  .dir [(.text "about.meta.json", .file (.text "\x7b\x7d")), (.text "about.vue", .file (.text "")),
    (.text "blog", .dir [(.text "index.vue", .file (.text ""))])]

/-- The same pages with text in one of them, a file that is no page, and a malformed file of
metadata for a page that is not there. -/
def annotatedPages : Entry :=
  .dir [(.text "README.md", .file (.text "Pages")),
    (.text "about.meta.json", .file (.text "\x7b\x7d")),
    (.text "about.vue", .file (.text "<template/>")),
    (.text "blog", .dir [(.text "index.vue", .file (.text ""))]),
    (.text "draft.meta.json", .file (.text "\x7b title: "))]

theorem isProper_pages : pages.isProper := by decide

theorem isProper_annotatedPages : annotatedPages.isProper := by decide

/-- The page files of a proper directory are the files with the extension of pages. -/
theorem hasPage_nil_iff_mem {e : Entry} (he : e.isProper) {stem : String} :
    e.HasPage [] stem ↔ ∃ r ∈ e.entries, r.2.isFile ∧
      r.1.text?.map DiskPath.splitExtension = some (stem, some Scan.pageExtension) := by
  simp only [Entry.hasPage_nil_iff, Entry.child?_eq_some_iff he, Option.map_eq_some_iff,
    Octets.text?_eq_some, Scan.splitExtension_eq_page_iff]
  constructor
  · rintro ⟨hstem, content, h⟩
    exact ⟨_, h, rfl, _, rfl, rfl, hstem⟩
  · rintro ⟨⟨name, entry⟩, h, hfile, _, rfl, rfl, hstem⟩
    cases entry with
    | file content => exact ⟨hstem, content, h⟩
    | dir => cases hfile
    | link => cases hfile

theorem hasFolder_singleton_iff_mem {e : Entry} (he : e.isProper) {s : String} :
    e.HasFolder [s] ↔ ∃ r ∈ e.entries, r.2.isDir ∧ r.1 = .text s := by
  simp only [Entry.hasFolder_singleton_iff, Entry.child?_eq_some_iff he]
  constructor
  · rintro ⟨entries, h⟩
    exact ⟨_, h, rfl, rfl⟩
  · rintro ⟨⟨name, entry⟩, h, hdir, rfl⟩
    cases entry with
    | dir entries => exact ⟨entries, h⟩
    | file => cases hdir
    | link => cases hdir

theorem alike_annotatedPages : pages.Alike annotatedPages := by
  have hmeta : DiskPath.splitExtension "about.meta.json" = ("about.meta", some "json") := by
    decide +kernel
  have hdraft : DiskPath.splitExtension "draft.meta.json" = ("draft.meta", some "json") := by
    decide +kernel
  have hvue : DiskPath.splitExtension "about.vue" = ("about", some "vue") := by decide +kernel
  have hreadme : DiskPath.splitExtension "README.md" = ("README", some "md") := by decide +kernel
  have hpages (stem : String) : pages.HasPage [] stem ↔ "about" = stem := by
    rw [hasPage_nil_iff_mem isProper_pages]
    simp [pages, Entry.entries, Entry.isFile, Octets.text?, hmeta, hvue, Scan.pageExtension]
  have hpages' (stem : String) : annotatedPages.HasPage [] stem ↔ "about" = stem := by
    rw [hasPage_nil_iff_mem isProper_annotatedPages]
    simp [annotatedPages, Entry.entries, Entry.isFile, Octets.text?, hmeta, hdraft, hvue, hreadme,
      Scan.pageExtension]
  have hfolders (s : String) : pages.HasFolder [s] ↔ "blog" = s := by
    rw [hasFolder_singleton_iff_mem isProper_pages]
    simp [pages, Entry.entries, Entry.isDir]
  have hfolders' (s : String) : annotatedPages.HasFolder [s] ↔ "blog" = s := by
    rw [hasFolder_singleton_iff_mem isProper_annotatedPages]
    simp [annotatedPages, Entry.entries, Entry.isDir]
  refine .of_dir rfl rfl (fun s ↦ ?_) (fun s inner inner' h h' ↦ ?_) (fun stem ↦ ?_)
    (fun s content h ↦ ?_)
  · rw [hfolders, hfolders']
  · rw [Entry.child?_eq_some_iff isProper_pages] at h
    rw [Entry.child?_eq_some_iff isProper_annotatedPages] at h'
    simp only [pages, annotatedPages, Entry.entries, List.mem_cons, Prod.mk.injEq, reduceCtorEq,
      and_false, false_or, or_false, Entry.dir.injEq, List.not_mem_nil] at h h'
    rw [h.2, h'.2]
    exact .refl _
  · rw [hpages, hpages']
  · rw [hfolders, hpages] at h
    have hnames : Segment.normalize s ++ Scan.metadataSuffix = "blog.meta.json" ∨
        Segment.normalize s ++ Scan.metadataSuffix = "about.meta.json" :=
      h.imp (by rintro rfl; decide +kernel) (by rintro rfl; decide +kernel)
    rw [Entry.child?_eq_some_iff isProper_pages, Entry.child?_eq_some_iff isProper_annotatedPages]
    rcases hnames with hname | hname <;> simp [hname, pages, annotatedPages, Entry.entries]

/-- Text in a page, a file that is no page and metadata for a page that is not there have no
influence. The routes are there in both cases. -/
theorem routes_of_annotatedPages : (diskOf pages).isProper ∧ (diskOf annotatedPages).isProper ∧
    (diskOf pages).isLinkFree ∧ (diskOf annotatedPages).isLinkFree ∧
    Option.Rel Entry.Alike ((diskOf pages).treeAt? ⟨"/w"⟩ (sample.pageDir ⟨"/w"⟩))
      ((diskOf annotatedPages).treeAt? ⟨"/w"⟩ (sample.pageDir ⟨"/w"⟩)) ∧
    (sample.routes (diskOf annotatedPages) ⟨"/w"⟩).toOption.map Route.components =
      some [⟨"/w/src/pages/about.vue"⟩, ⟨"/w/src/pages/blog/index.vue"⟩] ∧
    sample.routes (diskOf pages) ⟨"/w"⟩ = sample.routes (diskOf annotatedPages) ⟨"/w"⟩ ∧
    sample.routesModule (diskOf pages) ⟨"/w"⟩ =
      sample.routesModule (diskOf annotatedPages) ⟨"/w"⟩ := by
  have hproper : (diskOf pages).isProper := by decide
  have hproper' : (diskOf annotatedPages).isProper := by decide
  have hfree : (diskOf pages).isLinkFree := by decide
  have hfree' : (diskOf annotatedPages).isLinkFree := by decide
  have halike : Option.Rel Entry.Alike ((diskOf pages).treeAt? ⟨"/w"⟩ (sample.pageDir ⟨"/w"⟩))
      ((diskOf annotatedPages).treeAt? ⟨"/w"⟩ (sample.pageDir ⟨"/w"⟩)) := by
    rw [pages, annotatedPages, treeAt?_diskOf, treeAt?_diskOf]
    exact .some alike_annotatedPages
  exact ⟨hproper, hproper', hfree, hfree', halike, by decide +kernel,
    routes_of_alike sample hproper hproper' hfree hfree' ⟨"/w"⟩ halike⟩

end PageRoutes.Project
