import PageRoutes.Proofs.Json.Canonical
import PageRoutes.Proofs.Project.Pages
import PageRoutes.Proofs.RoutesModule.Unambiguous
/-!
# A project's routes module determines its routes

The metadata of a project's routes has been read from JSON texts, so that all its numbers are as
they are kept. Stripping separators leaves metadata as it is. The routes of a project can therefore
be read off the text of its routes module, whatever the disk is like.

## Main results

* `Project.allCanonical_routes` : the numbers in the metadata of a project's routes.
* `Project.routes_eq_of_routesModule_eq` : projects with the same module have the same routes.
-/

namespace PageRoutes

/-! ### Stripping -/

namespace Route

mutual

theorem isCanonical_strip (r : Route) : r.IsCanonical → (strip r).IsCanonical := by
  obtain ⟨path, component, children, metadata⟩ := r
  rw [strip, IsCanonical, IsCanonical]
  exact And.imp_right (allCanonical_stripAll children)

theorem allCanonical_stripAll (routes : List Route) :
    AllCanonical routes → AllCanonical (stripAll routes) := by
  cases routes with
  | nil => exact id
  | cons r rest =>
    rw [stripAll, AllCanonical, AllCanonical]
    exact And.imp (isCanonical_strip r) (allCanonical_stripAll rest)

end

/-- Stripping leaves the metadata as it is. -/
theorem allCanonical_stripNested {routes : List Route} (h : AllCanonical routes) :
    AllCanonical (stripNested routes) := by
  rw [allCanonical_iff] at h ⊢
  rintro _ hr
  obtain ⟨⟨path, component, children, metadata⟩, hmem, rfl⟩ := List.mem_map.mp hr
  have hnode := h _ hmem
  rw [IsCanonical] at hnode ⊢
  exact hnode.imp_right (allCanonical_stripAll children)

end Route

/-! ### Scanning -/

namespace Scan

/-- Metadata that is read has its numbers as they are kept. -/
theorem isCanonical_of_sidecar {disk : Disk} {spot : Spot} {name : String} {metadata : Option Json}
    (h : sidecar disk spot name = .ok metadata) : ∀ v ∈ metadata, v.IsCanonical := by
  have hnone (h : (Except.ok none : Except PageRoutes.Fault (Option Json)) = .ok metadata) :
      ∀ v ∈ metadata, v.IsCanonical := by
    obtain rfl := Except.ok.inj h
    simp
  rw [sidecar] at h
  split at h
  · split at h
    · split at h
      · cases h
      · split at h
        · cases h
        · next hparse =>
          obtain rfl := Except.ok.inj h
          rintro _ ⟨⟩
          exact Json.isCanonical_of_parse hparse
    · exact hnone h
  · exact hnone h

/-- The metadata of what is found has its numbers as they are kept. -/
theorem Found.allCanonical {disk : Disk} {spot : Spot} {entries : List (Octets × Entry)}
    {finds : List Find} (h : Found disk spot entries finds) :
    Route.AllCanonical (routesOf finds) := by
  induction h with
  | nil spot => trivial
  | passed _ _ _ ih => exact ih
  | page _ _ _ hmeta _ ih =>
    rw [routesOf, Route.AllCanonical, Find.route, Route.page, Route.IsCanonical]
    exact ⟨⟨isCanonical_of_sidecar hmeta, trivial⟩, ih⟩
  | folder _ _ _ hmeta _ ihInside ih =>
    rw [routesOf, Route.AllCanonical, Find.route, Route.folder, Route.IsCanonical]
    rw [Route.allCanonical_iff] at ihInside
    refine ⟨⟨isCanonical_of_sidecar hmeta, ?_⟩, ih⟩
    rw [Route.allCanonical_iff]
    exact fun r hr ↦ ihInside r (List.mem_of_mem_filter hr)

end Scan

/-! ### Projects -/

namespace Project

variable {project project' : Project} {disk disk' : Disk} {workingDir workingDir' : DiskPath}
  {routes : List Route}

/-- **Metadata.** The numbers in the metadata of a project's routes are as they are kept. -/
theorem allCanonical_routes (hdisk : disk.isProper)
    (h : project.routes disk workingDir = .ok routes) : Route.AllCanonical routes := by
  obtain ⟨spot, finds, -, -, hfound, rfl⟩ := exists_found hdisk h
  exact Route.allCanonical_stripNested hfound.found.allCanonical

/-- A module that is there is that of the routes. -/
theorem exists_routes_of_routesModule {text : String}
    (h : project.routesModule disk workingDir = .ok (some text)) :
    ∃ routes, project.routes disk workingDir = .ok routes ∧
      text = RoutesModule.render routes project.options.historyMode := by
  rw [routesModule] at h
  split at h
  · cases h
  · cases hroutes : project.routes disk workingDir with
    | error fault =>
      rw [hroutes] at h
      cases h
    | ok routes =>
      rw [hroutes] at h
      exact ⟨routes, rfl, (Option.some.inj (Except.ok.inj h)).symm⟩

/-- **Modules.** Projects with the same module have the same history mode and the same routes: the
paths, the pages, the order of the nodes and the metadata. -/
theorem routes_eq_of_routesModule_eq (hdisk : disk.isProper) (hdisk' : disk'.isProper)
    {text : String} (h : project.routesModule disk workingDir = .ok (some text))
    (h' : project'.routesModule disk' workingDir' = .ok (some text)) :
    project.options.historyMode = project'.options.historyMode ∧
      project.routes disk workingDir = project'.routes disk' workingDir' := by
  obtain ⟨routes, hroutes, rfl⟩ := exists_routes_of_routesModule h
  obtain ⟨routes', hroutes', htext⟩ := exists_routes_of_routesModule h'
  obtain ⟨hmode, rfl, -⟩ := RoutesModule.render_append_inj (a := []) (b := [])
    (allCanonical_routes hdisk hroutes) (allCanonical_routes hdisk' hroutes') (by rw [htext])
  exact ⟨hmode, hroutes.trans hroutes'.symm⟩

end Project

end PageRoutes
