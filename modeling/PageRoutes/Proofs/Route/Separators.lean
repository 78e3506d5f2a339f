import PageRoutes.Proofs.Route.Descent
import PageRoutes.Proofs.Segment.Separators
/-!
# Stripping separators twice

Stripping takes one slash away from every path below the top of a forest. A path that has one slash
in front has none then, and it is empty only if it was empty before. A forest without slashes in
front of its nested paths stays as it is, so stripping it again changes nothing where every path had
one slash at most. Of two slashes the second one is left, and this one is taken away the next time.

## Main definitions

* `Route.IsRelative` : a path without a slash in front.

## Main results

* `Route.stripNested_eq_self` : the forests that stripping leaves as they are.
* `Route.exists_stripNested_ne` : stripping twice is not the same as stripping once.
-/

namespace PageRoutes

namespace Segment

theorem IsSeparated.isRooted {path : String} (h : IsSeparated path) : IsRooted path := by
  obtain h | ⟨c, rest, -, h⟩ := h
  · exact .inl h
  · exact .inr ⟨c :: rest, List.cons_ne_nil c rest, h⟩

end Segment

namespace Route

/-- Whether a path has no slash in front, as a router wants the paths of nested nodes. -/
def IsRelative (path : String) : Prop := path.toList.head? ≠ some '/'

/-! ### One path -/

theorem stripSlash_of_isRelative {path : String} (h : IsRelative path) :
    stripSlash path = path := by
  rw [stripSlash]
  split
  · next rest hpath => exact absurd (by rw [hpath, List.head?_cons]) h
  · rfl

/-- Where there is one slash in front at most, none is left. -/
theorem isRelative_stripSlash {path : String} (h : Segment.IsSeparated path) :
    IsRelative (stripSlash path) := by
  obtain rfl | ⟨c, rest, hc, rfl⟩ := h
  · simp [IsRelative, stripSlash]
  · simpa [IsRelative, stripSlash] using hc

/-- Stripping makes no path empty. -/
theorem stripSlash_eq_empty_iff {path : String} (h : Segment.IsRooted path) :
    stripSlash path = "" ↔ path = "" := by
  obtain rfl | ⟨rest, hrest, rfl⟩ := h
  · simp [stripSlash]
  · simp [stripSlash, String.ofList_eq_empty_iff, hrest]

/-! ### Forests -/

/-- Only the topmost node of a way keeps its path, and the children of all nodes are stripped. -/
theorem path_and_children_of_stripWay {way origin : List Route} {node r : Route}
    (h : way ++ [node] = stripWay (origin ++ [r])) :
    node.path = (if way = [] then r.path else stripSlash r.path) ∧
      node.children = r.children.map strip := by
  -- The last node is the topmost one only where the way has no other.
  cases origin with
  | nil =>
    rw [List.nil_append, ← List.nil_append (stripWay [r])] at h
    obtain ⟨rfl, hnode⟩ := List.append_inj' h rfl
    rw [List.singleton_inj.mp hnode, stripAll_eq_map]
    exact ⟨rfl, rfl⟩
  | cons top rest =>
    rw [List.cons_append, stripWay, List.map_append, ← List.cons_append] at h
    obtain ⟨rfl, hnode⟩ := List.append_inj' h rfl
    rw [List.singleton_inj.mp hnode, path_strip, children_strip, if_neg (List.cons_ne_nil _ _)]
    exact ⟨rfl, rfl⟩

/-- A node stays as it is if neither its path nor one below it has a slash in front. -/
theorem strip_eq_self {r : Route} (hpath : IsRelative r.path)
    (hbelow : ∀ way node, Descent children r.children (way ++ [node]) → IsRelative node.path) :
    strip r = r := by
  induction r using Route.induct with
  | mk path component inner metadata ih =>
    have hinner : inner.map strip = inner.map id := List.map_congr_left fun c hc ↦
      ih c hc (hbelow [] c (.last hc)) fun way node hdown ↦ hbelow (c :: way) node (.step hc hdown)
    rw [strip, stripSlash_of_isRelative hpath, stripAll_eq_map, hinner, List.map_id]

/-- **Stripped forests stay.** A forest whose nested paths have no slash in front stays as it is.
-/
theorem stripNested_eq_self {routes : List Route}
    (h : ∀ way node, way ≠ [] → Descent children routes (way ++ [node]) → IsRelative node.path) :
    stripNested routes = routes := by
  have htops (top : Route) (htop : top ∈ routes) :
      { top with children := stripAll top.children } = top := by
    have hchildren : top.children.map strip = top.children.map id :=
      List.map_congr_left fun c hc ↦
        strip_eq_self (h [top] c (List.cons_ne_nil _ _) (.step htop (.last hc)))
          fun way node hdown ↦
            h (top :: c :: way) node (List.cons_ne_nil _ _) (.step htop (.step hc hdown))
    rw [stripAll_eq_map, hchildren, List.map_id]
    cases top
    rfl
  exact (List.map_congr_left htops).trans (List.map_id _)

/-- Of two slashes in front of a nested path the second time takes away another one. -/
theorem exists_stripNested_ne :
    ∃ forest, stripNested (stripNested forest) ≠ stripNested forest := by
  refine ⟨[⟨"/a", none, [⟨"//b", none, [], none⟩], none⟩], fun h ↦ ?_⟩
  have hpaths := congrArg (fun routes ↦ (routes.flatMap children).map path) h
  exact absurd hpaths (by decide)

end Route

end PageRoutes
