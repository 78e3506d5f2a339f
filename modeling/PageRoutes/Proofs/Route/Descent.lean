import Mathlib.Data.List.Chain
import PageRoutes.Proofs.Segment.RoutePath
import PageRoutes.Route
/-!
# Nodes of a forest

A node of a forest is reached from a node at its top by going from a node to one of its children,
any number of times. A descent is the list of the nodes on such a way, the topmost one first.
Descents are defined for any kind of thing that has things of its kind below it.

The URL of a node is the path of the topmost node on the way to it, followed by the paths of the
other nodes with a slash before each, where an empty path adds nothing.

## Main definitions

* `Descent` : the ways down into a forest.
* `Route.components` : the components of the nodes of a forest.
* `Route.url` : the URL of the last node of a descent.

## Main results

* `descent_filter_iff`, `descent_map_filter_iff` : ways into a part of a forest, and ways into a
  forest that is the image of a part of another.
* `Route.mem_components_iff` : components are those of the nodes to which ways lead down.
* `Route.descent_stripNested_iff`, `Route.exists_stripNested_iff` : stripping separators keeps the
  nodes of a forest and their components.
* `Route.url_stripWay` : the URL of a stripped node is the paths on the way to the original node,
  one after the other.
-/

namespace PageRoutes

section Descent

variable {α β : Type}

/-- A way down: it begins at the top, and each thing on it is below the one before. -/
inductive Descent (below : α → List α) : List α → List α → Prop
  | last {top : List α} {a : α} (h : a ∈ top) : Descent below top [a]
  | step {top way : List α} {a : α} (h : a ∈ top) (rest : Descent below (below a) way) :
    Descent below top (a :: way)

variable {below : α → List α}

/-- A way down is not empty. -/
theorem Descent.ne_nil {top way : List α} (h : Descent below top way) : way ≠ [] := by
  cases h <;> simp

theorem Descent.head_mem {top way : List α} {a : α} (h : Descent below top (a :: way)) :
    a ∈ top := by
  cases h <;> assumption

/-- Only the first thing on a way depends on the top. -/
theorem Descent.of_head {top top' way : List α} {a : α} (h : Descent below top (a :: way))
    (ha : a ∈ top') : Descent below top' (a :: way) := by
  cases h with
  | last h => exact .last ha
  | step h rest => exact .step ha rest

theorem descent_singleton_iff {top : List α} {a : α} : Descent below top [a] ↔ a ∈ top := by
  refine ⟨fun h ↦ ?_, .last⟩
  cases h with
  | last h => exact h
  | step h rest => exact h

theorem descent_cons_iff {top way : List α} {a : α} (hway : way ≠ []) :
    Descent below top (a :: way) ↔ a ∈ top ∧ Descent below (below a) way := by
  refine ⟨fun h ↦ ?_, fun h ↦ .step h.1 h.2⟩
  cases h with
  | last h => exact absurd rfl hway
  | step h rest => exact ⟨h, rest⟩

theorem Descent.exists_mem {top way : List α} (h : Descent below top way) : ∃ a, a ∈ top := by
  cases h with
  | last h => exact ⟨_, h⟩
  | step h rest => exact ⟨_, h⟩

/-- A way can be continued to whatever is below its last thing. -/
theorem Descent.snoc {top way : List α} {a b : α} (h : Descent below top (way ++ [a]))
    (hb : b ∈ below a) : Descent below top (way ++ [a] ++ [b]) := by
  induction way generalizing top with
  | nil => exact .step h.head_mem (.last hb)
  | cons c way ih =>
    obtain ⟨hc, hrest⟩ := (descent_cons_iff (by simp)).mp h
    exact .step hc (ih hrest)

/-- A way can be left at any thing on it. -/
theorem Descent.stop {top way rest : List α} {a : α} (h : Descent below top (way ++ a :: rest)) :
    Descent below top (way ++ [a]) := by
  induction way generalizing top with
  | nil => exact .last h.head_mem
  | cons c way ih =>
    obtain ⟨hc, hrest⟩ := (descent_cons_iff (by simp)).mp h
    exact .step hc (ih hrest)

/-- A way into a part of the top is a way whose first thing is in that part. -/
theorem descent_filter_iff {p : α → Bool} {top way : List α} :
    Descent below (top.filter p) way ↔ Descent below top way ∧ ∀ a ∈ way.head?, p a := by
  match way with
  | [] => exact ⟨fun h ↦ absurd rfl h.ne_nil, fun h ↦ absurd rfl h.1.ne_nil⟩
  | [a] => simp [descent_singleton_iff]
  | a :: b :: way => simp [descent_cons_iff, and_assoc, and_comm]

/-- **Ways into an image.** Let what is below the image of a thing be the images of those things
below it that are kept there. Then the ways down through the images are the images of the ways on
which every step is kept. -/
theorem descent_map_filter_iff {below' : β → List β} {f : α → β} {keep : α → α → Bool}
    (hbelow : ∀ a, below' (f a) = ((below a).filter (keep a)).map f) {top : List α} {way : List β} :
    Descent below' (top.map f) way ↔
      ∃ origin, Descent below top origin ∧ origin.IsChain (fun a b ↦ keep a b) ∧
        way = origin.map f := by
  constructor
  · induction way generalizing top with
    | nil => exact fun h ↦ absurd rfl h.ne_nil
    | cons b rest ih =>
      intro h
      cases h with
      | last h =>
        obtain ⟨a, ha, rfl⟩ := List.mem_map.mp h
        exact ⟨[a], .last ha, .singleton a, rfl⟩
      | step h hrest =>
        obtain ⟨a, ha, rfl⟩ := List.mem_map.mp h
        rw [hbelow] at hrest
        obtain ⟨origin, horigin, hchain, rfl⟩ := ih hrest
        obtain ⟨hdown, hkeep⟩ := descent_filter_iff.mp horigin
        exact ⟨a :: origin, .step ha hdown, List.isChain_cons.mpr ⟨hkeep, hchain⟩, rfl⟩
  · rintro ⟨origin, horigin, hchain, rfl⟩
    induction horigin with
    | last h => exact .last (List.mem_map_of_mem h)
    | step h hdown ih =>
      refine .step (List.mem_map_of_mem h) ?_
      obtain ⟨hkeep, hrest⟩ := List.isChain_cons.mp hchain
      have hmapped := ih hrest
      cases hdown <;>
        exact hbelow _ ▸ hmapped.of_head (List.mem_map_of_mem (List.mem_filter.mpr
          ⟨by assumption, hkeep _ rfl⟩))

/-- The ways into the image of a whole forest. -/
theorem descent_map_iff {below' : β → List β} {f : α → β}
    (hbelow : ∀ a, below' (f a) = (below a).map f) {top : List α} {way : List β} :
    Descent below' (top.map f) way ↔ ∃ origin, Descent below top origin ∧ way = origin.map f := by
  have hkeep (a : α) : below' (f a) = ((below a).filter fun _ ↦ true).map f := by
    rw [hbelow, List.filter_eq_self.mpr fun _ _ ↦ rfl]
  rw [descent_map_filter_iff hkeep]
  refine exists_congr fun origin ↦ and_congr_right fun _ ↦ and_iff_right ?_
  exact (List.isChain_isInfix origin).imp fun _ _ _ ↦ rfl

end Descent

namespace Route

/-! ### Components -/

/-- An induction over routes in which a node comes after its children. -/
theorem induct {P : Route → Prop} (mk : ∀ path component children metadata,
      (∀ r ∈ children, P r) → P ⟨path, component, children, metadata⟩) (r : Route) : P r :=
  Route.rec (motive_2 := fun routes ↦ ∀ r ∈ routes, P r)
    (fun path component children metadata ih ↦ mk path component children metadata ih)
    (fun _ h ↦ nomatch h) (fun _ _ hr hrest ↦ List.forall_mem_cons.mpr ⟨hr, hrest⟩) r

mutual

/-- The component of a node and those of the nodes below it. -/
def componentsIn : Route → List DiskPath
  | ⟨_, component, children, _⟩ => component.toList ++ components children

/-- The components of the nodes of a forest. -/
def components : List Route → List DiskPath
  | [] => []
  | r :: rest => componentsIn r ++ components rest

end

theorem components_eq_flatMap (routes : List Route) :
    components routes = routes.flatMap componentsIn := by
  induction routes with
  | nil => rfl
  | cons r rest ih => rw [components, ih, List.flatMap_cons]

theorem componentsIn_eq (r : Route) :
    componentsIn r = r.component.toList ++ components r.children := by
  obtain ⟨path, component, children, metadata⟩ := r
  rw [componentsIn]

theorem mem_components {routes : List Route} {file : DiskPath} :
    file ∈ components routes ↔ ∃ r ∈ routes, file ∈ componentsIn r := by
  rw [components_eq_flatMap, List.mem_flatMap]

theorem mem_componentsIn {r : Route} {file : DiskPath} :
    file ∈ componentsIn r ↔ r.component = some file ∨ file ∈ components r.children := by
  rw [componentsIn_eq, List.mem_append, Option.mem_toList]

/-- **Components of a forest.** They are the components of the nodes to which ways lead down. -/
theorem mem_components_iff {routes : List Route} {file : DiskPath} :
    file ∈ components routes ↔
      ∃ way node, Descent children routes (way ++ [node]) ∧ node.component = some file := by
  constructor
  · have hdown (r : Route) : ∀ routes, r ∈ routes → file ∈ componentsIn r →
        ∃ way node, Descent children routes (way ++ [node]) ∧ node.component = some file := by
      induction r using Route.induct with
      | mk path component inner metadata ih =>
        intro routes hr hfile
        rcases mem_componentsIn.mp hfile with hfile | hfile
        · exact ⟨[], _, .last hr, hfile⟩
        · obtain ⟨c, hc, hfile⟩ := mem_components.mp hfile
          obtain ⟨way, node, hway, hnode⟩ := ih c hc inner hc hfile
          exact ⟨_ :: way, node, .step hr hway, hnode⟩
    intro hfile
    obtain ⟨r, hr, hfile⟩ := mem_components.mp hfile
    exact hdown r routes hr hfile
  · rintro ⟨way, node, hdown, hnode⟩
    induction way generalizing routes with
    | nil => exact mem_components.mpr ⟨node, hdown.head_mem, mem_componentsIn.mpr (.inl hnode)⟩
    | cons r way ih =>
      obtain ⟨hr, hrest⟩ := (descent_cons_iff (by simp)).mp hdown
      exact mem_components.mpr ⟨r, hr, mem_componentsIn.mpr (.inr (ih hrest))⟩

/-! ### Stripping separators -/

theorem stripAll_eq_map (routes : List Route) : stripAll routes = routes.map strip := by
  induction routes with
  | nil => rfl
  | cons r rest ih => rw [stripAll, ih, List.map_cons]

theorem children_strip (r : Route) : (strip r).children = r.children.map strip := by
  obtain ⟨path, component, children, metadata⟩ := r
  rw [strip, stripAll_eq_map]

@[simp] theorem component_strip (r : Route) : (strip r).component = r.component := by
  obtain ⟨path, component, children, metadata⟩ := r
  rw [strip]

@[simp] theorem path_strip (r : Route) : (strip r).path = stripSlash r.path := by
  obtain ⟨path, component, children, metadata⟩ := r
  rw [strip]

@[simp] theorem metadata_strip (r : Route) : (strip r).metadata = r.metadata := by
  obtain ⟨path, component, children, metadata⟩ := r
  rw [strip]

/-- A way down after separators have been stripped: the topmost node keeps its path. -/
def stripWay : List Route → List Route
  | [] => []
  | top :: rest => { top with children := stripAll top.children } :: rest.map strip

/-- **Stripped forests.** The ways into a stripped forest are those into the original one, with the
separators stripped from all nodes but the topmost. -/
theorem descent_stripNested_iff {routes way : List Route} :
    Descent children (stripNested routes) way ↔
      ∃ origin, Descent children routes origin ∧ way = stripWay origin := by
  constructor
  · intro h
    cases h with
    | last h =>
      obtain ⟨r, hr, rfl⟩ := List.mem_map.mp h
      exact ⟨[r], .last hr, rfl⟩
    | step h hrest =>
      obtain ⟨r, hr, rfl⟩ := List.mem_map.mp h
      rw [stripAll_eq_map] at hrest
      obtain ⟨origin, hdown, rfl⟩ := (descent_map_iff children_strip).mp hrest
      exact ⟨r :: origin, .step hr hdown, rfl⟩
  · rintro ⟨origin, h, rfl⟩
    cases h with
    | last h => exact .last (List.mem_map_of_mem h)
    | step h hdown =>
      refine .step (List.mem_map_of_mem h) ?_
      rw [stripAll_eq_map]
      exact (descent_map_iff children_strip).mpr ⟨_, hdown, rfl⟩

@[simp] theorem length_stripWay (way : List Route) : (stripWay way).length = way.length := by
  cases way <;> simp [stripWay]

/-- Stripping keeps the metadata of the nodes on a way, and their paths but for the separators below
the topmost node. -/
theorem exists_getElem?_stripWay {way : List Route} {i : ℕ} {r : Route} (h : way[i]? = some r) :
    ∃ node, (stripWay way)[i]? = some node ∧ node.metadata = r.metadata ∧
      node.path = if i = 0 then r.path else stripSlash r.path := by
  cases way with
  | nil => simp at h
  | cons top rest =>
    cases i with
    | zero =>
      obtain rfl : top = r := by simpa using h
      exact ⟨_, rfl, rfl, rfl⟩
    | succ i =>
      rw [List.getElem?_cons_succ] at h
      exact ⟨strip r, by simp [stripWay, h], metadata_strip r, path_strip r⟩

@[simp] theorem map_component_stripWay (way : List Route) :
    (stripWay way).map component = way.map component := by
  cases way with
  | nil => rfl
  | cons top rest => simp [stripWay, Function.comp_def]

/-- Stripping keeps the component of the last node of a way. -/
theorem component_of_stripWay {way origin : List Route} {node r : Route}
    (h : way ++ [node] = stripWay (origin ++ [r])) : node.component = r.component := by
  have hmap := congrArg (List.map component) h
  rw [map_component_stripWay, List.map_append, List.map_append] at hmap
  simpa using List.append_inj_right' hmap rfl

/-- **Components of stripped forests.** Stripping keeps the components that nodes have. -/
theorem exists_stripNested_iff {routes : List Route} {component? : Option DiskPath} :
    (∃ way node, Descent children (stripNested routes) (way ++ [node]) ∧
        node.component = component?) ↔
      ∃ way node, Descent children routes (way ++ [node]) ∧ node.component = component? := by
  constructor
  · rintro ⟨way, node, hdown, rfl⟩
    obtain ⟨origin, horigin, heq⟩ := descent_stripNested_iff.mp hdown
    obtain ⟨above, r, rfl⟩ := (List.eq_nil_or_concat origin).resolve_left horigin.ne_nil
    rw [List.concat_eq_append] at horigin heq
    exact ⟨above, r, horigin, (component_of_stripWay heq).symm⟩
  · rintro ⟨above, r, hdown, rfl⟩
    have hstripped := descent_stripNested_iff.mpr ⟨_, hdown, rfl⟩
    obtain ⟨way, node, heq⟩ := (List.eq_nil_or_concat _).resolve_left hstripped.ne_nil
    rw [List.concat_eq_append] at heq
    exact ⟨way, node, heq ▸ hstripped, component_of_stripWay heq.symm⟩

theorem componentsIn_strip (r : Route) : componentsIn (strip r) = componentsIn r := by
  induction r using Route.induct with
  | mk path component inner metadata ih =>
    rw [componentsIn_eq, componentsIn_eq, component_strip, children_strip, components_eq_flatMap,
      components_eq_flatMap, List.flatMap_map, List.flatMap_congr ih]

/-- Stripping keeps the components of a forest, each as often as it is there. -/
theorem components_stripNested (routes : List Route) :
    components (stripNested routes) = components routes := by
  rw [components_eq_flatMap, components_eq_flatMap, stripNested, List.flatMap_map]
  refine List.flatMap_congr fun r _ ↦ ?_
  rw [componentsIn_eq, componentsIn_eq r, stripAll_eq_map, components_eq_flatMap, List.flatMap_map,
    List.flatMap_congr fun c _ ↦ componentsIn_strip c, ← components_eq_flatMap]

/-- The URL of the last node of a descent: paths below the top are relative to their parents, and an
empty one stands for the parent itself. -/
def url : List Route → String
  | [] => ""
  | top :: rest =>
    top.path ++ String.join (rest.map fun r ↦ if r.path = "" then "" else "/" ++ r.path)

/-- Putting the slash back before a stripped path gives the path. -/
theorem slash_stripSlash {path : String} (h : Segment.IsRooted path) :
    (if stripSlash path = "" then "" else "/" ++ stripSlash path) = path := by
  obtain rfl | ⟨rest, hrest, rfl⟩ := h
  · simp [stripSlash]
  · simp [stripSlash, String.ofList_eq_empty_iff, hrest, String.ofList_cons]

/-- **URLs of stripped nodes.** Where the paths on a way are empty or begin with one separator, the
URL after stripping is those paths one after the other. -/
theorem url_stripWay {way : List Route} (h : ∀ r ∈ way, Segment.IsRooted r.path) :
    url (stripWay way) = String.join (way.map path) := by
  cases way with
  | nil => simp [stripWay, url]
  | cons top rest =>
    obtain ⟨-, hrest⟩ := List.forall_mem_cons.mp h
    rw [stripWay, url, List.map_cons, String.join_cons, List.map_map]
    congr 2
    exact List.map_congr_left fun r hr ↦ by
      rw [Function.comp_apply, path_strip, slash_stripSlash (hrest r hr)]

end Route

end PageRoutes
