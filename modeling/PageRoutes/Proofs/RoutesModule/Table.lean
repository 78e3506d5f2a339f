import PageRoutes.Proofs.Json.Lines
import PageRoutes.Proofs.Route.Descent
import PageRoutes.RoutesModule
/-!
# The routing table in the module and as JSON

A routing table is written in two ways: as JSON, and as a literal of the routes module. The two
texts have the same layout and differ in the components of the nodes only. A template says what this
means. It is a JSON value with gaps, and the template of a table has one gap for each component.
Filled with string literals it is the JSON text of the table, filled with import expressions it is
the literal of the module. Metadata is no gap: it stands in both texts as it is, even where it looks
like a node or has strings with line breaks in it.

The literal gets the lines of metadata to their level by putting blanks behind every line break of a
text. That is right because a JSON text breaks its line between brackets only.

## Main definitions

* `Json.Template` : JSON values with gaps.
* `Route.template`, `Route.tableTemplate` : a node and a table with a gap for each component.

## Main results

* `RoutesModule.reindent_pretty` : JSON moved to a deeper level by its line breaks.
* `RoutesModule.text_tableTemplate` : the two texts of a table.
-/

namespace PageRoutes

namespace RoutesModule

/-! ### Moving a text to a deeper level -/

theorem reindent_append (a b blanks : String) :
    reindent (a ++ b) blanks = reindent a blanks ++ reindent b blanks := by
  simp [reindent, List.flatMap_append]

/-- A text on one line stays as it is. -/
theorem reindent_of_isLine {text : String} (h : Json.IsLine text) (blanks : String) :
    reindent text blanks = text := by
  have hkeep : text.toList.flatMap (fun c ↦ if c = '\n' then c :: blanks.toList else [c]) =
      text.toList.flatMap fun c ↦ [c] := by
    refine List.flatMap_congr fun c hc ↦ ?_
    rw [if_neg]
    rintro rfl
    exact h hc
  rw [reindent, hkeep, List.flatMap_singleton', String.ofList_toList]

theorem reindent_intercalate (separator : String) (texts : List String) (blanks : String) :
    reindent (String.intercalate separator texts) blanks =
      String.intercalate (reindent separator blanks)
        (texts.map fun text ↦ reindent text blanks) := by
  induction texts with
  | nil => simp [reindent]
  | cons text rest ih =>
    cases rest with
    | nil => simp
    | cons next rest => simp [reindent_append, ih]

/-- The line break in front of a line becomes that in front of a line at a deeper level. -/
theorem reindent_line (level more : Nat) :
    reindent ("\n" ++ Json.indentation level) (Json.indentation more) =
      "\n" ++ Json.indentation (more + level) := by
  have hbreak : reindent "\n" (Json.indentation more) = "\n" ++ Json.indentation more := by
    simp [reindent, String.ofList_cons]
  rw [reindent_append, reindent_of_isLine (Json.isLine_indentation level), hbreak,
    String.append_assoc]
  simp [Json.indentation, ← String.ofList_append, Nat.mul_add]

theorem reindent_bracketed {left right : String} (hleft : Json.IsLine left)
    (hright : Json.IsLine right) (level more : Nat) (items : List String) :
    reindent (Json.bracketed left right level items) (Json.indentation more) =
      Json.bracketed left right (more + level)
        (items.map fun text ↦ reindent text (Json.indentation more)) := by
  have hcomma : Json.IsLine "," := by decide
  rw [Json.bracketed, Json.bracketed, List.isEmpty_map]
  split
  · exact reindent_of_isLine (hleft.append hright) _
  · simp only [reindent_append, reindent_intercalate, reindent_of_isLine hleft,
      reindent_of_isLine hright, reindent_of_isLine hcomma]
    simp only [← reindent_append, reindent_line, String.append_assoc, Nat.add_assoc]

/-- **JSON at a deeper level.** Putting blanks behind every line break of the text of a JSON value
gives the text of that value at a deeper level. -/
theorem reindent_pretty (v : Json) (level more : Nat) :
    reindent (Json.pretty level v) (Json.indentation more) = Json.pretty (more + level) v := by
  induction v using Json.induct generalizing level with
  | null => simpa only [Json.pretty] using reindent_of_isLine (by decide) _
  | bool b =>
    cases b <;> simpa only [Json.pretty] using reindent_of_isLine (by decide) _
  | number n => simpa only [Json.pretty] using reindent_of_isLine (Json.isLine_numberText n) _
  | string s => simpa only [Json.pretty] using reindent_of_isLine (Json.isLine_quote s) _
  | array items ih =>
    rw [Json.pretty, Json.pretty, reindent_bracketed (by decide) (by decide),
      Json.prettyItems_eq_map, Json.prettyItems_eq_map, List.map_map]
    exact congrArg _ (List.map_congr_left fun v hv ↦ ih v hv (level + 1))
  | object members ih =>
    rw [Json.pretty, Json.pretty, reindent_bracketed (by decide) (by decide),
      Json.prettyMembers_eq_map, Json.prettyMembers_eq_map, List.map_map]
    refine congrArg _ (List.map_congr_left fun m hm ↦ ?_)
    have hkey : Json.IsLine (Json.quote m.1 ++ ": ") := (Json.isLine_quote m.1).append (by decide)
    rw [Function.comp_apply, reindent_append, reindent_of_isLine hkey, ih m hm (level + 1),
      Nat.add_assoc]

end RoutesModule

/-! ### Templates -/

namespace Json

/-- A JSON value with gaps, in which other texts than those of values can stand. -/
inductive Template (α : Type) where
  | value (v : Json)
  | gap (a : α)
  | array (items : List (Template α))
  | object (members : List (String × Template α))

namespace Template

variable {α : Type}

mutual

/-- The text of a template whose first line stands at the given level of nesting, with texts in its
gaps. -/
def text (fill : α → String) (level : Nat) : Template α → String
  | .value v => pretty level v
  | .gap a => fill a
  | .array items => bracketed "[" "]" level (textItems fill (level + 1) items)
  | .object members => bracketed "\x7b" "\x7d" level (textMembers fill (level + 1) members)

/-- The texts of the elements of an array. -/
def textItems (fill : α → String) (level : Nat) : List (Template α) → List String
  | [] => []
  | item :: rest => item.text fill level :: textItems fill level rest

/-- The texts of the members of an object. -/
def textMembers (fill : α → String) (level : Nat) : List (String × Template α) → List String
  | [] => []
  | (key, item) :: rest =>
    (quote key ++ ": " ++ item.text fill level) :: textMembers fill level rest

end

mutual

/-- What stands in the gaps of a template, in the order of the text. -/
def gaps : Template α → List α
  | .value _ => []
  | .gap a => [a]
  | .array items => gapsOfItems items
  | .object members => gapsOfMembers members

/-- What stands in the gaps of the elements of an array. -/
def gapsOfItems : List (Template α) → List α
  | [] => []
  | item :: rest => item.gaps ++ gapsOfItems rest

/-- What stands in the gaps of the members of an object. -/
def gapsOfMembers : List (String × Template α) → List α
  | [] => []
  | (_, item) :: rest => item.gaps ++ gapsOfMembers rest

end

theorem textItems_eq_map (fill : α → String) (level : Nat) (items : List (Template α)) :
    textItems fill level items = items.map (text fill level) := by
  induction items with
  | nil => rfl
  | cons item rest ih => rw [textItems, ih, List.map_cons]

end Template

end Json

namespace Route

open Json (Template)

mutual

/-- A node with a gap for its component. -/
def template : Route → Template DiskPath
  | ⟨path, component, children, metadata⟩ =>
    .object <|
      [("path", .value (.string path))]
        ++ (component.map fun file ↦ ("component", .gap file)).toList
        ++ [("children", .array (templates children))]
        ++ (metadata.map fun value ↦ ("meta", .value value)).toList

/-- `template` for every node of a list. -/
def templates : List Route → List (Template DiskPath)
  | [] => []
  | r :: rest => r.template :: templates rest

end

/-- A routing table with gaps for the components of its nodes. -/
def tableTemplate (routes : List Route) : Template DiskPath := .array (templates routes)

theorem templates_eq_map (routes : List Route) : templates routes = routes.map template := by
  induction routes with
  | nil => rfl
  | cons r rest ih => rw [templates, ih, List.map_cons]

theorem allToJson_eq_map (routes : List Route) : allToJson routes = routes.map toJson := by
  induction routes with
  | nil => rfl
  | cons r rest ih => rw [allToJson, ih, List.map_cons]

theorem gapsOfItems_templates {routes : List Route}
    (h : ∀ r ∈ routes, r.template.gaps = componentsIn r) :
    Template.gapsOfItems (templates routes) = components routes := by
  induction routes with
  | nil => rfl
  | cons r rest ih =>
    obtain ⟨hr, hrest⟩ := List.forall_mem_cons.mp h
    rw [templates, Template.gapsOfItems, components, hr, ih hrest]

/-- The gaps of a node are its component and those of the nodes below it. -/
theorem gaps_template (r : Route) : r.template.gaps = componentsIn r := by
  induction r using Route.induct with
  | mk path component children metadata ih =>
    rw [template, componentsIn, Template.gaps]
    cases component <;> cases metadata <;>
      simp [Template.gapsOfMembers, Template.gaps, gapsOfItems_templates ih]

/-- The texts of the nodes of a list are those of their JSON values, if this holds for each node. -/
theorem textItems_templates_quote {routes : List Route} {level : Nat}
    (h : ∀ r ∈ routes,
      r.template.text (fun file ↦ Json.quote file.text) level = Json.pretty level r.toJson) :
    Template.textItems (fun file ↦ Json.quote file.text) level (templates routes) =
      Json.prettyItems level (allToJson routes) := by
  rw [Template.textItems_eq_map, Json.prettyItems_eq_map, templates_eq_map, allToJson_eq_map,
    List.map_map, List.map_map]
  exact List.map_congr_left h

/-- **Nodes as JSON.** With string literals in the gaps, a node has the text of its JSON value. -/
theorem text_template_quote (r : Route) (level : Nat) :
    r.template.text (fun file ↦ Json.quote file.text) level = Json.pretty level r.toJson := by
  induction r using Route.induct generalizing level with
  | mk path component children metadata ih =>
    have hchildren := textItems_templates_quote fun r hr ↦ ih r hr (level + 2)
    rw [template, toJson, Template.text, Json.pretty]
    cases component <;> cases metadata <;>
      simp [Template.textMembers, Json.prettyMembers, Template.text, Json.pretty, hchildren]

end Route

namespace RoutesModule

theorem nodes_eq_map (level : Nat) (routes : List Route) :
    nodes level routes = routes.map (node level) := by
  induction routes with
  | nil => rfl
  | cons r rest ih => rw [nodes, ih, List.map_cons]

/-- Lines that begin with the same blanks are those blanks and the lines with the blanks behind
their separators. -/
theorem intercalate_map_append (separator blanks line : String) (lines : List String) :
    String.intercalate separator ((line :: lines).map fun text ↦ blanks ++ text) =
      blanks ++ String.intercalate (separator ++ blanks) (line :: lines) := by
  induction lines generalizing line with
  | nil => simp
  | cons next rest ih =>
    rw [List.map_cons, List.map_cons, String.intercalate_cons_cons, ← List.map_cons, ih,
      String.intercalate_cons_cons]
    simp only [String.append_assoc]

/-- The nodes of a list, each with the blanks of its level, make the text of an array. -/
theorem listText_map (level : Nat) (texts : List String) :
    listText level (texts.map fun text ↦ Json.indentation (level + 1) ++ text) =
      Json.bracketed "[" "]" level texts := by
  cases texts with
  | nil => rfl
  | cons text rest =>
    have hleft : "[\n" = "[" ++ "\n" := rfl
    have hcomma : ",\n" = "," ++ "\n" := rfl
    rw [listText, Json.bracketed, intercalate_map_append, hleft, hcomma]
    simp only [List.map_cons, List.isEmpty_cons, Bool.false_eq_true, if_false, String.append_assoc]

/-- A node is laid out like an object with the members that the node has. -/
theorem nodeText_eq (level : Nat) (path : String) (component : Option DiskPath) (children : String)
    (metadata : Option Json) :
    nodeText level path component children metadata =
      Json.indentation level ++ Json.bracketed "\x7b" "\x7d" level
        ([Json.quote "path" ++ ": " ++ Json.quote path]
          ++ (component.map fun file ↦ Json.quote "component" ++ ": " ++ importExpr file).toList
          ++ [Json.quote "children" ++ ": " ++ children]
          ++ (metadata.map fun v ↦
            Json.quote "meta" ++ ": " ++ Json.pretty (level + 1) v).toList) := by
  have hleft : "\x7b\n" = "\x7b" ++ "\n" := rfl
  have hcomma : ",\n" = "," ++ "\n" := rfl
  have hpath : "\x22path\x22: " = Json.quote "path" ++ ": " := by decide
  have hcomponent : "\x22component\x22: " = Json.quote "component" ++ ": " := by decide
  have hchildren : "\x22children\x22: " = Json.quote "children" ++ ": " := by decide
  have hmeta : "\x22meta\x22: " = Json.quote "meta" ++ ": " := by decide
  have hpretty (v : Json) := reindent_pretty v 0 (level + 1)
  unfold nodeText
  rw [hleft, hcomma, hpath, hcomponent, hchildren, hmeta]
  cases component <;> cases metadata <;>
    simp only [Json.bracketed, hpretty, String.append_assoc, Option.map_none, Option.map_some,
      Option.toList_none, Option.toList_some, List.cons_append, List.nil_append, List.append_nil,
      List.isEmpty_cons, Bool.false_eq_true, if_false, String.intercalate_cons_cons,
      String.intercalate_singleton, Nat.add_zero, String.append_empty]

/-- The literal of a list of nodes is that of an array, if this holds for each node. -/
theorem listText_nodes {routes : List Route} {level : Nat}
    (h : ∀ r ∈ routes, node (level + 1) r =
      Json.indentation (level + 1) ++ r.template.text importExpr (level + 1)) :
    listText level (nodes (level + 1) routes) =
      (Json.Template.array (Route.templates routes)).text importExpr level := by
  rw [Json.Template.text, Json.Template.textItems_eq_map, Route.templates_eq_map, List.map_map,
    ← listText_map, nodes_eq_map, List.map_map]
  exact congrArg _ (List.map_congr_left h)

/-- **Nodes in the module.** With import expressions in the gaps, a node has the text of its
literal, behind the blanks of its level. -/
theorem node_eq (r : Route) (level : Nat) :
    node level r = Json.indentation level ++ r.template.text importExpr level := by
  induction r using Route.induct generalizing level with
  | mk path component children metadata ih =>
    have hchildren := listText_nodes fun r hr ↦ ih r hr (level + 2)
    rw [node, hchildren, nodeText_eq, Route.template, Json.Template.text]
    cases component <;> cases metadata <;>
      simp [Json.Template.textMembers, Json.Template.text, Json.pretty]

/-- **The two texts of a table.** The template of a table has a gap for each component of a node,
in the order of the nodes. With string literals in the gaps, the template has the text of the table
as JSON. With import expressions in the gaps, it has the literal of the table in the routes module.
-/
theorem text_tableTemplate (routes : List Route) :
    (Route.tableTemplate routes).gaps = Route.components routes ∧
      (Route.tableTemplate routes).text (fun file ↦ Json.quote file.text) 0 =
        Route.tableText routes ∧
      (Route.tableTemplate routes).text importExpr 0 = tableLiteral routes := by
  refine ⟨?_, ?_, ?_⟩
  · exact Route.gapsOfItems_templates fun r _ ↦ Route.gaps_template r
  · have hnodes := Route.textItems_templates_quote fun r (_ : r ∈ routes) ↦
      Route.text_template_quote r 1
    rw [Route.tableTemplate, Json.Template.text, hnodes, Route.tableText, Json.pretty]
  · exact (listText_nodes fun r _ ↦ node_eq r 1).symm

/-- Metadata has no gap, whatever the names of its members are. -/
example :
    let metadata : Json := .object [("component", .string "/p/b.vue")]
    (Route.tableTemplate [.page "/a" ⟨"/p/a.vue"⟩ (some metadata)]).gaps = [⟨"/p/a.vue"⟩] := by
  decide +kernel

end RoutesModule

end PageRoutes
