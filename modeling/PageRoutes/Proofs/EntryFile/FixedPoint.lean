import Mathlib.Data.List.Count
import PageRoutes.Proofs.EntryFile.Conflict
import PageRoutes.Proofs.EntryFile.Rerun
import PageRoutes.Proofs.Syntax.LocalScope
/-!
# One step is enough

The module that is printed for an entry file is a fixed point of the edit. It has the import of the
router in front of the items of the file if the file had none, and no other import of the router is
added or lost; a search in it ends at a call that uses the router already. Editing it once more
gives the same module. A module that is connected is its own edit.

This is about trees. Whether the printed text is read as the tree again is another question.

## Main results

* `EntryFile.importsRouter_wrap_eq` : a search keeps and adds no import of the router.
* `EntryFile.items_edited` : the items of an edited module.
* `EntryFile.edited_of_isConnected` : a connected module is its own edit.
* `EntryFile.edited_fixed_point` : the edited module of a file is a fixed point.
-/

namespace PageRoutes.EntryFile

open Syntax Node

/-! ### Imports and searches -/

/-- What a search makes a specifier of the router was one before. -/
theorem importsDefault_of_wrap {state : Bootstrap} {n : Node}
    (h : importsDefault (wrap state n).2) : importsDefault n := by
  obtain ⟨hkind, name, hparts, hname⟩ := importsDefault_iff.mp h
  rw [kind_wrap] at hkind
  rw [children_wrap (by simp [hkind])] at hparts
  obtain ⟨old, others, hold, rfl, hrest⟩ := exists_of_wrapAll_eq_cons hparts
  have hothers : others = [] := eq_nil_of_wrapAll_eq_nil hrest.symm
  have hrouter : isRouter old := by rwa [isRouter, nameText?, kind_wrap] at hname
  exact importsDefault_iff.mpr ⟨hkind, old, by rw [hold, hothers], hrouter⟩

/-- Every part that a search has gone through was a part before. -/
theorem exists_mem_of_wrapAll {state : Bootstrap} {parts : List Node} {new : Node}
    (h : new ∈ (wrapAll state parts).2) : ∃ n ∈ parts, ∃ state', new = (wrap state' n).2 := by
  induction parts generalizing state with
  | nil => cases h
  | cons n rest ih =>
    rw [wrapAll_cons] at h
    rcases List.mem_cons.mp h with rfl | hrest
    · exact ⟨n, List.mem_cons_self, state, rfl⟩
    · obtain ⟨old, hold, state', rfl⟩ := ih hrest
      exact ⟨old, List.mem_cons_of_mem _ hold, state', rfl⟩

/-- What a search makes an import of the router was one before. -/
theorem importsRouter_of_wrap {state : Bootstrap} {n : Node}
    (h : importsRouter (wrap state n).2) : importsRouter n := by
  obtain ⟨⟨isType, hkind⟩, _, _, _, hparts, hgroup, ⟨raw, hsource⟩, specifier, hmem, hdefault⟩ :=
    importsRouter_iff.mp h
  rw [kind_wrap] at hkind
  rw [children_wrap (by simp [hkind])] at hparts
  obtain ⟨specifiers, _, hold, rfl, hrest⟩ := exists_of_wrapAll_eq_cons hparts
  obtain ⟨source, _, rfl, rfl, hlast⟩ := exists_of_wrapAll_eq_cons hrest.symm
  obtain ⟨attributes, others, rfl, rfl, hnone⟩ := exists_of_wrapAll_eq_cons hlast.symm
  have hothers : others = [] := eq_nil_of_wrapAll_eq_nil hnone.symm
  rw [kind_wrap] at hgroup hsource
  rw [children_wrap (by simp [hgroup])] at hmem
  obtain ⟨old, hpart, _, rfl⟩ := exists_mem_of_wrapAll hmem
  exact importsRouter_iff.mpr ⟨⟨isType, hkind⟩, specifiers, source, attributes,
    by rw [hold, hothers], hgroup, ⟨raw, hsource⟩, old, hpart, importsDefault_of_wrap hdefault⟩

/-- **Imports.** Whether an item imports the router does not change in a search. -/
theorem importsRouter_wrap_eq (state : Bootstrap) (n : Node) :
    importsRouter (wrap state n).2 = importsRouter n := by
  rw [Bool.eq_iff_iff]
  exact ⟨importsRouter_of_wrap, importsRouter_wrap state⟩

/-- The number of parts with a property does not change in a search that keeps the property of each
part. -/
theorem countP_wrapAll {p : Node → Bool} (hp : ∀ state n, p (wrap state n).2 = p n)
    (state : Bootstrap) (parts : List Node) :
    (wrapAll state parts).2.countP p = parts.countP p := by
  induction parts generalizing state with
  | nil => rfl
  | cons n rest ih => rw [wrapAll_cons, List.countP_cons, List.countP_cons, ih, hp]

/-! ### Edited modules -/

variable {m : Module}

/-- A search that ends at a call with the use of the router changes nothing. -/
theorem wrap_eq_of_alreadyWrapped {n : Node} (h : (wrap .missing n).1 = .alreadyWrapped) :
    wrap .missing n = (.alreadyWrapped, n) := by
  rw [wrap_missing] at h ⊢
  cases hfirst : (calls n).head? with
  | none => simp [hfirst, outcome] at h
  | some first =>
    obtain ⟨p, call⟩ := first
    cases hrouter : isRouterUse call with
    | true => simp [outcome, hrouter]
    | false => simp [hfirst, outcome, hrouter] at h

/-- The items of an edited module: those of the module behind a search, behind the import of the
router if there was none. -/
theorem items_edited (hkind : m.tree.kind ≠ .call) :
    Source.items (edited m) =
      (if (Source.items m).any importsRouter then [] else [routerImport]) ++
        (wrapAll .missing (Source.items m)).2 := by
  have hsearched : (wrap .missing m.tree).2.children = (wrapAll .missing (Source.items m)).2 :=
    children_wrap hkind
  rw [edited]
  cases (Source.items m).any importsRouter with
  | true => exact hsearched
  | false => exact congrArg (routerImport :: ·) hsearched

/-- The imports of the router in an edited module. -/
theorem countP_importsRouter_edited (hkind : m.tree.kind ≠ .call) :
    (Source.items (edited m)).countP importsRouter =
      (if (Source.items m).any importsRouter then 0 else 1) +
        (Source.items m).countP importsRouter := by
  have hfront : importsRouter routerImport := by decide
  rw [items_edited hkind, List.countP_append, countP_wrapAll importsRouter_wrap_eq]
  cases (Source.items m).any importsRouter with
  | true => rfl
  | false => simp [hfront]

/-- A connected module is its own edit. -/
theorem edited_of_isConnected (h : isConnected m) : edited m = m := by
  rw [isConnected, Bool.and_eq_true, decide_eq_true_eq] at h
  obtain ⟨himport, hstate⟩ := h
  have hsearch := wrap_eq_of_alreadyWrapped hstate
  rw [edited, himport, hsearch]
  rfl

/-- A search in a connected module changes nothing. -/
theorem wrap_of_isConnected (h : isConnected m) :
    wrap .missing m.tree = (.alreadyWrapped, m.tree) := by
  rw [isConnected, Bool.and_eq_true, decide_eq_true_eq] at h
  exact wrap_eq_of_alreadyWrapped h.2

/-- **One step is enough.** Let a file be read as a module and get a text. The text is that of the
file, if the module is connected and so its own edit, and else the one that is printed for the
edited module. The items of the edited module are those of the module behind a search, and in front
of them the import of the router if and only if there was none. The edited module imports the
router, one time more than the module if that has no import of the router, and as often otherwise. A
search in it ends at a call with the use of the router and changes nothing, and a second edit does
not change it either. -/
theorem edited_fixed_point {code out : String} {file : DiskPath}
    (hread : Source.read code file = .ok m) (h : addRouter code file = .ok out) :
    (if isConnected m then out = code ∧ edited m = m else out = (edited m).print) ∧
      (∃ item ∈ Source.items (edited m), importsRouter item) ∧
      Source.items (edited m) =
        (if (Source.items m).any importsRouter then [] else [routerImport]) ++
          (wrapAll .missing (Source.items m)).2 ∧
      ((Source.items (edited m)).countP importsRouter =
          (Source.items m).countP importsRouter + 1 ↔
        ¬∃ item ∈ Source.items m, importsRouter item) ∧
      ((∃ item ∈ Source.items m, importsRouter item) →
        (Source.items (edited m)).countP importsRouter =
          (Source.items m).countP importsRouter) ∧
      wrap .missing (edited m).tree = (.alreadyWrapped, (edited m).tree) ∧
      edited (edited m) = edited m := by
  obtain ⟨_, hread', hmet, hout⟩ := exists_of_addRouter h
  obtain rfl := Except.ok.inj (hread.symm.trans hread')
  obtain ⟨shebang, hmodule⟩ := kind_of_read hread
  have hkind : m.tree.kind ≠ .call := by simp [hmodule]
  have hconnected : isConnected (edited m) := isConnected_edited hkind hmet
  have hcount := countP_importsRouter_edited hkind
  have hany : (∃ item ∈ Source.items m, importsRouter item) ↔
      (Source.items m).any importsRouter = true := List.any_eq_true.symm
  refine ⟨?_, (isConnected_iff.mp hconnected).1, items_edited hkind, ?_, ?_,
    wrap_of_isConnected hconnected, edited_of_isConnected hconnected⟩
  · by_cases hm : isConnected m
    · rw [if_pos hm] at hout ⊢
      exact ⟨hout, edited_of_isConnected hm⟩
    · rw [if_neg hm] at hout ⊢
      exact hout
  · rw [hcount, hany]
    cases (Source.items m).any importsRouter with
    | true => simp
    | false => simp [Nat.add_comm]
  · intro himport
    rw [hcount, hany.mp himport, if_pos rfl, Nat.zero_add]

/-- On a plain file also the text stays as it is in a second run. -/
example :
    let run (code : String) := (addRouter code ⟨"/w/src/main.ts"⟩).toOption
    (run "createApp(App);\n").bind run = run "createApp(App);\n" := by
  decide +kernel

/-- An entry file in which the call stands inside a function. -/
def bootSource : String :=
  "import App from './App.vue';\nexport function boot(el: string) \x7b\n" ++
    "    return createApp(App).mount(el);\n\x7d\n"

/-- The file is read and gives the name of the router to nothing. At its first call that creates the
application the parameter of the function is in scope. -/
theorem exists_read_bootSource :
    ∃ m first, Source.read bootSource ⟨"/w/src/main.ts"⟩ = .ok m ∧
      (Source.items m).any importsRouter = false ∧ (Source.items m).any declaresRouter = false ∧
      (calls m.tree).head? = some first ∧ m.tree.localNames first.1 = ["el"] := by
  have hcheck : (match Source.read bootSource ⟨"/w/src/main.ts"⟩ with
      | .ok m => !(Source.items m).any importsRouter && !(Source.items m).any declaresRouter &&
        (calls m.tree).head?.any fun first ↦ m.tree.localNames first.1 == ["el"]
      | .error _ => false) = true := by
    decide +kernel
  split at hcheck
  · next m hread =>
    simp only [Bool.and_eq_true, Bool.not_eq_true', Option.any_eq_true, beq_iff_eq] at hcheck
    obtain ⟨⟨himport, hdeclared⟩, first, hfirst, hnames⟩ := hcheck
    exact ⟨m, first, hread, himport, hdeclared, hfirst, hnames⟩
  · cases hcheck

theorem exists_addRouter_bootSource : ∃ out, addRouter bootSource ⟨"/w/src/main.ts"⟩ = .ok out := by
  obtain ⟨m, first, hread, himport, hdeclared, hfirst, -⟩ := exists_read_bootSource
  have hcalls : calls m.tree ≠ [] := by
    rintro hnil
    simp [hnil] at hfirst
  rw [addRouter_of_read hread himport, hdeclared, if_neg Bool.false_ne_true, if_neg hcalls]
  exact ⟨_, rfl⟩

/-- For an entry file that creates the application inside a function one step is enough. -/
theorem edited_fixed_point_boot :
    ∃ m out, Source.read bootSource ⟨"/w/src/main.ts"⟩ = .ok m ∧
      addRouter bootSource ⟨"/w/src/main.ts"⟩ = .ok out ∧ isConnected m = false ∧
      out = (edited m).print ∧
      (Source.items (edited m)).countP importsRouter = 1 ∧
      wrap .missing (edited m).tree = (.alreadyWrapped, (edited m).tree) ∧
      edited (edited m) = edited m := by
  obtain ⟨m, -, hread, himport, -⟩ := exists_read_bootSource
  obtain ⟨out, hout⟩ := exists_addRouter_bootSource
  obtain ⟨hprint, -, -, hmore, -, hsearch, hagain⟩ := edited_fixed_point hread hout
  have hconnected : isConnected m = false := by
    rw [isConnected, himport, Bool.false_and]
  have hfree : ¬∃ item ∈ Source.items m, importsRouter item := by
    simpa using himport
  have hnone : (Source.items m).countP importsRouter = 0 := by
    simpa [List.countP_eq_zero] using himport
  rw [hconnected] at hprint
  exact ⟨m, out, hread, hout, hconnected, hprint, by rw [hmore.mpr hfree, hnone], hsearch, hagain⟩

end PageRoutes.EntryFile
