import PageRoutes.Proofs.EntryFile.Capture
/-!
# The router at run time

An import of types is gone when a program runs, so it gives the name of the router no value. The
edit of an entry file does not look at this. It adds an import of the router as a value, but only if
there is no import of the router at all; where all imports of it are imports of types it adds none.

The use of the router that the edit writes has the name of the router as its argument. A use that is
there already is taken as it is, also if it spreads the router out instead of passing it.

## Main definitions

* `EntryFile.importsValue` : imports of the router that are there at run time.
* `EntryFile.passesName` : uses whose argument is the name of the router.

## Main results

* `EntryFile.exists_importsValue_edited_iff` : when an edited module imports the router as a value.
* `EntryFile.passesName_wrap_iff` : when the use of the router passes its name.
* `EntryFile.value_and_name_iff` : both for the module that becomes of a file.
-/

namespace PageRoutes.EntryFile

open Syntax Node

/-! ### Imports of values -/

/-- Whether an item is an import of types. -/
def isTypeImport (item : Node) : Bool :=
  match item.kind with
  | .importDecl isType => isType
  | _ => false

/-- Whether an item imports the router as a value from the routes module. -/
def importsValue (item : Node) : Bool := importsRouter item && !isTypeImport item

/-- Whether an item imports the router as a value does not change in a search. -/
theorem importsValue_wrap_eq (state : Bootstrap) (n : Node) :
    importsValue (wrap state n).2 = importsValue n := by
  rw [importsValue, importsValue, importsRouter_wrap_eq, isTypeImport, isTypeImport, kind_wrap]

theorem exists_importsValue_wrapAll_iff (state : Bootstrap) (parts : List Node) :
    (∃ item ∈ (wrapAll state parts).2, importsValue item) ↔ ∃ item ∈ parts, importsValue item := by
  rw [← List.countP_pos_iff, ← List.countP_pos_iff, countP_wrapAll importsValue_wrap_eq]

/-- **Imports of values.** An edited module imports the router as a value if the module does so, or
if it does not import the router in any way. -/
theorem exists_importsValue_edited_iff {m : Module} (hkind : m.tree.kind ≠ .call) :
    (∃ item ∈ Source.items (edited m), importsValue item) ↔
      ((∃ item ∈ Source.items m, importsRouter item) →
        ∃ item ∈ Source.items m, importsValue item) := by
  rw [items_edited hkind, ← List.any_eq_true (p := importsRouter)]
  cases himport : (Source.items m).any importsRouter with
  | true =>
    rw [if_pos rfl, List.nil_append, exists_importsValue_wrapAll_iff]
    exact ⟨fun h _ ↦ h, fun h ↦ h rfl⟩
  | false =>
    rw [if_neg Bool.false_ne_true]
    refine iff_of_true ⟨routerImport, List.mem_cons_self, by decide⟩ ?_
    exact fun h ↦ (Bool.false_ne_true h).elim

/-! ### Arguments -/

/-- Whether the argument of a use of the router is its name alone. -/
def passesName (use : Node) : Bool := isName routerName ((use.child 1).child 0)

/-- The use of the router that is put behind a call passes the router. -/
theorem passesName_useRouter (call : Node) : passesName (useRouter call) := rfl

/-- A use of the router that does not pass it spreads it out. -/
theorem kind_argument_of_not_passesName {use : Node} (h : isRouterUse use)
    (hname : passesName use = false) : ((use.child 1).child 0).kind = .spread := by
  obtain ⟨_, _, _, _, _, rfl, _ | _⟩ := exists_argument h
  · cases hname
  · rfl

/-- **Arguments.** The use of the router that a search makes of a call passes its name, unless the
call is a use that does not. -/
theorem passesName_wrap_iff {call : Node} (h : isCall call) :
    passesName (wrap .missing call).2 ↔ (isRouterUse call → passesName call) := by
  rw [wrap_of_isCall h]
  split
  · next hrouter => exact ⟨fun hname _ ↦ hname, fun hname ↦ hname hrouter⟩
  · next hrouter => exact iff_of_true (passesName_useRouter call) fun huse ↦ absurd huse hrouter

/-! ### What becomes of a file -/

/-- **The first use.** A file that gets a text has a first call that creates the application. The
first call of the edited module is what a search makes of it, and the text is that of the edited
module, or the module is its own edit and the text stays. -/
theorem exists_first_use {code out : String} {file : DiskPath}
    (h : addRouter code file = .ok out) :
    ∃ m shebang p call, Source.read code file = .ok m ∧ m.tree.kind = .module shebang ∧
      (if isConnected m then out = code ∧ edited m = m else out = (edited m).print) ∧
      (calls m.tree).head? = some (p, call) ∧ isCall call ∧
      (calls (edited m).tree).head? = some (shifted (addedItems m) p, (wrap .missing call).2) := by
  obtain ⟨m, hread, hmet, hout⟩ := exists_of_addRouter h
  obtain ⟨shebang, hkind⟩ := kind_of_read hread
  cases hfirst : (calls m.tree).head? with
  | none => simp [wrap_missing, hfirst, outcome] at hmet
  | some first =>
    obtain ⟨p, call⟩ := first
    refine ⟨m, shebang, p, call, hread, hkind, ?_, hfirst,
      (List.mem_filter.mp (List.mem_of_mem_head? hfirst)).2, head?_calls_edited hkind hfirst⟩
    by_cases hm : isConnected m
    · rw [if_pos hm] at hout ⊢
      exact ⟨hout, edited_of_isConnected hm⟩
    · rw [if_neg hm] at hout ⊢
      exact hout

/-- **Values and names.** Let a file get a text. The text is that of the edited module, or the
module is its own edit and the text stays. The edited module imports the router as a value if and
only if the file does so or does not import the router at all. Its first call that creates the
application stands where the first call of the file stands, behind the import if that is added, and
uses the router. The argument of this use is the name of the router alone if and only if the first
call of the file is a bare one or a use with this argument. -/
theorem value_and_name_iff {code out : String} {file : DiskPath}
    (h : addRouter code file = .ok out) :
    ∃ m p call use, Source.read code file = .ok m ∧
      (if isConnected m then out = code ∧ edited m = m else out = (edited m).print) ∧
      ((∃ item ∈ Source.items (edited m), importsValue item) ↔
        ((∃ item ∈ Source.items m, importsRouter item) →
          ∃ item ∈ Source.items m, importsValue item)) ∧
      (calls m.tree).head? = some (p, call) ∧
      (calls (edited m).tree).head? = some (shifted (addedItems m) p, use) ∧ isRouterUse use ∧
      (passesName use ↔ (isRouterUse call → passesName call)) ∧
      (passesName use = false → ((use.child 1).child 0).kind = .spread) := by
  obtain ⟨m, shebang, p, call, hread, hkind, hout, hfirst, hcall, hnew⟩ := exists_first_use h
  have huse := isRouterUse_wrap hcall
  exact ⟨m, p, call, _, hread, hout, exists_importsValue_edited_iff (by simp [hkind]), hfirst, hnew,
    huse, passesName_wrap_iff hcall, kind_argument_of_not_passesName huse⟩

/-- An entry file that imports the router for its type and as a value, and creates the application
without it. -/
def typedSource : String :=
  "import type router from 'virtual:convention-import-routes';\n" ++
    "import router, \x7b Route \x7d from 'virtual:convention-import-routes';\n" ++
    "export const app = createApp(App, \x7b\x7d);\n"

/-- In a file with an import of the value beside one of the type, the use that is written gets the
value by its name. -/
theorem value_and_name_typed :
    ∃ m out p use, Source.read typedSource ⟨"/w/src/main.ts"⟩ = .ok m ∧
      addRouter typedSource ⟨"/w/src/main.ts"⟩ = .ok out ∧
      (∃ item ∈ Source.items (edited m), importsValue item) ∧
      (calls (edited m).tree).head? = some (p, use) ∧ isRouterUse use ∧ passesName use := by
  have hcheck : (Source.read typedSource ⟨"/w/src/main.ts"⟩).toOption.any (fun m ↦
      (addRouter typedSource ⟨"/w/src/main.ts"⟩).toOption.isSome &&
        (Source.items m).any importsValue &&
        (calls m.tree).head?.any fun first ↦ !isRouterUse first.2) := by
    decide +kernel
  obtain ⟨m, hread, hm⟩ := (Option.any_eq_true _ _).mp hcheck
  simp only [Bool.and_eq_true, List.any_eq_true] at hm
  obtain ⟨⟨hok, hthere⟩, hbare⟩ := hm
  obtain ⟨out, hrun⟩ := Option.isSome_iff_exists.mp hok
  obtain ⟨m', p, call, use, hread', -, hvalue, hfirst, hnew, huse, hname, -⟩ :=
    value_and_name_iff (eq_ok_of_toOption hrun)
  obtain rfl := Except.ok.inj ((eq_ok_of_toOption hread).symm.trans hread')
  rw [hfirst, Option.any_some, Bool.not_eq_true'] at hbare
  exact ⟨m, out, _, use, hread', eq_ok_of_toOption hrun, hvalue.mpr fun _ ↦ hthere, hnew, huse,
    hname.mpr fun hrouter ↦ absurd hrouter (by simp [hbare])⟩

/-- An entry file that imports the router for its type only. -/
def typeSource : String :=
  "import type router from 'virtual:convention-import-routes';\ncreateApp(App);\n"

/-- An entry file that spreads the router out instead of passing it. -/
def spreadSource : String := "createApp(App).use(...router);\n"

/-- A text in which the name of the router has no value at run time, and one in which the router is
not passed to the application. -/
theorem exists_router_without_value :
    (∃ m, Source.read typeSource ⟨"/w/src/main.ts"⟩ = .ok m ∧
        addRouter typeSource ⟨"/w/src/main.ts"⟩ =
          .ok ("import type router from 'virtual:convention-import-routes';\n" ++
            "createApp(App).use(router);\n") ∧
        ¬∃ item ∈ Source.items (edited m), importsValue item) ∧
      ∃ m p use, Source.read spreadSource ⟨"/w/src/main.ts"⟩ = .ok m ∧
        addRouter spreadSource ⟨"/w/src/main.ts"⟩ =
          .ok ("import router from 'virtual:convention-import-routes';\n" ++
            "createApp(App).use(...router);\n") ∧
        (calls (edited m).tree).head? = some (p, use) ∧ isRouterUse use ∧
        passesName use = false ∧ ((use.child 1).child 0).kind = .spread := by
  constructor
  · have hrun : ((Source.read typeSource ⟨"/w/src/main.ts"⟩).toOption.map fun m ↦
        ((addRouter typeSource ⟨"/w/src/main.ts"⟩).toOption,
          (Source.items (edited m)).any importsValue)) =
        some (some ("import type router from 'virtual:convention-import-routes';\n" ++
          "createApp(App).use(router);\n"), false) := by
      decide +kernel
    obtain ⟨m, hread, heq⟩ := Option.map_eq_some_iff.mp hrun
    obtain ⟨hout, hvalue⟩ := Prod.mk.inj heq
    exact ⟨m, eq_ok_of_toOption hread, eq_ok_of_toOption hout,
      fun h ↦ Bool.false_ne_true (hvalue.symm.trans (List.any_eq_true.mpr h))⟩
  · have hrun : ((Source.read spreadSource ⟨"/w/src/main.ts"⟩).toOption.map fun m ↦
        ((addRouter spreadSource ⟨"/w/src/main.ts"⟩).toOption,
          (calls (edited m).tree).head?.map fun first ↦
            isRouterUse first.2 && !passesName first.2)) =
        some (some ("import router from 'virtual:convention-import-routes';\n" ++
          "createApp(App).use(...router);\n"), some true) := by
      decide +kernel
    obtain ⟨m, hread, heq⟩ := Option.map_eq_some_iff.mp hrun
    obtain ⟨hout, hfirst⟩ := Prod.mk.inj heq
    obtain ⟨⟨p, use⟩, hnew, huse⟩ := Option.map_eq_some_iff.mp hfirst
    rw [Bool.and_eq_true, Bool.not_eq_true'] at huse
    exact ⟨m, p, use, eq_ok_of_toOption hread, eq_ok_of_toOption hout, hnew, huse.1, huse.2,
      kind_argument_of_not_passesName huse.1 huse.2⟩

end PageRoutes.EntryFile
