import PageRoutes.Proofs.EntryFile.Search
import PageRoutes.Proofs.Syntax.ModuleScope
/-!
# Other bindings of the router's name

The import of the router is put into an entry file only if the name of the router is free there. The
check for this looks at imports, at functions and classes declared at the top of the module, and at
variables that are declared there by their names alone. It sees no other form of binding. The new
line may therefore stand beside a variable declared by a pattern or inside a statement, beside a
named default export, an enum, a namespace, an import with an equals sign or a declaration with
`using`.

## Main definitions

* `Syntax.Form.isSeen` : the forms of bindings that the check sees.
* `EntryFile.SeesRouter` : the check sees the name of the router among bindings.
* `EntryFile.moduleBindings` : the names that are bound in the scope of a module.

## Main results

* `EntryFile.declaresRouter_iff` : what the check sees of an item.
* `EntryFile.addRouter_of_read` : the outcome for a file without the import of the router.
* `EntryFile.addRouter_beside_binding_iff` : when the check fails, and when it misses a binding.
-/

namespace PageRoutes

/-- Whether the check for the name of the router looks at bindings of a form. -/
def Syntax.Form.isSeen : Form → Bool
  | .specifier | .variable | .function | .class_ => true
  | .importEquals | .pattern | .resource | .enum | .namespace_ | .defaultExport | .hoisted => false

namespace EntryFile

open Syntax Node

/-! ### What the check sees -/

/-- Whether there is a binding of the router's name that the check sees. -/
def SeesRouter (bs : List Binding) : Prop := ∃ b ∈ bs, b.form.isSeen ∧ isRouter b.name

theorem seesRouter_flatMap {α : Type} (f : α → List Binding) (as : List α) :
    SeesRouter (as.flatMap f) ↔ ∃ a ∈ as, SeesRouter (f a) := by
  simp only [SeesRouter, List.mem_flatMap]
  constructor
  · rintro ⟨b, ⟨a, ha, hb⟩, h⟩
    exact ⟨a, ha, b, hb, h⟩
  · rintro ⟨a, ha, b, hb, h⟩
    exact ⟨b, ⟨a, ha, hb⟩, h⟩

/-- All names that are bound in one form are seen, or none is. -/
theorem seesRouter_map (form : Form) (names : List Node) :
    SeesRouter (names.map fun name ↦ ⟨form, name⟩) ↔
      form.isSeen ∧ ∃ name ∈ names, isRouter name := by
  simp only [SeesRouter, List.mem_map]
  constructor
  · rintro ⟨b, ⟨name, hname, rfl⟩, hform, hrouter⟩
    exact ⟨hform, name, hname, hrouter⟩
  · rintro ⟨hform, name, hname, hrouter⟩
    exact ⟨_, ⟨name, hname, rfl⟩, hform, hrouter⟩

theorem bindsRouter_iff (n : Node) : bindsRouter n ↔ SeesRouter (declaratorBindings n) := by
  fun_cases declaratorBindings n with
  | case1 => simp [bindsRouter, SeesRouter, Form.isSeen]
  | case2 span pattern rest hname =>
    have hunseen : bindsRouter (.mk .declarator span (pattern :: rest)) = false := by
      unfold bindsRouter
      split
      · next heq =>
        cases heq
        exact (hname _ _ _ rfl).elim
      · rfl
    simp [hunseen, seesRouter_map, Form.isSeen]
  | case3 =>
    have hunseen : bindsRouter n = false := by
      grind [bindsRouter]
    simp [hunseen, SeesRouter]

theorem isRouterDecl_iff (n : Node) : isRouterDecl n ↔ SeesRouter (statementBindings n) := by
  fun_cases statementBindings n with
  | case1 => simp [isRouterDecl, seesRouter_flatMap, bindsRouter_iff]
  | case2 => simp [isRouterDecl, seesRouter_map, Form.isSeen]
  | case3 | case4 | case5 | case6 => simp [isRouterDecl, SeesRouter, Form.isSeen]
  | case7 =>
    -- What is left binds names by `var` inside a statement at most.
    have hunseen : isRouterDecl n = false := by
      grind [isRouterDecl]
    simp [hunseen, seesRouter_map, Form.isSeen]

/-- A specifier without a local name is not that of the router. -/
theorem isRouter_localName_iff (specifier : Node) :
    isRouter (localName specifier) ↔ ∃ name ∈ specifier.children.getLast?, isRouter name := by
  rw [localName]
  cases specifier.children.getLast? with
  | none => simp [absent, isRouter, nameText?, kind]
  | some name => simp

/-- **What the check sees.** An item declares the router for the check if it binds the name of the
router in a form that the check sees. -/
theorem declaresRouter_iff (item : Node) : declaresRouter item ↔ SeesRouter item.bindings := by
  fun_cases bindings item with
  | case1 isType span span' specifiers rest =>
    have hany :
        declaresRouter (.mk (.importDecl isType) span (.mk .group span' specifiers :: rest)) ↔
        ∃ s ∈ specifiers, isRouter (localName s) := by
      simp [declaresRouter]
    rw [hany, seesRouter_map, and_iff_right (by rfl)]
    simp only [isRouter_localName_iff, List.mem_filterMap]
    grind
  | case2 | case4 | case5 => simp [declaresRouter, isRouterDecl, SeesRouter, Form.isSeen]
  | case3 => simp [declaresRouter, isRouterDecl_iff]
  | case6 =>
    have heq : declaresRouter item = isRouterDecl item := by
      grind [declaresRouter]
    rw [heq, isRouterDecl_iff]

/-! ### The outcome for a file -/

variable {code : String} {file : DiskPath} {m : Module}

/-- The bindings of a module. -/
def moduleBindings (m : Module) : List Binding := (Source.items m).flatMap bindings

theorem any_declaresRouter_iff (m : Module) :
    (Source.items m).any declaresRouter ↔ SeesRouter (moduleBindings m) := by
  rw [moduleBindings, seesRouter_flatMap, List.any_eq_true]
  simp only [declaresRouter_iff]

/-- What becomes of a file that is read and does not import the router. -/
theorem addRouter_of_read (hread : Source.read code file = .ok m)
    (himport : (Source.items m).any importsRouter = false) :
    addRouter code file =
      if (Source.items m).any declaresRouter then .error (.routerBindingConflict file)
      else if calls m.tree = [] then .error (.bootstrapNotFound file)
      else .ok (withImport false { m with tree := (wrap .missing m.tree).2 }).print := by
  rw [addRouter, hread]
  simp only [Except.bind, himport, Bool.not_false, Bool.true_and, wrap_missing]
  refine if_congr Iff.rfl rfl ?_
  cases calls m.tree with
  | nil => rfl
  | cons first later =>
    obtain ⟨p, call⟩ := first
    rw [if_neg (List.cons_ne_nil _ _), List.head?_cons, outcome]
    cases isRouterUse call <;> rfl

/-- **Bindings beside the import.** Take a file that is read and does not import the router. The
conflict is reported if and only if the name of the router is bound in a form that the check sees.
The import is put into the file although the name is bound if and only if the file has a call that
creates the application and the name is bound in other forms only. -/
theorem addRouter_beside_binding_iff (hread : Source.read code file = .ok m)
    (himport : (Source.items m).any importsRouter = false) :
    (addRouter code file = .error (.routerBindingConflict file) ↔
        ∃ b ∈ moduleBindings m, isRouter b.name ∧ b.form.isSeen) ∧
      (addRouter code file =
          .ok (withImport false { m with tree := (wrap .missing m.tree).2 }).print ∧
          (∃ b ∈ moduleBindings m, isRouter b.name) ↔
        calls m.tree ≠ [] ∧ (∃ b ∈ moduleBindings m, isRouter b.name) ∧
          ∀ b ∈ moduleBindings m, isRouter b.name → b.form.isSeen = false) := by
  have hseen := any_declaresRouter_iff m
  rw [addRouter_of_read hread himport]
  cases hdeclares : (Source.items m).any declaresRouter with
  | true =>
    obtain ⟨b, hb, hform, hrouter⟩ := hseen.mp hdeclares
    refine ⟨iff_of_true rfl ⟨b, hb, hrouter, hform⟩, iff_of_false ?_ ?_⟩
    · rintro ⟨hok, -⟩
      cases hok
    · rintro ⟨-, -, hunseen⟩
      simp [hunseen b hb hrouter] at hform
  | false =>
    have hunseen : ∀ b ∈ moduleBindings m, isRouter b.name → b.form.isSeen = false := by
      intro b hb hrouter
      by_contra hform
      simp [hseen.mpr ⟨b, hb, by simpa using hform, hrouter⟩] at hdeclares
    rw [if_neg Bool.false_ne_true]
    refine ⟨iff_of_false ?_ ?_, ?_⟩
    · split <;> simp
    · rintro ⟨b, hb, hrouter, hform⟩
      simp [hunseen b hb hrouter] at hform
    · rw [and_iff_left hunseen]
      refine and_congr_left fun _ ↦ ?_
      split <;> simp_all

/-- An entry file that binds the name of the router in a pattern. -/
def patternSource : String := "const \x7b router \x7d = make();\ncreateApp(App);\n"

theorem exists_read_patternSource :
    ∃ m, Source.read patternSource ⟨"/w/src/main.ts"⟩ = .ok m ∧
      (Source.items m).any importsRouter = false ∧ ∃ b ∈ moduleBindings m, isRouter b.name := by
  have h : (match Source.read patternSource ⟨"/w/src/main.ts"⟩ with
      | .ok m =>
        !(Source.items m).any importsRouter && (moduleBindings m).any fun b ↦ isRouter b.name
      | .error _ => false) = true := by
    decide +kernel
  split at h
  · next m hread =>
    rw [Bool.and_eq_true, Bool.not_eq_true', List.any_eq_true] at h
    exact ⟨m, hread, h⟩
  · cases h

/-- For a binding in a pattern the two equivalences decide between the import and the conflict. -/
theorem addRouter_beside_pattern_iff :
    ∃ m, Source.read patternSource ⟨"/w/src/main.ts"⟩ = .ok m ∧
      (Source.items m).any importsRouter = false ∧
      (addRouter patternSource ⟨"/w/src/main.ts"⟩ =
          .error (.routerBindingConflict ⟨"/w/src/main.ts"⟩) ↔
        ∃ b ∈ moduleBindings m, isRouter b.name ∧ b.form.isSeen) ∧
      (addRouter patternSource ⟨"/w/src/main.ts"⟩ =
          .ok (withImport false { m with tree := (wrap .missing m.tree).2 }).print ∧
          (∃ b ∈ moduleBindings m, isRouter b.name) ↔
        calls m.tree ≠ [] ∧ (∃ b ∈ moduleBindings m, isRouter b.name) ∧
          ∀ b ∈ moduleBindings m, isRouter b.name → b.form.isSeen = false) := by
  obtain ⟨m, hread, himport, -⟩ := exists_read_patternSource
  exact ⟨m, hread, himport, addRouter_beside_binding_iff hread himport⟩

/-- The import is put beside a binding of the same name. -/
theorem addRouter_redeclares_pattern :
    (∃ m, Source.read patternSource ⟨"/w/src/main.ts"⟩ = .ok m ∧
        (Source.items m).any importsRouter = false ∧ ∃ b ∈ moduleBindings m, isRouter b.name) ∧
      addRouter patternSource ⟨"/w/src/main.ts"⟩ =
        .ok ("import router from 'virtual:convention-import-routes';\n" ++
          "const \x7b router \x7d = make();\ncreateApp(App).use(router);\n") := by
  refine ⟨exists_read_patternSource, ?_⟩
  have h : (match addRouter patternSource ⟨"/w/src/main.ts"⟩ with
      | .ok text => text == "import router from 'virtual:convention-import-routes';\n" ++
          "const \x7b router \x7d = make();\ncreateApp(App).use(router);\n"
      | .error _ => false) = true := by
    decide +kernel
  split at h
  · next text htext => rw [htext, beq_iff_eq.mp h]
  · cases h

/-- A variable that is declared by its name alone is seen, and the file gets no text. -/
example :
    let code := "const router = make();\ncreateApp(App);\n"
    (addRouter code ⟨"/w/src/main.ts"⟩).toOption = none := by
  decide +kernel

end EntryFile

end PageRoutes
