import PageRoutes.Proofs.EntryFile.ValueImport
/-!
# Imports of the default export

The routes module gives the router as its default export. There are two forms of import for it: a
default specifier, and a specifier in braces that renames `default`, written as a word or as a
string. The check for the import of the router knows the first form only, while the check for other
uses of the name sees both. So a file that takes the router in braces is refused, as if its router
came from elsewhere, unless it takes it by a default specifier as well.

## Main definitions

* `EntryFile.RouterOrigin` : what the name of the router can stand for.
* `EntryFile.routerOrigins` : what it stands for in a module.

## Main results

* `EntryFile.declaresRouter_iff_origins`, `EntryFile.importsRouter_iff_origins` : both checks of an
  item, by the origins of the name.
* `EntryFile.conflict_iff_origins` : when a file is refused because of the name.
-/

namespace PageRoutes.EntryFile

open Syntax Node

/-- What the name of the router stands for at the top of a module. -/
inductive RouterOrigin where
  /-- The default export of the routes module, by a default specifier. -/
  | plainDefault
  /-- The default export of the routes module, by a specifier in braces. -/
  | bracedDefault
  /-- Anything else. -/
  | other
  deriving DecidableEq, Repr

/-! ### Specifiers -/

/-- Whether an imported name is that of the default export. -/
def namesDefault (imported : Node) : Bool :=
  match imported.kind with
  | .name text _ => text == "default"
  | .stringLit value _ => value == "default"
  | _ => false

/-- Whether a specifier in braces imports the default of a module as the router. -/
def renamesDefault (specifier : Node) : Bool :=
  match specifier.kind, specifier.children with
  | .importNamed _, [imported, name] => namesDefault imported && isRouter name
  | _, _ => false

/-- What the name of the router stands for by a specifier, if it is the local name. -/
def specifierOrigin? (fromRoutes : Bool) (specifier : Node) : Option RouterOrigin :=
  if !isRouter (localName specifier) then none
  else if fromRoutes && importsDefault specifier then some .plainDefault
  else if fromRoutes && renamesDefault specifier then some .bracedDefault
  else some .other

/-- The local name of a default specifier is its only name. -/
theorem isRouter_localName_of_importsDefault {specifier : Node} (h : importsDefault specifier) :
    isRouter (localName specifier) := by
  obtain ⟨-, name, hchildren, hname⟩ := importsDefault_iff.mp h
  rwa [localName, hchildren]

theorem specifierOrigin?_eq_none_iff {fromRoutes : Bool} {specifier : Node} :
    specifierOrigin? fromRoutes specifier = none ↔ isRouter (localName specifier) = false := by
  rw [specifierOrigin?]
  split
  · next h => simpa using h
  · next h =>
    refine iff_of_false ?_ (by simpa using h)
    split
    · exact Option.some_ne_none _
    · split <;> exact Option.some_ne_none _

theorem specifierOrigin?_eq_plainDefault_iff {fromRoutes : Bool} {specifier : Node} :
    specifierOrigin? fromRoutes specifier = some .plainDefault ↔
      fromRoutes ∧ importsDefault specifier := by
  rw [specifierOrigin?]
  constructor
  · intro h
    split at h
    · cases h
    · split at h
      · next hdefault => simpa using hdefault
      · split at h <;> cases h
  · rintro ⟨hroutes, hdefault⟩
    simp [hroutes, hdefault, isRouter_localName_of_importsDefault hdefault]

/-! ### Items -/

/-- Whether an item is an import from the routes module. -/
def isRoutesImport : Node → Bool
  | .mk (.importDecl _) _ [.mk .group _ _, .mk (.stringLit source _) _ _, _] =>
    source == routesModuleId
  | _ => false

/-- The specifiers of an import. -/
def specifiersOf : Node → List Node
  | .mk (.importDecl _) _ (.mk .group _ specifiers :: _) => specifiers
  | _ => []

/-- What the name of the router stands for by an item, once for each time that the item gives it. -/
def itemOrigins (item : Node) : List RouterOrigin :=
  match item.kind with
  | .importDecl _ => (specifiersOf item).filterMap (specifierOrigin? (isRoutesImport item))
  | _ => if declaresRouter item then [.other] else []

theorem declaresRouter_import_iff {item : Node} {isType : Bool}
    (hkind : item.kind = .importDecl isType) :
    declaresRouter item ↔ ∃ s ∈ specifiersOf item, isRouter (localName s) := by
  obtain ⟨kind, span, parts⟩ := item
  obtain rfl : kind = .importDecl isType := hkind
  unfold declaresRouter specifiersOf
  split
  · next heq =>
    cases heq
    simp
  · next heq => cases heq
  · next hgroup _ =>
    split
    · next heq =>
      cases heq
      exact (hgroup _ _ _ _ _ rfl).elim
    · simp [isRouterDecl]

theorem importsRouter_eq_specifiers (item : Node) :
    importsRouter item ↔ isRoutesImport item ∧ ∃ s ∈ specifiersOf item, importsDefault s := by
  unfold isRoutesImport
  split
  · simp [importsRouter, specifiersOf]
  · next hshape =>
    refine iff_of_false (fun h ↦ ?_) (by simp)
    obtain ⟨kind, span, parts⟩ := item
    obtain ⟨⟨isType, hkind⟩, ⟨_, _, specifiers⟩, ⟨_, _, _⟩, attributes, hparts, hgroup,
      ⟨raw, hsource⟩, -⟩ := importsRouter_iff.mp h
    simp only [Node.kind, children] at hkind hparts hgroup hsource
    subst hkind hparts hgroup hsource
    exact hshape _ _ _ _ _ _ _ _ _ rfl

/-- **Declared names.** An item declares the router for the check if it gives the name to anything.
-/
theorem declaresRouter_iff_origins (item : Node) : declaresRouter item ↔ itemOrigins item ≠ [] := by
  rw [itemOrigins]
  split
  · next isType hkind =>
    rw [declaresRouter_import_iff hkind, Ne, List.filterMap_eq_nil_iff]
    simp [specifierOrigin?_eq_none_iff]
  · cases declaresRouter item <;> simp

/-- **Known imports.** An item imports the router for the check if it does so by a default
specifier.
-/
theorem importsRouter_iff_origins (item : Node) :
    importsRouter item ↔ .plainDefault ∈ itemOrigins item := by
  rw [importsRouter_eq_specifiers, itemOrigins]
  split
  · simp only [List.mem_filterMap, specifierOrigin?_eq_plainDefault_iff]
    grind
  · next hkind =>
    refine iff_of_false ?_ (by split <;> simp)
    rintro ⟨-, s, hs, -⟩
    unfold specifiersOf at hs
    split at hs
    · exact hkind _ rfl
    · cases hs

/-! ### Files -/

/-- What the name of the router stands for at the top of a module. -/
def routerOrigins (m : Module) : List RouterOrigin := (Source.items m).flatMap itemOrigins

theorem any_declaresRouter_iff_origins (m : Module) :
    (Source.items m).any declaresRouter ↔ routerOrigins m ≠ [] := by
  rw [routerOrigins, Ne, List.flatMap_eq_nil_iff, List.any_eq_true]
  simp [declaresRouter_iff_origins]

theorem any_importsRouter_iff_origins (m : Module) :
    (Source.items m).any importsRouter ↔ .plainDefault ∈ routerOrigins m := by
  rw [routerOrigins, List.mem_flatMap, List.any_eq_true]
  simp only [importsRouter_iff_origins]

variable {code : String} {file : DiskPath}

/-- A file that cannot be read is not refused because of a name. -/
theorem read_ne_conflict (f : DiskPath) :
    Source.read code file ≠ .error (.routerBindingConflict f) := by
  rw [Source.read]
  cases Module.ofText Source.fileDialect false 1 code <;> simp [Except.mapError, Source.faultIn]

/-- A file that is read is refused because of the name of the router if something in it has the name
and no default specifier brings it from the routes module. -/
theorem conflict_iff_of_read {m : Module} (hread : Source.read code file = .ok m) (f : DiskPath) :
    addRouter code file = .error (.routerBindingConflict f) ↔
      f = file ∧ routerOrigins m ≠ [] ∧ .plainDefault ∉ routerOrigins m := by
  rw [← any_declaresRouter_iff_origins, ← any_importsRouter_iff_origins, addRouter, hread]
  simp only [Except.bind]
  cases himport : (Source.items m).any importsRouter with
  | true => cases (wrap .missing m.tree).1 <;> simp
  | false =>
    cases hdeclares : (Source.items m).any declaresRouter with
    | true => simp [eq_comm]
    | false => cases (wrap .missing m.tree).1 <;> simp

/-- **Refused names.** A file is refused because of the name of the router if and only if it is read
as a module in which something has the name, but nothing by a default specifier of an import from
the routes module. Where the name stands for the default export of the routes module only, the file
is refused if and only if there is an import of it and all such imports have it in braces. -/
theorem conflict_iff_origins (code : String) (file : DiskPath) :
    (∀ f, addRouter code file = .error (.routerBindingConflict f) ↔
      f = file ∧ ∃ m, Source.read code file = .ok m ∧ routerOrigins m ≠ [] ∧
        .plainDefault ∉ routerOrigins m) ∧
      ∀ m, Source.read code file = .ok m → .other ∉ routerOrigins m →
        (addRouter code file = .error (.routerBindingConflict file) ↔
          routerOrigins m ≠ [] ∧ ∀ origin ∈ routerOrigins m, origin = .bracedDefault) := by
  constructor
  · intro f
    cases hread : Source.read code file with
    | error fault =>
      have hfault : fault ≠ .routerBindingConflict f := fun h ↦ read_ne_conflict f (h ▸ hread)
      simpa [addRouter, hread, Except.bind] using fun h ↦ (hfault h).elim
    | ok m => simpa using conflict_iff_of_read hread f
  · intro m hread hother
    rw [conflict_iff_of_read hread]
    simp only [true_and]
    refine and_congr_right fun _ ↦ ⟨fun hplain origin horigin ↦ ?_, fun hbraced hplain ↦ ?_⟩
    · cases origin with
      | plainDefault => exact (hplain horigin).elim
      | bracedDefault => rfl
      | other => exact (hother horigin).elim
    · cases hbraced _ hplain

/-- An entry file that takes the router from the routes module in braces, where the name of the
default export is a string, beside another name for it. -/
def quotedSource : String :=
  "import routes, \x7b \x22default\x22 as router \x7d from 'virtual:convention-import-routes';\n" ++
    "createApp(App);\n"

/-- In a file that takes the router in braces only, the name stands for nothing but the default
export, and this is why the file is refused. -/
theorem conflict_iff_origins_quoted :
    ∃ m, Source.read quotedSource ⟨"/w/src/main.ts"⟩ = .ok m ∧ .other ∉ routerOrigins m ∧
      addRouter quotedSource ⟨"/w/src/main.ts"⟩ =
        .error (.routerBindingConflict ⟨"/w/src/main.ts"⟩) := by
  have horigins : (Source.read quotedSource ⟨"/w/src/main.ts"⟩).toOption.map routerOrigins =
      some [.bracedDefault] := by
    decide +kernel
  obtain ⟨m, hread, horigins⟩ := Option.map_eq_some_iff.mp horigins
  have hread := eq_ok_of_toOption hread
  have hother : .other ∉ routerOrigins m := by simp [horigins]
  refine ⟨m, hread, hother, ?_⟩
  refine ((conflict_iff_origins quotedSource ⟨"/w/src/main.ts"⟩).2 m hread hother).mpr ?_
  simp [horigins]

/-- An entry file that takes the router from the routes module in braces. -/
def bracedSource : String :=
  "import \x7b default as router \x7d from 'virtual:convention-import-routes';\ncreateApp(App);\n"

/-- A file whose only use of the name is for the default export of the routes module, and which is
refused as one that has the name for something else. -/
theorem exists_default_import_refused :
    ∃ m, Source.read bracedSource ⟨"/w/src/main.ts"⟩ = .ok m ∧
      (moduleBindings m).map (fun b ↦ (b.form, b.name.nameText?)) =
        [(.specifier, some routerName)] ∧
      routerOrigins m = [.bracedDefault] ∧
      addRouter bracedSource ⟨"/w/src/main.ts"⟩ =
        .error (.routerBindingConflict ⟨"/w/src/main.ts"⟩) := by
  have hcheck : ((Source.read bracedSource ⟨"/w/src/main.ts"⟩).toOption.map fun m ↦
      ((moduleBindings m).map (fun b ↦ (b.form, b.name.nameText?)), routerOrigins m)) =
      some ([(.specifier, some routerName)], [.bracedDefault]) := by
    decide +kernel
  obtain ⟨m, hread, hm⟩ := Option.map_eq_some_iff.mp hcheck
  obtain ⟨hbindings, horigins⟩ := Prod.mk.inj hm
  have hread := eq_ok_of_toOption hread
  exact ⟨m, hread, hbindings, horigins,
    (conflict_iff_of_read hread _).mpr ⟨rfl, by simp [horigins], by simp [horigins]⟩⟩

end PageRoutes.EntryFile
