import PageRoutes.Proofs.EntryFile.SecondSearch
/-!
# Running twice

An entry file gets a text in which the router is imported and the first call that creates the
application uses it. If this text is read again as the tree that was printed, a second run finds
both, the import and the use of the router, and gives the text back as it is.

The text need not be read as that tree, and then it may not be accepted at all. An export with an
equals sign is printed without a semicolon, so that the line behind it can go on with the
expression.

## Main definitions

* `EntryFile.isConnected` : modules that import the router and use it in the first call.
* `EntryFile.edited` : the module that is printed.
* `EntryFile.ReadsBack` : modules that are printed as texts from which they are read.

## Main results

* `EntryFile.isConnected_iff` : connected modules, by the first call in them.
* `EntryFile.isConnected_edited` : edited modules are connected.
* `EntryFile.addRouter_addRouter` : when running twice is the same as running once.
-/

namespace PageRoutes.EntryFile

open Syntax Node

/-! ### Imports and ranges -/

/-- A specifier of the router, by the kinds of the nodes that it is made of. -/
theorem importsDefault_iff {n : Node} :
    importsDefault n ↔ n.kind = .importDefault ∧ ∃ name, n.children = [name] ∧ isRouter name := by
  obtain ⟨kind, span, parts⟩ := n
  constructor
  · intro h
    unfold importsDefault at h
    split at h
    · next heq =>
      cases heq
      exact ⟨rfl, _, rfl, h⟩
    · cases h
  · rintro ⟨rfl, name, rfl, hname⟩
    exact hname

/-- An import of the router, by the kinds of the nodes that it is made of. -/
theorem importsRouter_iff {n : Node} :
    importsRouter n ↔ (∃ isType, n.kind = .importDecl isType) ∧ ∃ specifiers source attributes,
      n.children = [specifiers, source, attributes] ∧ specifiers.kind = .group ∧
        (∃ raw, source.kind = .stringLit routesModuleId raw) ∧
        ∃ s ∈ specifiers.children, importsDefault s := by
  obtain ⟨kind, span, parts⟩ := n
  constructor
  · intro h
    unfold importsRouter at h
    split at h
    · next heq =>
      cases heq
      simp only [Bool.and_eq_true, beq_iff_eq, List.any_eq_true] at h
      obtain ⟨rfl, hdefault⟩ := h
      exact ⟨⟨_, rfl⟩, _, _, _, rfl, rfl, ⟨_, rfl⟩, hdefault⟩
    · cases h
  · rintro ⟨⟨isType, rfl⟩, ⟨_, _, specifiers⟩, ⟨_, _, _⟩, attributes, rfl, rfl, ⟨raw, rfl⟩,
      hdefault⟩
    simpa [importsRouter, children] using hdefault

@[simp] theorem importsDefault_withoutSpans (n : Node) :
    importsDefault n.withoutSpans = importsDefault n := by
  rw [Bool.eq_iff_iff, importsDefault_iff, importsDefault_iff, kind_withoutSpans,
    children_withoutSpans]
  simp [List.map_eq_singleton_iff, isRouter]

@[simp] theorem importsRouter_withoutSpans (n : Node) :
    importsRouter n.withoutSpans = importsRouter n := by
  rw [Bool.eq_iff_iff, importsRouter_iff, importsRouter_iff, kind_withoutSpans,
    children_withoutSpans]
  refine and_congr_right fun _ ↦ ⟨?_, ?_⟩
  · rintro ⟨_, _, _, hparts, hgroup, hsource, hdefault⟩
    simp only [List.map_eq_cons_iff, List.map_eq_nil_iff] at hparts
    obtain ⟨specifiers, _, hparts, rfl, source, _, rfl, rfl, attributes, _, rfl, rfl, rfl⟩ := hparts
    exact ⟨specifiers, source, attributes, hparts, by simpa using hgroup, by simpa using hsource,
      by simpa using hdefault⟩
  · rintro ⟨specifiers, source, attributes, hparts, hgroup, hsource, hdefault⟩
    exact ⟨_, _, _, by rw [hparts]; rfl, by simpa using hgroup, by simpa using hsource,
      by simpa using hdefault⟩

/-! ### Modules that use the router -/

/-- Whether a module imports the router and the first call that creates the application uses it. -/
def isConnected (m : Module) : Bool :=
  (Source.items m).any importsRouter && (wrap .missing m.tree).1 = .alreadyWrapped

/-- A module is connected if one of its items imports the router and the first call in it that
creates the application is one with the use of the router. -/
theorem isConnected_iff {m : Module} :
    isConnected m ↔ (∃ item ∈ Source.items m, importsRouter item) ∧
      ∃ p call later, calls m.tree = (p, call) :: later ∧ isRouterUse call := by
  rw [isConnected, Bool.and_eq_true, List.any_eq_true, decide_eq_true_eq, wrap_missing]
  refine and_congr_right fun _ ↦ ?_
  cases calls m.tree with
  | nil => simp [outcome]
  | cons first later =>
    obtain ⟨p, call⟩ := first
    cases hrouter : isRouterUse call <;> simp [outcome, hrouter]

/-- The module that is printed for a module: the router is imported, and the first call that creates
the application uses it. -/
def edited (m : Module) : Module :=
  withImport ((Source.items m).any importsRouter) { m with tree := (wrap .missing m.tree).2 }

/-- Whether the text of a module is read as that module again, with other ranges of its nodes. -/
def ReadsBack (m : Module) (file : DiskPath) : Prop :=
  ∃ again, Source.read m.print file = .ok again ∧ again.tree.withoutSpans = m.tree.withoutSpans

instance (m : Module) (file : DiskPath) : Decidable (ReadsBack m file) :=
  match h : Source.read m.print file with
  | .error _ => isFalse (by simp [ReadsBack, h])
  | .ok again =>
    decidable_of_iff (again.tree.withoutSpans = m.tree.withoutSpans) (by simp [ReadsBack, h])

/-- Whether a module is connected does not depend on the ranges of its nodes. -/
theorem isConnected_congr {a b : Module} (h : a.tree.withoutSpans = b.tree.withoutSpans) :
    isConnected a = isConnected b := by
  have hsearch (m : Module) :
      (wrap .missing m.tree).1 = (wrap .missing m.tree.withoutSpans).1 := by
    rw [wrap_withoutSpans]
  have hitems (m : Module) : (Source.items m).any importsRouter =
      m.tree.withoutSpans.children.any importsRouter := by
    simp [Source.items, List.any_map, Function.comp_def]
  rw [isConnected, isConnected, hitems, hitems, hsearch, hsearch, h]

/-- The text of a connected module does not change. -/
theorem addRouter_of_isConnected {code : String} {file : DiskPath} {m : Module}
    (hread : Source.read code file = .ok m) (h : isConnected m) :
    addRouter code file = .ok code := by
  rw [isConnected, Bool.and_eq_true, decide_eq_true_eq] at h
  obtain ⟨himport, hstate⟩ := h
  rw [addRouter, hread]
  simp [Except.bind, himport, hstate]

/-- A search goes through every part, in some state. -/
theorem exists_wrap_mem (state : Bootstrap) {parts : List Node} {n : Node} (h : n ∈ parts) :
    ∃ state', (wrap state' n).2 ∈ (wrapAll state parts).2 := by
  induction parts generalizing state with
  | nil => cases h
  | cons first rest ih =>
    rw [wrapAll_cons]
    rcases List.mem_cons.mp h with rfl | hrest
    · exact ⟨state, List.mem_cons_self⟩
    · obtain ⟨state', hmem⟩ := ih (wrap state first).1 hrest
      exact ⟨state', List.mem_cons_of_mem _ hmem⟩

/-- A search keeps the specifiers of the router. -/
theorem importsDefault_wrap (state : Bootstrap) {n : Node} (h : importsDefault n) :
    importsDefault (wrap state n).2 := by
  obtain ⟨hkind, name, hname, hrouter⟩ := importsDefault_iff.mp h
  refine importsDefault_iff.mpr ⟨by rw [kind_wrap, hkind], (wrap state name).2, ?_, ?_⟩
  · rw [children_wrap (by simp [hkind]), hname]
    rfl
  · rwa [isRouter, nameText?, kind_wrap]

/-- A search keeps the imports of the router. -/
theorem importsRouter_wrap (state : Bootstrap) {n : Node} (h : importsRouter n) :
    importsRouter (wrap state n).2 := by
  obtain ⟨⟨isType, hkind⟩, specifiers, source, attributes, hparts, hgroup, ⟨raw, hsource⟩,
    specifier, hmem, hdefault⟩ := importsRouter_iff.mp h
  refine importsRouter_iff.mpr ⟨⟨isType, by rw [kind_wrap, hkind]⟩, _, _, _,
    (by rw [children_wrap (by simp [hkind]), hparts]; rfl), by rw [kind_wrap, hgroup],
    ⟨raw, by rw [kind_wrap, hsource]⟩, ?_⟩
  rw [children_wrap (by simp [hgroup])]
  obtain ⟨state', hmem'⟩ := exists_wrap_mem _ hmem
  exact ⟨_, hmem', importsDefault_wrap state' hdefault⟩

/-- The import of the router does not hide a call from the search. -/
theorem wrap_routerImport {n : Node} (hkind : n.kind ≠ .call) (span : Span) :
    (wrap .missing (.mk n.kind span (routerImport :: n.children))).1 = (wrap .missing n).1 := by
  have hroot (n : Node) (h : n.kind ≠ .call) :
      (wrap .missing n).1 = (wrapAll .missing n.children).1 := by
    rw [wrap_of_not_isCall (by simpa using fun hcall ↦ h (kind_eq_of_isCall hcall))]
  have himport : wrap .missing routerImport = (.missing, routerImport) := rfl
  rw [hroot n hkind, hroot (.mk n.kind span _) hkind, children, wrapAll_cons, himport]

/-- **Edited modules are connected.** -/
theorem isConnected_edited {m : Module} (hkind : m.tree.kind ≠ .call)
    (hmet : (wrap .missing m.tree).1 ≠ .missing) : isConnected (edited m) := by
  have hagain := congrArg Prod.fst (wrap_wrap m.tree hmet)
  rw [isConnected, Bool.and_eq_true, decide_eq_true_eq]
  cases himport : (Source.items m).any importsRouter with
  | true =>
    rw [edited, himport]
    refine ⟨?_, hagain⟩
    obtain ⟨item, hmem, hrouter⟩ := List.any_eq_true.mp himport
    obtain ⟨state, hmem'⟩ := exists_wrap_mem .missing hmem
    refine List.any_eq_true.mpr ⟨_, ?_, importsRouter_wrap state hrouter⟩
    rwa [Source.items, ← children_wrap hkind] at hmem'
  | false =>
    rw [edited, himport]
    refine ⟨List.any_eq_true.mpr ⟨routerImport, List.mem_cons_self, by decide⟩, ?_⟩
    exact (wrap_routerImport (by rwa [kind_wrap]) _).trans hagain

/-! ### Running twice -/

/-- What two steps one after the other give, the second one gives in some state. -/
theorem exists_of_bind_ok {α β : Type} {first : Parse α} {next : α → Parse β} {grammar : Grammar}
    {s t : ParseState} {b : β} (h : (first >>= next) grammar s = .ok b t) :
    ∃ a r, next a grammar r = .ok b t := by
  change (EStateM.bind (first grammar) fun a ↦ next a grammar) s = .ok b t at h
  rw [EStateM.bind] at h
  split at h
  · next a r _ => exact ⟨a, r, h⟩
  · cases h

/-- What is read as the items of a module is a module. -/
theorem kind_of_moduleItems {grammar : Grammar} {s t : ParseState} {n : Node}
    (h : moduleItems grammar s = .ok n t) : ∃ shebang, n.kind = .module shebang := by
  have hrest (shebang : Option String) {s : ParseState} {items : Parse (List Node)} {start : Nat}
      (h : (items >>= nodeFrom start (.module shebang)) grammar s = .ok n t) :
      ∃ shebang, n.kind = .module shebang := by
    obtain ⟨nodes, s, h⟩ := exists_of_bind_ok h
    obtain ⟨span, s, h⟩ := exists_of_bind_ok h
    cases h
    exact ⟨shebang, rfl⟩
  obtain ⟨start, s, h⟩ := exists_of_bind_ok h
  obtain ⟨first, s, h⟩ := exists_of_bind_ok h
  dsimp only at h
  split at h
  · obtain ⟨-, s, h⟩ := exists_of_bind_ok h
    exact hrest _ h
  · exact hrest _ h

/-- What is read from a source file is a module. -/
theorem kind_of_read {code : String} {file : DiskPath} {m : Module}
    (h : Source.read code file = .ok m) : ∃ shebang, m.tree.kind = .module shebang := by
  simp only [Source.read, Module.ofText] at h
  split at h
  · cases h
  · next tree s hrun =>
    split at h
    · cases h
    · cases h
      exact kind_of_moduleItems hrun

/-- A result is known where its value is. -/
theorem eq_ok_of_toOption {α : Type} {result : Except Fault α} {a : α}
    (h : result.toOption = some a) : result = .ok a := by
  cases result with
  | error fault => cases h
  | ok b => rw [Option.some.inj h]

/-- What becomes of a file is its own text, if it is connected, and else the text of the edited
module. -/
theorem exists_of_addRouter {code out : String} {file : DiskPath}
    (h : addRouter code file = .ok out) :
    ∃ m, Source.read code file = .ok m ∧ (wrap .missing m.tree).1 ≠ .missing ∧
      out = if isConnected m then code else (edited m).print := by
  rw [addRouter] at h
  cases hread : Source.read code file with
  | error fault =>
    rw [hread] at h
    cases h
  | ok m =>
    rw [hread] at h
    simp only [Except.bind] at h
    refine ⟨m, rfl, ?_⟩
    split at h
    · cases h
    · rw [isConnected, edited]
      cases himport : (Source.items m).any importsRouter <;>
        cases hstate : (wrap .missing m.tree).1 <;>
        simp_all

/-- What is read as the edited module of a file, up to ranges, is connected. -/
theorem isConnected_of_read {code : String} {file : DiskPath} {m again : Module}
    (hread : Source.read code file = .ok m) (hmet : (wrap .missing m.tree).1 ≠ .missing)
    (htree : again.tree.withoutSpans = (edited m).tree.withoutSpans) : isConnected again := by
  obtain ⟨shebang, hkind⟩ := kind_of_read hread
  rw [isConnected_congr htree]
  exact isConnected_edited (by simp [hkind]) hmet

/-- **Running twice.** Let a file get a text. The file is read as a module, and the text is that of
the file, if the module is connected, and else the one that is printed for the edited module. If the
module is connected, or the printed text is read as the edited module again, then the text is read
as a connected module, and running again gives the same text. -/
theorem addRouter_addRouter {code out : String} {file : DiskPath}
    (h : addRouter code file = .ok out) :
    ∃ m, Source.read code file = .ok m ∧
      out = (if isConnected m then code else (edited m).print) ∧
      (isConnected m ∨ ReadsBack (edited m) file →
        ∃ again, Source.read out file = .ok again ∧ isConnected again ∧
          addRouter out file = .ok out) := by
  obtain ⟨m, hread, hmet, hout⟩ := exists_of_addRouter h
  refine ⟨m, hread, hout, fun hback ↦ ?_⟩
  cases hconnected : isConnected m with
  | true =>
    obtain rfl : out = code := by simpa [hconnected] using hout
    exact ⟨m, hread, hconnected, h⟩
  | false =>
    obtain rfl : out = (edited m).print := by simpa [hconnected] using hout
    obtain ⟨again, hagain, htree⟩ := hback.resolve_left (by simp [hconnected])
    have hagainConnected : isConnected again := isConnected_of_read hread hmet htree
    exact ⟨again, hagain, hagainConnected, addRouter_of_isConnected hagain hagainConnected⟩

/-- An entry file as it is often written. -/
def plainSource : String := "import App from './App.vue';\ncreateApp(App).mount('#app');\n"

/-- For a plain entry file running twice is the same as running once. -/
theorem addRouter_addRouter_plain :
    ∃ out, addRouter plainSource ⟨"/w/src/main.ts"⟩ = .ok out ∧ out ≠ plainSource ∧
      addRouter out ⟨"/w/src/main.ts"⟩ = .ok out := by
  have hout : (addRouter plainSource ⟨"/w/src/main.ts"⟩).toOption.any (· ≠ plainSource) := by
    decide +kernel
  have hback : (Source.read plainSource ⟨"/w/src/main.ts"⟩).toOption.all
      fun m ↦ ReadsBack (edited m) ⟨"/w/src/main.ts"⟩ := by
    decide +kernel
  cases hrun : addRouter plainSource ⟨"/w/src/main.ts"⟩ with
  | error fault => simp [hrun, Except.toOption] at hout
  | ok out =>
    obtain ⟨m, hread, -, htwice⟩ := addRouter_addRouter hrun
    obtain ⟨-, -, -, hagain⟩ := htwice (.inr (by simpa [hread, Except.toOption] using hback))
    exact ⟨out, rfl, by simpa [hrun, Except.toOption] using hout, hagain⟩

/-- An entry file with an export that is printed without a semicolon. -/
def exportSource : String := "export = App;\n/x/.test(y);\ncreateApp(App);\n"

/-- The text that an entry file gets is not accepted: without the semicolon the slash behind the
export divides. -/
theorem addRouter_refuses_own_text :
    ∃ out, addRouter exportSource ⟨"/w/src/main.ts"⟩ = .ok out ∧
      out = "import router from 'virtual:convention-import-routes';\n" ++
        "export = App\n/x/.test(y);\ncreateApp(App).use(router);\n" ∧
      ∀ text, addRouter out ⟨"/w/src/main.ts"⟩ ≠ .ok text := by
  have h : (match addRouter exportSource ⟨"/w/src/main.ts"⟩ with
      | .ok out => (addRouter out ⟨"/w/src/main.ts"⟩).toOption.isNone &&
          out == "import router from 'virtual:convention-import-routes';\n" ++
            "export = App\n/x/.test(y);\ncreateApp(App).use(router);\n"
      | .error _ => false) = true := by
    decide +kernel
  split at h
  · next out hout =>
    rw [Bool.and_eq_true, Option.isNone_iff_eq_none, beq_iff_eq] at h
    refine ⟨out, hout, h.2, fun text htext ↦ ?_⟩
    rw [htext] at h
    cases h.1
  · cases h

end PageRoutes.EntryFile
