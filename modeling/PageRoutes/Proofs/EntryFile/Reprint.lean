import PageRoutes.Proofs.EntryFile.CommentOrder
import PageRoutes.Proofs.EntryFile.PlainEdit
import PageRoutes.Proofs.EntryFile.ValueImport
import PageRoutes.Proofs.Syntax.Plain.Layout
import PageRoutes.Proofs.Syntax.Plain.Programs
/-!
# Printing and reading again

An entry file gets the printed text of a tree. Reading this text should give the tree again, with
other ranges of its nodes, so that nothing has changed in the program but what was meant to change.

For plain programs that is so, wherever comments stand in them, and what is read then differs from
the program by the import of the router and by the one call that uses it. The comments that are read
are those that were printed. The printer does not see to it everywhere: behind an export with an
equals sign it prints no semicolon, and then the next line can be read as a part of the exported
expression.

## Main results

* `EntryFile.append_routerImportText` : what is read of the import of the router.
* `EntryFile.addRouter_eq_self_of_isPlain` : for plain programs running twice is running once.
* `EntryFile.readsBack_of_isPlain` : plain programs are read back from their printed texts.
* `EntryFile.comments_of_isPlain` : the comments that are read are those that are printed.
* `EntryFile.print_merges_items` : a text that is accepted, but read as another tree.
-/

namespace PageRoutes.EntryFile

open Syntax Node

/-! ### The import as a piece of program text -/

/-- The import of the router as it is spelled. -/
def routerImportText : String := "import " ++ routerName ++ " from '" ++ routesModuleId ++ "';"

/-- The spelled import is read as the import. -/
theorem tokenizes_routerImportText :
    Lexer.Tokenizes routerImportText.toList
      (Plain.tokens (Plain.programPieces [routerItem])) [] := by
  have htext : Plain.text (Plain.programPieces [routerItem]) = routerImportText.toList := by
    decide +kernel
  rw [← htext]
  exact Plain.tokenizes_program (.refl _)

/-- **The added import.** A piece of program text that spells the import of the router adds one item
to a module. Up to the ranges of its nodes this item is the import that is put in front of an entry
file. The comments of the module stay what they are. -/
theorem append_routerImportText (m : Module) (name : DiskPath) :
    ∃ added item, Source.append m name routerImportText = .ok (added, 1) ∧
      Source.items added = Source.items m ++ [item] ∧ item.withoutSpans = routerImport ∧
      added.comments = m.comments := by
  obtain ⟨piece, hpiece, htree, -⟩ :=
    Plain.ofText_of_tokenizes Source.pieceDialect true (m.ending + 1) tokenizes_routerImportText
  rw [String.ofList_toList] at hpiece
  have hitems := congrArg Node.children htree
  rw [children_withoutSpans, Plain.programNode, children, List.map_singleton, node_routerItem]
    at hitems
  obtain ⟨item, hitem, himport⟩ := List.map_eq_singleton_iff.mp hitems
  refine ⟨{ Source.withItems m (Source.items m ++ [item]) with ending := piece.ending }, item, ?_,
    rfl, himport, rfl⟩
  rw [Source.append, hpiece]
  simp [Source.items, hitem]

/-! ### Plain programs -/

/-- Whether a module is a plain program, up to the ranges of its nodes. Comments can stand anywhere
in it. -/
def IsPlain (m : Module) : Prop := ∃ items, m.tree.withoutSpans = Plain.programNode items

/-- The edit of a plain program is plain. -/
theorem IsPlain.edited {m : Module} (h : IsPlain m) : IsPlain (edited m) := by
  obtain ⟨items, hitems⟩ := h
  exact exists_edited hitems

/-- A plain program is read from its printed text, and its comments are those that are printed. -/
theorem IsPlain.exists_read {m : Module} (h : IsPlain m) (file : DiskPath) :
    ∃ again, Source.read m.print file = .ok again ∧
      again.tree.withoutSpans = m.tree.withoutSpans ∧
      (again.comments.filed.map Filed.comment).Perm (Fragment.comments m.fragments) := by
  obtain ⟨items, hitems⟩ := h
  obtain ⟨pieces, hadorned, htext, hprinted⟩ := Plain.print_program hitems
  obtain ⟨again, hagain, htree, hfiled⟩ :=
    Plain.ofText_of_tokenizes Source.fileDialect false 1 (Plain.tokenizes_program hadorned)
  refine ⟨again, ?_, htree.trans hitems.symm, hprinted ▸ hfiled⟩
  rw [Source.read, htext, hagain]
  rfl

theorem IsPlain.readsBack {m : Module} (h : IsPlain m) (file : DiskPath) : ReadsBack m file := by
  obtain ⟨again, hagain, htree, -⟩ := h.exists_read file
  exact ⟨again, hagain, htree⟩

/-- The text that a plain program gets is read as the edited program. -/
theorem read_of_isPlain {code out : String} {file : DiskPath} {m : Module} (h : IsPlain m)
    (hread : Source.read code file = .ok m) (hout : addRouter code file = .ok out) :
    (wrap .missing m.tree).1 ≠ .missing ∧ ∃ again, Source.read out file = .ok again ∧
      again.tree.withoutSpans = (edited m).tree.withoutSpans := by
  obtain ⟨m', hread', hmet, hout⟩ := exists_of_addRouter hout
  obtain rfl := Except.ok.inj (hread.symm.trans hread')
  refine ⟨hmet, ?_⟩
  cases hconnected : isConnected m with
  | true =>
    obtain rfl : out = code := by simpa [hconnected] using hout
    exact ⟨m, hread, by rw [edited_of_isConnected hconnected]⟩
  | false =>
    obtain rfl : out = (edited m).print := by simpa [hconnected] using hout
    exact h.edited.readsBack file

/-- **Running twice.** For plain programs running twice is the same as running once. -/
theorem addRouter_eq_self_of_isPlain {code out : String} {file : DiskPath} {m : Module}
    (h : IsPlain m) (hread : Source.read code file = .ok m)
    (hout : addRouter code file = .ok out) : addRouter out file = .ok out := by
  obtain ⟨hmet, again, hagain, htree⟩ := read_of_isPlain h hread hout
  exact addRouter_of_isConnected hagain (isConnected_of_read hread hmet htree)

/-- The tree of an edited module, by the first call in the module. -/
theorem withoutSpans_edited {m : Module} {p : Address} {call : Node}
    (h : (calls m.tree).head? = some (p, call)) :
    (edited m).tree.withoutSpans = .mk m.tree.kind .none
      ((if (Source.items m).any importsRouter then [] else [routerImport]) ++
        (if isRouterUse call then m.tree else m.tree.replaceAt (useRouter call) p).children.map
          withoutSpans) := by
  have hsearch : (wrap .missing m.tree).2 =
      if isRouterUse call then m.tree else m.tree.replaceAt (useRouter call) p := by
    rw [wrap_missing, h, outcome]
    split <;> rfl
  rw [← hsearch, ← kind_wrap .missing m.tree, edited]
  generalize (wrap .missing m.tree).2 = new
  obtain ⟨kind, span, children⟩ := new
  cases (Source.items m).any importsRouter with
  | true => exact congrArg _ (allWithoutSpans_eq_map _)
  | false => exact congrArg _ (congrArg _ (allWithoutSpans_eq_map _))

/-- **Plain programs.** Let a file be read as a plain program. What is printed for it is accepted
and read as the same tree, up to ranges. Let the file also get a text. Then this text is accepted,
and read as the program in which the router is imported in front of the other items, if it was not
imported, and the first call that creates the application uses it, and in which all else is what it
was. -/
theorem readsBack_of_isPlain {code : String} {file : DiskPath} {m : Module}
    (hread : Source.read code file = .ok m) (hplain : IsPlain m) :
    ReadsBack m file ∧ ∀ out, addRouter code file = .ok out →
      ∃ again p call, Source.read out file = .ok again ∧ (calls m.tree).head? = some (p, call) ∧
        again.tree.withoutSpans = .mk m.tree.kind .none
          ((if (Source.items m).any importsRouter then [] else [routerImport]) ++
            (if isRouterUse call then m.tree else m.tree.replaceAt (useRouter call) p).children.map
              withoutSpans) := by
  refine ⟨hplain.readsBack file, fun out hout ↦ ?_⟩
  obtain ⟨hmet, again, hagain, htree⟩ := read_of_isPlain hplain hread hout
  obtain ⟨p, call, hfirst⟩ : ∃ p call, (calls m.tree).head? = some (p, call) := by
    cases hfirst : (calls m.tree).head? with
    | none => exact absurd (by rw [wrap_missing, hfirst, outcome]) hmet
    | some first => exact ⟨first.1, first.2, rfl⟩
  exact ⟨again, p, call, hagain, hfirst, htree.trans (withoutSpans_edited hfirst)⟩

/-- An entry file without semicolons, in a loose layout and with comments. -/
def looseSource : String :=
  "import { createApp as make } from \"vue\" // the framework\nimport App from './App.vue'\n\n" ++
    "/* set up */ const app = createApp(App)\napp\n" ++
    "  // with a store\n  .use(store, /* name */ 'main').mount('#app')\n"

/-- The items of that file. -/
def looseItems : List Plain.Item :=
  [.imports none (.named [⟨some ⟨⟨"createApp", by decide⟩, by decide⟩, ⟨"make", by decide⟩⟩])
      ⟨'\x22', "vue".toList, .inl rfl, by decide⟩,
    .imports (some ⟨"App", by decide⟩) (.named []) (.single "./App.vue" (by decide)),
    .declares .const ⟨"app", by decide⟩
      (.of (.name ⟨"createApp", by decide⟩) [.call [.of (.name ⟨"App", by decide⟩) []]]),
    .evaluates (.of (.name ⟨"app", by decide⟩) [.member useWord,
      .call [.of (.name ⟨"store", by decide⟩) [],
        .of (.string (.single "main" (by decide))) []],
      .member ⟨"mount", by decide⟩,
      .call [.of (.string (.single "#app" (by decide))) []]]) rfl]

/-- The file is a plain program with comments. Its text is read back with the import in front and
with the use of the router behind the call in the third item. -/
theorem readsBack_of_isPlain_loose :
    ∃ m out again call, Source.read looseSource ⟨"/w/src/main.ts"⟩ = .ok m ∧ IsPlain m ∧
      ReadsBack m ⟨"/w/src/main.ts"⟩ ∧ addRouter looseSource ⟨"/w/src/main.ts"⟩ = .ok out ∧
      Source.read out ⟨"/w/src/main.ts"⟩ = .ok again ∧ isBootstrap call ∧
      again.tree.withoutSpans = .mk m.tree.kind .none (routerImport ::
        (m.tree.replaceAt (useRouter call) [2, 0, 1]).children.map withoutSpans) := by
  have hrun : (Source.read looseSource ⟨"/w/src/main.ts"⟩).toOption.any fun m ↦
      decide (m.tree.withoutSpans = Plain.programNode looseItems) &&
        !(Source.items m).any importsRouter && (calls m.tree).head?.any (fun r ↦
          r.1 == [2, 0, 1] && isBootstrap r.2 && !isRouterUse r.2) &&
        (addRouter looseSource ⟨"/w/src/main.ts"⟩).toOption.isSome := by
    decide +kernel
  obtain ⟨m, hm, hrun⟩ := (Option.any_eq_true _ _).mp hrun
  simp only [Bool.and_eq_true, decide_eq_true_eq, Bool.not_eq_true'] at hrun
  obtain ⟨⟨⟨htree, himport⟩, hfirst⟩, hsome⟩ := hrun
  obtain ⟨⟨p, call⟩, hhead, hcall⟩ := (Option.any_eq_true _ _).mp hfirst
  simp only [Bool.and_eq_true, beq_iff_eq, Bool.not_eq_true'] at hcall
  obtain ⟨⟨rfl, hbootstrap⟩, hrouter⟩ := hcall
  obtain ⟨out, hout⟩ := Option.isSome_iff_exists.mp hsome
  have hread := eq_ok_of_toOption hm
  have hplain : IsPlain m := ⟨looseItems, htree⟩
  obtain ⟨hback, hedit⟩ := readsBack_of_isPlain hread hplain
  obtain ⟨again, p, call', hagain, hfirst', hnew⟩ := hedit out (eq_ok_of_toOption hout)
  obtain ⟨rfl, rfl⟩ : p = [2, 0, 1] ∧ call' = call := by simpa [hhead, eq_comm] using hfirst'
  rw [himport, hrouter] at hnew
  exact ⟨m, out, again, call', hread, hplain, hback, eq_ok_of_toOption hout, hagain, hbootstrap,
    hnew⟩

/-- **Comments.** Let a file be read as a plain program and get another text. The comments that are
read with this text are, whatever places they have there, those that are printed for the file as it
is. -/
theorem comments_of_isPlain {code out : String} {file : DiskPath} {m : Module}
    (hread : Source.read code file = .ok m) (hplain : IsPlain m)
    (hout : addRouter code file = .ok out) (hconnected : isConnected m = false) :
    ∃ again, Source.read out file = .ok again ∧
      (again.comments.filed.map Filed.comment).Perm (Fragment.comments m.fragments) := by
  obtain ⟨m', hread', -, hout⟩ := exists_of_addRouter hout
  obtain rfl := Except.ok.inj (hread.symm.trans hread')
  obtain rfl : out = (edited m).print := by simpa [hconnected] using hout
  obtain ⟨again, hagain, -, hcomments⟩ := hplain.edited.exists_read file
  exact ⟨again, hagain, comments_edited hread ▸ hcomments⟩

/-! ### Merged items -/

/-- An entry file in which a line behind an export begins with a bracket. -/
def bracketSource : String := "export = createApp;\n(App);\ncreateApp(App);\n"

/-- Without a semicolon behind the export, the line behind it is read as the arguments of a call.
The printed text has an item less than the source, and in the text of the entry file the export has
become the first call that creates the application, so that a second run adds the router once more.
-/
theorem print_merges_items :
    (∃ m again, Source.read bracketSource ⟨"/w/src/main.ts"⟩ = .ok m ∧
      Source.read m.print ⟨"/w/src/main.ts"⟩ = .ok again ∧
      (Source.items m).length = 3 ∧ (Source.items again).length = 2) ∧
    ∃ out, addRouter bracketSource ⟨"/w/src/main.ts"⟩ = .ok out ∧
      addRouter out ⟨"/w/src/main.ts"⟩ =
        .ok ("import router from 'virtual:convention-import-routes';\n" ++
          "export = createApp(App).use(router)\ncreateApp(App).use(router);\n") := by
  have hitems : ((Source.read bracketSource ⟨"/w/src/main.ts"⟩).toOption.bind fun m ↦
      (Source.read m.print ⟨"/w/src/main.ts"⟩).toOption.map fun again ↦
        ((Source.items m).length, (Source.items again).length)) = some (3, 2) := by
    decide +kernel
  have htwice : ((addRouter bracketSource ⟨"/w/src/main.ts"⟩).toOption.bind fun out ↦
      (addRouter out ⟨"/w/src/main.ts"⟩).toOption) =
        some ("import router from 'virtual:convention-import-routes';\n" ++
          "export = createApp(App).use(router)\ncreateApp(App).use(router);\n") := by
    decide +kernel
  obtain ⟨m, hread, hitems⟩ := Option.bind_eq_some_iff.mp hitems
  obtain ⟨again, hagain, hlengths⟩ := Option.map_eq_some_iff.mp hitems
  obtain ⟨hthree, htwo⟩ := Prod.mk.inj hlengths
  obtain ⟨out, hout, hsecond⟩ := Option.bind_eq_some_iff.mp htwice
  exact ⟨⟨m, again, eq_ok_of_toOption hread, eq_ok_of_toOption hagain, hthree, htwo⟩, out,
    eq_ok_of_toOption hout, eq_ok_of_toOption hsecond⟩

end PageRoutes.EntryFile
