import PageRoutes.Proofs.EntryFile.Conflict
import PageRoutes.Proofs.EntryFile.FixedPoint
import PageRoutes.Proofs.Syntax.Outline
/-!
# Which router is used

The use of the router is written at the first call that creates the application, wherever this call
stands, or it is found there. The name in it refers to the router that the module imports unless a
scope between the call and the top of the module declares the name as well. Nothing looks for such a
declaration, and nothing adds one: the names in scope at the use are those that are in scope at the
call in the file. A parameter with the name of the router therefore captures the use.

## Main definitions

* `EntryFile.registeredAt` : the address of the router's name in a call with the use of the router.
* `EntryFile.shifted` : addresses behind more items.

## Main results

* `EntryFile.head?_calls_wrap` : the first call stays at its address when it is wrapped.
* `EntryFile.head?_calls_edited`, `EntryFile.localNames_edited` : the first call of an edited module
  and the names in scope there.
* `EntryFile.refersToModule_iff` : when the name in the use refers to the scope of the module.
-/

namespace PageRoutes.EntryFile

open Syntax Node

/-! ### The first call behind a search -/

/-- What a search makes of a call with its address. -/
def used (r : Address × Node) : Address × Node := (r.1, (wrap .missing r.2).2)

/-- What a search makes of a call: it gets the use of the router, unless it has it. -/
theorem wrap_of_isCall {n : Node} (h : isCall n) :
    (wrap .missing n).2 = if isRouterUse n then n else useRouter n := by
  obtain ⟨kind, span, parts⟩ := n
  cases hrouter : isRouterUse (.mk kind span parts) with
  | true => simp [wrap, hrouter]
  | false =>
    have hbootstrap : isBootstrap (.mk kind span parts) := by simpa [isCall, hrouter] using h
    simp [wrap, hrouter, hbootstrap]

/-- What a search makes of a call uses the router. -/
theorem isRouterUse_wrap {n : Node} (h : isCall n) : isRouterUse (wrap .missing n).2 := by
  rw [wrap_of_isCall h]
  split
  · next hrouter => exact hrouter
  · next hrouter => exact isRouterUse_useRouter (by simpa [isCall, hrouter] using h)

/-- A node that is no call is none after a search has gone through its parts either. -/
theorem isCall_wrapAll {kind : Kind} {span : Span} {parts : List Node}
    (h : isCall (.mk kind span parts) = false) :
    isCall (.mk kind span (wrapAll .missing parts).2) = false := by
  rw [isCall, isRouterUse_wrapAll, Bool.false_or]
  by_contra hnew
  have hold : isBootstrap (.mk kind span parts) := isBootstrap_of_wrapAll (by simpa using hnew)
  simp [isCall, hold] at h

theorem head?_callsFrom_wrapAll {parts : List Node}
    (h : ∀ n ∈ parts, (calls (wrap .missing n).2).head? = (calls n).head?.map used) (index : Nat) :
    (callsFrom index (wrapAll .missing parts).2).head? =
      (callsFrom index parts).head?.map used := by
  induction parts generalizing index with
  | nil => rfl
  | cons n rest ih =>
    obtain ⟨hn, hrest⟩ := List.forall_mem_cons.mp h
    rw [wrapAll_cons, callsFrom_cons, callsFrom_cons, List.head?_append, List.head?_append,
      List.head?_map, List.head?_map, hn]
    cases hcalls : (calls n).head? with
    | none =>
      -- Without a call in the first part the search goes on in the others.
      have hmissing : wrap .missing n = (.missing, n) := by
        rw [wrap_missing, hcalls, outcome]
      rw [hmissing]
      exact ih hrest (index + 1)
    | some first => rfl

/-- **The first call.** The first call of a tree stays at its address, with the use of the router
behind it, and is the first call of the new tree. -/
theorem head?_calls_wrap (n : Node) :
    (calls (wrap .missing n).2).head? = (calls n).head?.map used := by
  induction n using Node.induct with
  | mk kind span parts ih =>
    cases hcall : isCall (.mk kind span parts) with
    | true =>
      have hnew : isCall (wrap .missing (.mk kind span parts)).2 := by
        rw [isCall, isRouterUse_wrap hcall, Bool.true_or]
      rw [head?_calls_of_isCall hcall, head?_calls_of_isCall hnew]
      rfl
    | false =>
      rw [wrap_of_not_isCall hcall, calls_of_not_isCall hcall]
      exact (congrArg List.head? (calls_of_not_isCall (isCall_wrapAll hcall))).trans
        (head?_callsFrom_wrapAll ih 0)

/-! ### Behind more items -/

/-- An address in a node, if there are more parts in front of its parts. -/
def shifted (count : Nat) : Address → Address
  | [] => []
  | i :: p => (count + i) :: p

@[simp] theorem shifted_zero (p : Address) : shifted 0 p = p := by
  cases p with
  | nil => rfl
  | cons i p => rw [shifted, Nat.zero_add]

theorem shifted_append {p : Address} (h : p ≠ []) (count : Nat) (q : Address) :
    shifted count (p ++ q) = shifted count p ++ q := by
  cases p with
  | nil => exact absurd rfl h
  | cons i p => rfl

theorem visitedFrom_add (count index : Nat) (parts : List Node) :
    visitedFrom (count + index) parts =
      (visitedFrom index parts).map fun r ↦ (shifted count r.1, r.2) := by
  induction parts generalizing index with
  | nil => rfl
  | cons n rest ih =>
    rw [visitedFrom, visitedFrom, List.map_append, Nat.add_assoc, ih, List.map_map]
    rfl

theorem callsFrom_add (count index : Nat) (parts : List Node) :
    callsFrom (count + index) parts =
      (callsFrom index parts).map fun r ↦ (shifted count r.1, r.2) := by
  rw [callsFrom, callsFrom, visitedFrom_add, List.filter_map]
  rfl

/-- The calls behind the import of the router. -/
theorem calls_routerImport {n : Node} (h : n.kind ≠ .call) (span : Span) :
    calls (.mk n.kind span (routerImport :: n.children)) =
      (calls n).map fun r ↦ (shifted 1 r.1, r.2) := by
  have hroot (n : Node) (h : n.kind ≠ .call) : isCall n = false := by
    simpa using fun hcall ↦ h (kind_eq_of_isCall hcall)
  have himport : calls routerImport = [] := rfl
  have hbehind : calls (.mk n.kind span (routerImport :: n.children)) =
      callsFrom 0 (routerImport :: n.children) :=
    calls_of_not_isCall (hroot _ h)
  rw [hbehind, callsFrom_cons, himport, calls_of_not_isCall (hroot n h), ← callsFrom_add]
  rfl

/-- The top of a module declares nothing for its inside, and the import of the router is no part of
anything. -/
theorem localNames_shifted {n : Node} {shebang : Option String} (h : n.kind = .module shebang)
    (span : Span) (p : Address) :
    (mk n.kind span (routerImport :: n.children)).localNames (shifted 1 p) = n.localNames p := by
  cases p with
  | nil => rfl
  | cons i p =>
    have hchild : (mk n.kind span (routerImport :: n.children)).child (1 + i) = n.child i := by
      rw [child, child, children, Nat.add_comm, List.getElem?_cons_succ]
    have htop (m : Node) (hm : m.kind = .module shebang) (i : Nat) : scopeNames {} m i p = [] := by
      rw [scopeNames.eq_def, hm]
    have hparts (m : Node) (hm : m.kind = .module shebang) (i : Nat) :
        Context.enter {} m i = { parts := Context.partsOf false m.children } := by
      rw [Context.enter.eq_def, hm]
    have himport : Context.partsOf false (routerImport :: n.children) =
        Context.partsOf false n.children := rfl
    rw [shifted, localNames, localNames, localNamesIn, localNamesIn, hchild, htop n h,
      htop _ (by rwa [kind]), hparts n h, hparts _ (by rwa [kind]), kind, children, himport]

/-! ### The name of the router in a use -/

/-- The address of the router's name in a call with the use of the router. The name is the argument,
or it is spread out there. -/
def registeredAt (use : Node) : Address :=
  match ((use.child 1).child 0).kind with
  | .spread => [1, 0, 0]
  | _ => [1, 0]

/-- An expression that is a name, by its kind. -/
theorem isName_iff {name : String} {n : Node} : isName name n ↔ n.kind = .ident name := by
  rw [isName, identName?, beq_iff_eq]
  split
  · next hkind => simp [hkind]
  · next hkind =>
    constructor
    · intro h
      cases h
    · intro h
      exact (hkind name h).elim

/-- Arguments that pass the router by its name, alone or spread out. -/
inductive IsRouterArgument : Node → Prop
  | name (span : Span) (parts : List Node) : IsRouterArgument (.mk (.ident "router") span parts)
  | spread (span inner : Span) (parts : List Node) :
    IsRouterArgument (.mk .spread span [.mk (.ident "router") inner parts])

theorem isName_argumentValue_iff {argument : Node} :
    isName routerName (argumentValue argument) ↔ IsRouterArgument argument := by
  constructor
  · intro h
    unfold argumentValue at h
    split at h
    · next value =>
      obtain ⟨_, inner, parts⟩ := value
      obtain rfl := isName_iff.mp h
      exact .spread _ inner parts
    · obtain ⟨_, span, parts⟩ := argument
      obtain rfl := isName_iff.mp h
      exact .name span parts
  · rintro (_ | _) <;> simp [argumentValue, isName_iff, Node.kind, routerName]

/-- What is passed to the use of the router is its name, alone or spread out. -/
theorem exists_argument {use : Node} (h : isRouterUse use) :
    ∃ span member group argument types,
      use = .mk .call span [member, .mk .group group [argument], types] ∧
        IsRouterArgument argument := by
  obtain ⟨hcall, member, ⟨_, group, _⟩, types, _, _, argument, _, hparts, -, -, -, rfl, rfl, -,
    hname⟩ := isRouterUse_iff.mp h
  obtain ⟨kind, span, parts⟩ := use
  obtain rfl : kind = .call := hcall
  obtain rfl : parts = _ := hparts
  exact ⟨span, member, group, argument, types, rfl, isName_argumentValue_iff.mp hname⟩

/-- The name of the router is at its address in a use. -/
theorem at?_registeredAt {use : Node} (h : isRouterUse use) :
    ∃ name, use.at? (registeredAt use) = some name ∧ isName routerName name := by
  obtain ⟨_, _, _, _, _, rfl, ⟨span, parts⟩ | ⟨_, span, parts⟩⟩ := exists_argument h
  · exact ⟨.mk (.ident routerName) span parts, rfl, rfl⟩
  · exact ⟨.mk (.ident routerName) span parts, rfl, rfl⟩

/-- Nothing inside a use of the router declares a name. -/
theorem localNamesIn_registeredAt (c : Context) {use : Node} (h : isRouterUse use) :
    use.localNamesIn c (registeredAt use) = [] := by
  obtain ⟨_, _, _, _, _, rfl, _ | _⟩ := exists_argument h
  · rfl
  · rfl

/-- The way to the router's name leads into what stands behind the callee. -/
theorem exists_registeredAt (use : Node) : ∃ q, registeredAt use = 1 :: q := by
  rw [registeredAt]
  split
  · exact ⟨[0, 0], rfl⟩
  · exact ⟨[0], rfl⟩

/-! ### Edited modules -/

variable {m : Module} {p : Address} {call : Node}

/-- How many items an edit puts in front of the items of a module. -/
def addedItems (m : Module) : Nat := if (Source.items m).any importsRouter then 0 else 1

/-- **The first call of an edited module.** It is the first call of the module, with the use of the
router and behind the import that is added. -/
theorem head?_calls_edited {shebang : Option String} (hkind : m.tree.kind = .module shebang)
    (hfirst : (calls m.tree).head? = some (p, call)) :
    (calls (edited m).tree).head? = some (shifted (addedItems m) p, (wrap .missing call).2) := by
  have hwrapped : (calls (wrap .missing m.tree).2).head? = some (p, (wrap .missing call).2) := by
    rw [head?_calls_wrap, hfirst]
    rfl
  rw [edited, addedItems]
  cases (Source.items m).any importsRouter with
  | true => simpa [withImport] using hwrapped
  | false =>
    have hbehind := calls_routerImport (n := (wrap .missing m.tree).2)
      (by simp [kind_wrap, hkind]) (wrap .missing m.tree).2.span
    refine (congrArg List.head? hbehind).trans ?_
    rw [List.head?_map, hwrapped]
    rfl

/-- **Names in scope.** The names in scope at the router's name in an edited module are those in
scope at the first call of the module. -/
theorem localNames_edited {shebang : Option String} (hkind : m.tree.kind = .module shebang)
    (hfirst : (calls m.tree).head? = some (p, call)) :
    (edited m).tree.localNames
        (shifted (addedItems m) p ++ registeredAt (wrap .missing call).2) =
      m.tree.localNames p := by
  obtain ⟨hvisited, hcall⟩ := List.mem_filter.mp (List.mem_of_mem_head? hfirst)
  have hold := mem_visited_iff.mp hvisited
  have huse := isRouterUse_wrap hcall
  have hcallKind := kind_eq_of_isCall hcall
  have huseKind : (wrap .missing call).2.kind = .call := by rw [kind_wrap, hcallKind]
  -- A search puts the use in the place of the call, or leaves everything as it is.
  have hsearch : (wrap .missing m.tree).2 = m.tree.replaceAt (wrap .missing call).2 p := by
    rw [wrap_missing m.tree, hfirst, outcome, wrap_of_isCall hcall]
    split
    · exact (replaceAt_self hold).symm
    · rfl
  have hat : (wrap .missing m.tree).2.at? p = some (wrap .missing call).2 := by
    rw [hsearch]
    exact at?_replaceAt_self hold
  obtain ⟨q, hq⟩ := exists_registeredAt (wrap .missing call).2
  have hscope : (wrap .missing m.tree).2.localNames (p ++ registeredAt (wrap .missing call).2) =
      m.tree.localNames p := by
    obtain ⟨inner, hinner⟩ := localNamesIn_append {} hat huseKind q
    rw [localNames, hq, hinner, ← hq, localNamesIn_registeredAt inner huse, List.append_nil,
      hsearch,
      localNamesIn_replaceAt rfl hold hcallKind huseKind, localNames]
  rw [edited, addedItems]
  cases (Source.items m).any importsRouter with
  | true => simpa [withImport] using hscope
  | false =>
    have htop : p ≠ [] := by
      rintro rfl
      obtain rfl := Option.some.inj hold
      simp [hkind] at hcallKind
    rw [if_neg Bool.false_ne_true, ← shifted_append htop]
    exact (localNames_shifted (by rw [kind_wrap, hkind]) _ _).trans hscope

/-- An import of the router binds its name in the scope of the module. -/
theorem exists_binding_of_importsRouter {item : Node} (h : importsRouter item) :
    ∃ b ∈ item.bindings, b.form = .specifier ∧ isRouter b.name := by
  obtain ⟨⟨isType, hkind⟩, specifiers, _, _, hparts, hgroup, -, s, hmem, hdefault⟩ :=
    importsRouter_iff.mp h
  obtain ⟨-, name, hname, hrouter⟩ := importsDefault_iff.mp hdefault
  obtain ⟨kind, span, parts⟩ := item
  obtain ⟨kind', span', parts'⟩ := specifiers
  obtain rfl : kind = _ := hkind
  obtain rfl : kind' = _ := hgroup
  obtain rfl : parts = _ := hparts
  refine ⟨⟨.specifier, name⟩, ?_, rfl, hrouter⟩
  have hlast : s.children.getLast? = some name := by simp [hname]
  exact List.mem_map_of_mem (List.mem_filterMap.mpr ⟨s, hmem, hlast⟩)

/-- **Which router is used.** Let a file get a text. The text is that of the edited module, or the
module is its own edit and the text stays. The edited module imports the router and so binds its
name in the scope of the module. Its first call that creates the application uses the router and
stands where the first call of the file stands, behind the import if that is added. The name of the
router in this use refers to the scope of the module if and only if no scope between the first call
in the file and the top of the file declares the name, be it in another part of an enum or
a namespace around the call. -/
theorem refersToModule_iff {code out : String} {file : DiskPath}
    (h : addRouter code file = .ok out) :
    ∃ m p call use name, Source.read code file = .ok m ∧
      (if isConnected m then out = code ∧ edited m = m else out = (edited m).print) ∧
      (∃ item ∈ Source.items (edited m), importsRouter item) ∧
      (∃ b ∈ moduleBindings (edited m), b.form = .specifier ∧ isRouter b.name) ∧
      (calls m.tree).head? = some (p, call) ∧
      (calls (edited m).tree).head? = some (shifted (addedItems m) p, use) ∧
      isRouterUse use ∧
      (edited m).tree.at? (shifted (addedItems m) p ++ registeredAt use) = some name ∧
      isName routerName name ∧
      ((edited m).tree.RefersToModule routerName (shifted (addedItems m) p ++ registeredAt use) ↔
        routerName ∉ m.tree.localNames p) := by
  obtain ⟨m, hread, hmet, hout⟩ := exists_of_addRouter h
  obtain ⟨shebang, hkind⟩ := kind_of_read hread
  obtain ⟨⟨p, call⟩, hfirst⟩ : ∃ first, (calls m.tree).head? = some first := by
    rw [wrap_missing] at hmet
    cases hfirst : (calls m.tree).head? with
    | none => simp [hfirst, outcome] at hmet
    | some first => exact ⟨first, rfl⟩
  have hcall : isCall call := (List.mem_filter.mp (List.mem_of_mem_head? hfirst)).2
  have huse := isRouterUse_wrap hcall
  have hnew := head?_calls_edited hkind hfirst
  obtain ⟨item, hitem, himport⟩ :=
    (isConnected_iff.mp (isConnected_edited (by simp [hkind]) hmet)).1
  obtain ⟨b, hb, hform, hbound⟩ := exists_binding_of_importsRouter himport
  obtain ⟨name, hname, hrouter⟩ := at?_registeredAt huse
  have hat := mem_visited_iff.mp (List.mem_filter.mp (List.mem_of_mem_head? hnew)).1
  refine ⟨m, p, call, _, name, hread, ?_, ⟨item, hitem, himport⟩,
    ⟨b, List.mem_flatMap.mpr ⟨item, hitem, hb⟩, hform, hbound⟩, hfirst, hnew, huse, ?_, hrouter, ?_⟩
  · by_cases hm : isConnected m
    · rw [if_pos hm] at hout ⊢
      exact ⟨hout, edited_of_isConnected hm⟩
    · rw [if_neg hm] at hout ⊢
      exact hout
  · rw [at?_append, hat]
    exact hname
  · rw [RefersToModule, localNames_edited hkind hfirst]

/-- In an entry file that creates the application inside a function, only the parameter of this
function is in scope at the call, and the name in the use refers to the scope of the module. -/
theorem refersToModule_boot :
    ∃ m p call use, Source.read bootSource ⟨"/w/src/main.ts"⟩ = .ok m ∧
      (calls m.tree).head? = some (p, call) ∧ m.tree.localNames p = ["el"] ∧
      (calls (edited m).tree).head? = some (shifted (addedItems m) p, use) ∧
      (edited m).tree.RefersToModule routerName
        (shifted (addedItems m) p ++ registeredAt use) := by
  obtain ⟨m, first, hread, -, -, hfirst, hnames⟩ := exists_read_bootSource
  obtain ⟨out, hadd⟩ := exists_addRouter_bootSource
  obtain ⟨m', p, call, use, name, hread', -, -, -, hfirst', hnew, -, -, -, hrefers⟩ :=
    refersToModule_iff hadd
  obtain rfl := Except.ok.inj (hread.symm.trans hread')
  obtain rfl := Option.some.inj (hfirst.symm.trans hfirst')
  refine ⟨m, p, call, use, hread, hfirst, hnames, hnew, ?_⟩
  rw [hrefers, hnames]
  decide

/-- An entry file that creates the application in a part of an enum. -/
def partsSource : String :=
  "enum E \x7b router = make() \x7d\nenum E \x7b A = createApp(App) \x7d\n"

/-- The members of the other part are in scope at the call. -/
example :
    (Source.read partsSource ⟨"/w/src/main.ts"⟩).toOption.any (fun m ↦
      (calls m.tree).head?.any fun first ↦ decide ¬m.tree.RefersToModule routerName first.1) := by
  decide +kernel

/-- An entry file in which a parameter has the name of the router. -/
def captureSource : String := "function boot(router) \x7b\n  createApp(App);\n\x7d\n"

/-- The use of the router is written where a parameter captures its name. -/
theorem exists_captured_use :
    ∃ m p use, Source.read captureSource ⟨"/w/src/main.ts"⟩ = .ok m ∧
      addRouter captureSource ⟨"/w/src/main.ts"⟩ =
        .ok ("import router from 'virtual:convention-import-routes';\n" ++
          "function boot(router) \x7b\n    createApp(App).use(router);\n\x7d\n") ∧
      (calls (edited m).tree).head? = some (p, use) ∧ isRouterUse use ∧
      ¬(edited m).tree.RefersToModule routerName (p ++ registeredAt use) := by
  have hcheck : (match Source.read captureSource ⟨"/w/src/main.ts"⟩ with
      | .ok m => match (calls (edited m).tree).head? with
        | some (p, use) => isRouterUse use &&
          decide ¬(edited m).tree.RefersToModule routerName (p ++ registeredAt use)
        | none => false
      | .error _ => false) = true := by
    decide +kernel
  have hout : (match addRouter captureSource ⟨"/w/src/main.ts"⟩ with
      | .ok text => text == "import router from 'virtual:convention-import-routes';\n" ++
          "function boot(router) \x7b\n    createApp(App).use(router);\n\x7d\n"
      | .error _ => false) = true := by
    decide +kernel
  split at hcheck
  · next m hread =>
    split at hcheck
    · next p use hfirst =>
      rw [Bool.and_eq_true, decide_eq_true_eq] at hcheck
      refine ⟨m, p, use, hread, ?_, hfirst, hcheck⟩
      split at hout
      · next text htext => rw [htext, beq_iff_eq.mp hout]
      · cases hout
    · cases hcheck
  · cases hcheck

end PageRoutes.EntryFile
