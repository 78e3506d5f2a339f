import PageRoutes.Proofs.EntryFile.ValueImport
/-!
# Chains with the router

The application is often created and set up in one chain of calls, `createApp(App).use(a).use(b)`.
The search through an entry file meets the call that creates the application without a use of the
router if the first link behind it is another one. It then puts a use of the router there, also
where a later link of the chain is one, and the chain has two. A chain whose first link uses the
router stays as it is.

## Main definitions

* `EntryFile.bareCalls` : the calls of a tree that create the application, apart from what is
  behind them.
* `EntryFile.isChain` : chains of calls that begin at an address.
* `EntryFile.registersRouter` : links that use the router.
* `EntryFile.IsUsedAt` : calls with a plain use of the router directly behind them.

## Main results

* `EntryFile.head?_bareCalls` : the first of these calls is the one that the search ends at.
* `EntryFile.addRouter_of_chain` : what becomes of a chain in which the router is used.
-/

namespace PageRoutes.EntryFile

open Syntax Node

/-! ### Calls without what is behind them -/

/-- The calls of a tree that create the application, with their addresses and in the order of the
search. The use of the router behind a call does not belong to it. -/
def bareCalls (n : Node) : List (Address × Node) := n.visited.filter fun r ↦ isBootstrap r.2

/-- The same for parts that are counted from an index on. -/
def bareCallsFrom (index : Nat) (parts : List Node) : List (Address × Node) :=
  (visitedFrom index parts).filter fun r ↦ isBootstrap r.2

/-- A call without the use of the router that may be behind it. -/
def bare (r : Address × Node) : Address × Node :=
  if isRouterUse r.2 then (r.1 ++ [0, 0], (r.2.child 0).child 0) else r

theorem bareCallsFrom_cons (index : Nat) (n : Node) (rest : List Node) :
    bareCallsFrom index (n :: rest) =
      (bareCalls n).map (fun r ↦ (index :: r.1, r.2)) ++ bareCallsFrom (index + 1) rest := by
  rw [bareCallsFrom, visitedFrom, List.filter_append, List.filter_map]
  rfl

theorem head?_bareCallsFrom {parts : List Node}
    (h : ∀ n ∈ parts, (bareCalls n).head? = (calls n).head?.map bare) (index : Nat) :
    (bareCallsFrom index parts).head? = (callsFrom index parts).head?.map bare := by
  induction parts generalizing index with
  | nil => rfl
  | cons n rest ih =>
    obtain ⟨hn, hrest⟩ := List.forall_mem_cons.mp h
    have hindex (r : Address × Node) :
        ((index :: (bare r).1, (bare r).2) : Address × Node) = bare (index :: r.1, r.2) := by
      rw [bare, bare]
      split <;> rfl
    rw [bareCallsFrom_cons, callsFrom_cons, List.head?_append, List.head?_append, List.head?_map,
      List.head?_map, hn, ih hrest]
    cases (calls n).head? with
    | none => rfl
    | some first => exact congrArg some (hindex first)

/-- A call is the first one of its tree. -/
theorem head?_bareCalls_of_isBootstrap {n : Node} (h : isBootstrap n) :
    (bareCalls n).head? = some ([], n) := by
  rw [bareCalls, visited_eq, List.filter_cons_of_pos (by exact h), List.head?_cons]

/-- The first call in the first part of a node comes first, if the node is no call itself. -/
theorem head?_bareCalls_of_first {n first call : Node} {rest : List Node} {p : Address}
    (h : isBootstrap n = false) (hparts : n.children = first :: rest)
    (hfirst : (bareCalls first).head? = some (p, call)) :
    (bareCalls n).head? = some (0 :: p, call) := by
  rw [bareCalls, visited_eq, List.filter_cons_of_neg (by simp [h]), hparts]
  exact (congrArg List.head? (bareCallsFrom_cons 0 first rest)).trans (by simp [hfirst])

/-- In a use of the router the call in front of it comes first. -/
theorem head?_bareCalls_of_isRouterUse {n : Node} (h : isRouterUse n) :
    (bareCalls n).head? = some ([0, 0], (n.child 0).child 0) := by
  obtain ⟨-, member, args, types, object, method, -, -, hparts, hkind, hchildren, -, -, -, hobject,
    -⟩ := isRouterUse_iff.mp h
  have hmember : isBootstrap member = false := by
    by_contra hcall
    exact absurd (isBootstrap_iff.mp (by simpa using hcall)).1 (by simp [hkind])
  have hinner : (n.child 0).child 0 = object := by
    simp [child, hparts, hchildren]
  rw [hinner]
  exact head?_bareCalls_of_first (isBootstrap_eq_false h) hparts
    (head?_bareCalls_of_first hmember hchildren (head?_bareCalls_of_isBootstrap hobject))

/-- **The first call.** The first call that creates the application, without what is behind it, is
the call that the search ends at, or the one in it if that is a use of the router. -/
theorem head?_bareCalls (n : Node) : (bareCalls n).head? = (calls n).head?.map bare := by
  induction n using Node.induct with
  | mk kind span parts ih =>
    cases hcall : isCall (.mk kind span parts) with
    | true =>
      rw [head?_calls_of_isCall hcall, Option.map_some, bare]
      split
      · next hrouter => exact head?_bareCalls_of_isRouterUse hrouter
      · next hrouter =>
        exact head?_bareCalls_of_isBootstrap (by simpa [isCall, hrouter] using hcall)
    | false =>
      have hbare : isBootstrap (.mk kind span parts) = false := (Bool.or_eq_false_iff.mp hcall).2
      rw [calls_of_not_isCall hcall, bareCalls, visited_eq,
        List.filter_cons_of_neg (by simp [hbare])]
      exact head?_bareCallsFrom ih 0

/-! ### Chains -/

/-- The kinds of nodes that are put behind an expression: calls, accesses of members, parentheses
and non-null assertions. -/
def isLink : Kind → Bool
  | .call | .optCall _ | .member | .optMember _ | .paren | .nonNull => true
  | _ => false

/-- Whether a node is a chain that begins at an address below it: on the way there is nothing but
links. -/
def isChain : Node → Address → Bool
  | _, [] => true
  | .mk kind _ (first :: _), i :: p => i == 0 && isLink kind && isChain first p
  | .mk _ _ [], _ :: _ => false

/-- Whether a node uses the router, whatever is in front of the use. -/
def registersRouter : Node → Bool
  | .mk kind _ [.mk access _ [_, .mk (.name method _) _ _], .mk .group _ [argument], _] =>
    (kind matches .call | .optCall _) && (access matches .member | .optMember _) &&
      method == "use" && isName routerName argument
  | _ => false

variable {n use call new : Node} {p q r : Address}

/-- A chain stays one with another beginning. -/
theorem isChain_replaceAt (h : isChain n p) : isChain (n.replaceAt new p) p := by
  induction p generalizing n with
  | nil => rw [isChain]
  | cons i p ih =>
    obtain ⟨kind, span, parts⟩ := n
    cases parts with
    | nil => cases h
    | cons first rest =>
      rw [isChain, Bool.and_eq_true, Bool.and_eq_true, beq_iff_eq] at h
      obtain ⟨⟨rfl, hkind⟩, hfirst⟩ := h
      simpa [replaceAt_cons, isChain, hkind, Node.kind, children] using ih hfirst

/-- Between a link that uses the router and the call at the beginning of its chain there is the
access of the method. -/
theorem exists_of_isChain (huse : registersRouter use) (hchain : isChain use p)
    (hat : use.at? p = some call) (hcall : isBootstrap call) : ∃ r, p = 0 :: 0 :: r := by
  obtain ⟨hkind, callee, _, _, _, _, hparts, -, -, hcallee, -⟩ := isBootstrap_iff.mp hcall
  unfold registersRouter at huse
  split at huse
  · next access _ _ _ _ _ _ _ _ _ _ =>
    simp only [Bool.and_eq_true] at huse
    obtain ⟨⟨⟨-, haccess⟩, -⟩, -⟩ := huse
    match p with
    | [] =>
      obtain rfl := Option.some.inj hat
      obtain ⟨rfl, -⟩ := List.cons.inj hparts
      obtain rfl := isName_iff.mp hcallee
      cases haccess
    | [i] =>
      simp only [isChain, Bool.and_eq_true, beq_iff_eq] at hchain
      obtain ⟨⟨rfl, -⟩, -⟩ := hchain
      obtain rfl := Option.some.inj hat
      obtain rfl := hkind
      cases haccess
    | i :: j :: r =>
      simp only [isChain, Bool.and_eq_true, beq_iff_eq] at hchain
      obtain ⟨⟨rfl, -⟩, ⟨rfl, -⟩, -⟩ := hchain
      exact ⟨r, rfl⟩
  · cases huse

/-- A link that uses the router does so with another beginning of its chain, too. -/
theorem registersRouter_replaceAt (h : registersRouter use) (p : Address) :
    registersRouter (use.replaceAt new (0 :: 0 :: p)) := by
  unfold registersRouter at h
  split at h
  · simpa [registersRouter, replaceAt_cons, Node.kind, children] using h
  · cases h

/-! ### What becomes of a chain -/

/-- Calls `.use(router)` and `.use(...router)` directly behind an object, which may have type
arguments. Neither the call nor the access of the method is an optional one, and there are no
parentheses and no non-null assertion between the object and the method. -/
inductive IsPlainUse (object : Node) : Node → Prop
  | mk (callSpan memberSpan nameSpan groupSpan : Span) (isOptional : Bool) (parts : List Node)
    {argument : Node} (types : Node) (hargument : IsRouterArgument argument) :
    IsPlainUse object
      (.mk .call callSpan
        [.mk .member memberSpan [object, .mk (.name "use" isOptional) nameSpan parts],
          .mk .group groupSpan [argument], types])

/-- Whether the first link behind the node at an address is a plain use of the router. -/
def IsUsedAt (tree : Node) (p : Address) : Prop :=
  ∃ above object link, p = above ++ [0, 0] ∧ tree.at? above = some link ∧ IsPlainUse object link

/-- The use of the router that is put behind a call is a plain one. -/
theorem isPlainUse_useRouter (call : Node) : IsPlainUse call (useRouter call) :=
  .mk _ _ _ _ _ _ _ (.name _ _)

/-- The use of the router that the search looks for is a plain use behind a call that creates the
application. -/
theorem isRouterUse_iff_isPlainUse {link : Node} :
    isRouterUse link ↔ ∃ object, isBootstrap object ∧ IsPlainUse object link := by
  constructor
  · intro h
    unfold isRouterUse at h
    split at h
    · simp only [Bool.and_eq_true, beq_iff_eq] at h
      obtain ⟨⟨rfl, hobject⟩, hargument⟩ := h
      exact ⟨_, hobject, .mk _ _ _ _ _ _ _ (isName_argumentValue_iff.mp hargument)⟩
    · cases h
  · rintro ⟨object, hobject, ⟨⟩⟩
    next argument hargument =>
    simp [isRouterUse, hobject, isName_argumentValue_iff.mpr hargument]

/-- Behind a call that creates the application, a plain use of the router is one that the search
looks for. -/
theorem isUsedAt_iff_isRouterUse {tree : Node} (hat : tree.at? p = some call)
    (hcall : isBootstrap call) :
    IsUsedAt tree p ↔
      ∃ above link, p = above ++ [0, 0] ∧ tree.at? above = some link ∧ isRouterUse link := by
  constructor
  · rintro ⟨above, object, link, rfl, hlink, huse⟩
    refine ⟨above, link, rfl, hlink, isRouterUse_iff_isPlainUse.mpr ⟨object, ?_, huse⟩⟩
    obtain rfl : object = call := by
      rw [at?_append, hlink] at hat
      cases huse
      exact Option.some.inj hat
    exact hcall
  · rintro ⟨above, link, rfl, hlink, huse⟩
    obtain ⟨object, -, huse⟩ := isRouterUse_iff_isPlainUse.mp huse
    exact ⟨above, object, link, rfl, hlink, huse⟩

theorem not_append_lt (p q : Address) : ¬p ++ q < p := by
  induction p with
  | nil => simp
  | cons i p ih => simpa [List.cons_lt_cons_iff] using ih

/-- The search ends at a use of the router if and only if there is one behind the first call. -/
theorem isUsedAt_iff {tree : Node} (h : (calls tree).head? = some (p, call)) :
    IsUsedAt tree (bare (p, call)).1 ↔ isRouterUse call := by
  obtain ⟨hvisited, hcall⟩ := List.mem_filter.mp (List.mem_of_mem_head? h)
  have hat := mem_visited_iff.mp hvisited
  constructor
  · intro hused
    by_contra hbare
    rw [bare, if_neg hbare] at hused
    obtain ⟨above, link, rfl, hat, hlink⟩ :=
      (isUsedAt_iff_isRouterUse hat (by simpa [isCall, hbare] using hcall)).mp hused
    have hmem : (above, link) ∈ calls tree :=
      List.mem_filter.mpr ⟨mem_visited_iff.mpr hat, by simp [isCall, hlink]⟩
    obtain ⟨later, hcalls⟩ := List.head?_eq_some_iff.mp h
    have horder : (calls tree).Pairwise fun a b ↦ a.1 < b.1 := (pairwise_visited tree).filter _
    rw [hcalls] at hmem horder
    rcases List.mem_cons.mp hmem with heq | hlater
    · simp at heq
    · exact not_append_lt above [0, 0] ((List.pairwise_cons.mp horder).1 _ hlater)
  · intro hrouter
    obtain ⟨object, -, huse⟩ := isRouterUse_iff_isPlainUse.mp hrouter
    rw [bare, if_pos hrouter]
    exact ⟨p, object, call, rfl, hat, huse⟩

section File

variable {code : String} {file : DiskPath} {m : Module}
  (hread : Source.read code file = .ok m) (himport : (Source.items m).any importsRouter)
  (hmet : (calls m.tree).head? = some (p, call))

include hread himport hmet

/-- A file stays as it is, if it imports the router and its first call uses it. -/
theorem addRouter_of_used (h : isRouterUse call) : addRouter code file = .ok code := by
  have hwrap := wrap_missing m.tree
  rw [hmet, outcome, if_pos h] at hwrap
  exact addRouter_of_isConnected hread (by simp [isConnected, himport, hwrap])

/-- If the first call of a file does not use the router, the file gets the text of the edited
module, in which the call uses it and all else is the same. -/
theorem addRouter_of_bare (h : ¬isRouterUse call) :
    addRouter code file = .ok (edited m).print ∧
      (edited m).tree = m.tree.replaceAt (useRouter call) p := by
  have hwrap := wrap_missing m.tree
  rw [hmet, outcome, if_neg h] at hwrap
  constructor
  · rw [addRouter, hread, edited]
    simp [Except.bind, himport, hwrap]
  · rw [edited, himport, hwrap]
    rfl

end File

/-- A link that uses the router is one with another beginning of its chain, too, and the way to this
beginning is the same. -/
theorem exists_chain_replaceAt {tree : Node} (huse : tree.at? q = some use)
    (hrouter : registersRouter use) (hchain : isChain use r)
    (hcall : tree.at? (q ++ r) = some call) (hbootstrap : isBootstrap call) (new : Node) :
    ∃ other, (tree.replaceAt new (q ++ r)).at? q = some other ∧ registersRouter other ∧
      isChain other r := by
  have hat : use.at? r = some call := by rwa [at?_append, huse] at hcall
  obtain ⟨rest, rfl⟩ := exists_of_isChain hrouter hchain hat hbootstrap
  refine ⟨use.replaceAt new (0 :: 0 :: rest), ?_, registersRouter_replaceAt hrouter rest,
    isChain_replaceAt hchain⟩
  simp only [huse, at?_replaceAt_of_prefix, Option.map_some]

/-- **Chains with the router.** Let a file import the router as a value, and let the first call that
creates the application be the beginning of a chain in which some link uses the router. The file
gets a text.

* If a plain `.use(router)` or `.use(...router)` is directly behind the call, the text is that of
  the file.
* If not, be it that the first link is another one or that it is optional or stands behind
  parentheses or a non-null assertion, the text is that of the edited module, in which a plain
  `.use(router)` is directly behind the call and the chain goes on from there to the link that used
  the router before, so that it is used twice. -/
theorem addRouter_of_chain {code : String} {file : DiskPath} {m : Module}
    (hread : Source.read code file = .ok m) (himport : ∃ item ∈ Source.items m, importsValue item)
    (hfirst : (bareCalls m.tree).head? = some (q ++ r, call))
    (huse : m.tree.at? q = some use) (hrouter : registersRouter use) (hchain : isChain use r) :
    (IsUsedAt m.tree (q ++ r) → addRouter code file = .ok code) ∧
      (¬IsUsedAt m.tree (q ++ r) → addRouter code file = .ok (edited m).print ∧
        (edited m).tree = m.tree.replaceAt (useRouter call) (q ++ r) ∧
        IsPlainUse call (useRouter call) ∧
        ∃ new, (edited m).tree.at? q = some new ∧ registersRouter new ∧ isChain new r) := by
  have hany : (Source.items m).any importsRouter := by
    obtain ⟨item, hitem, hvalue⟩ := himport
    exact List.any_eq_true.mpr ⟨item, hitem, (Bool.and_eq_true_iff.mp hvalue).1⟩
  obtain ⟨hvisited, hbootstrap⟩ := List.mem_filter.mp (List.mem_of_mem_head? hfirst)
  have hcall := mem_visited_iff.mp hvisited
  rw [head?_bareCalls, Option.map_eq_some_iff] at hfirst
  obtain ⟨⟨p, met⟩, hmet, hbare⟩ := hfirst
  have hused : IsUsedAt m.tree (q ++ r) ↔ isRouterUse met := by
    rw [← isUsedAt_iff hmet, hbare]
  refine ⟨fun h ↦ addRouter_of_used hread hany hmet (hused.mp h), fun h ↦ ?_⟩
  have hnot := mt hused.mpr h
  rw [bare, if_neg hnot] at hbare
  obtain ⟨rfl, rfl⟩ := Prod.mk.inj hbare
  obtain ⟨hrun, htree⟩ := addRouter_of_bare hread hany hmet hnot
  refine ⟨hrun, htree, isPlainUse_useRouter met, ?_⟩
  rw [htree]
  exact exists_chain_replaceAt huse hrouter hchain hcall hbootstrap _

/-- An entry file in which the router is used behind parentheses and another plugin. -/
def chainSource : String :=
  "import router from 'virtual:convention-import-routes';\n" ++
    "(createApp(App).use(pinia))!.use(router).mount('#app');\n"

/-- In a chain with parentheses and a non-null assertion the router is used twice. -/
theorem addRouter_of_chain_parenthesized :
    ∃ m p q call use, Source.read chainSource ⟨"/w/src/main.ts"⟩ = .ok m ∧
      (bareCalls m.tree).head? = some (p ++ q, call) ∧
      addRouter chainSource ⟨"/w/src/main.ts"⟩ = .ok (edited m).print ∧
      (edited m).tree = m.tree.replaceAt (useRouter call) (p ++ q) ∧
      IsPlainUse call (useRouter call) ∧
      (edited m).tree.at? p = some use ∧ registersRouter use ∧ isChain use q := by
  have hcheck : (Source.read chainSource ⟨"/w/src/main.ts"⟩).toOption.any fun m ↦
      (Source.items m).any importsValue &&
        (bareCalls m.tree).head?.any (fun first ↦ first.1 == [1, 0, 0, 0] ++ [0, 0, 0, 0, 0, 0]) &&
        (m.tree.at? [1, 0, 0, 0]).any
          (fun use ↦ registersRouter use && isChain use [0, 0, 0, 0, 0, 0]) &&
        (m.tree.at? [1, 0, 0, 0, 0, 0, 0, 0]).all fun link ↦ !isRouterUse link := by
    decide +kernel
  obtain ⟨m, hread, hm⟩ := (Option.any_eq_true _ _).mp hcheck
  simp only [Bool.and_eq_true, List.any_eq_true, Option.any_eq_true, Option.all_eq_true,
    beq_iff_eq, Bool.not_eq_true'] at hm
  obtain ⟨⟨⟨himport, ⟨_, call⟩, hfirst, rfl⟩, use, huse, hrouter, hchain⟩, hbare⟩ := hm
  have hnot : ¬IsUsedAt m.tree ([1, 0, 0, 0] ++ [0, 0, 0, 0, 0, 0]) := by
    obtain ⟨hvisited, hcall⟩ := List.mem_filter.mp (List.mem_of_mem_head? hfirst)
    rw [isUsedAt_iff_isRouterUse (mem_visited_iff.mp hvisited) hcall]
    rintro ⟨above, link, haddress, hat, hlink⟩
    obtain rfl : above = [1, 0, 0, 0, 0, 0, 0, 0] :=
      (List.append_left_injective [0, 0] haddress).symm
    exact absurd hlink (by simp [hbare link hat])
  obtain ⟨hrun, htree, hused, new, hnew, hrouter, hchain⟩ :=
    (addRouter_of_chain (eq_ok_of_toOption hread) himport hfirst huse hrouter hchain).2 hnot
  exact ⟨m, _, _, call, new, eq_ok_of_toOption hread, hfirst, hrun, htree, hused, hnew, hrouter,
    hchain⟩

/-- An entry file in which the router is used behind another plugin. -/
def pluginSource : String :=
  "import router from 'virtual:convention-import-routes';\n" ++
    "createApp(App).use(pinia).use(router);\n"

/-- A chain in which the router is used gets a second use of it. -/
theorem exists_chain_used_twice :
    ∃ m p q call use, Source.read pluginSource ⟨"/w/src/main.ts"⟩ = .ok m ∧
      (∃ item ∈ Source.items m, importsValue item) ∧
      (bareCalls m.tree).head? = some (p ++ q, call) ∧ m.tree.at? p = some use ∧
      registersRouter use ∧ isChain use q ∧
      addRouter pluginSource ⟨"/w/src/main.ts"⟩ =
        .ok ("import router from 'virtual:convention-import-routes';\n" ++
          "createApp(App).use(router).use(pinia).use(router);\n") := by
  have hcheck : (Source.read pluginSource ⟨"/w/src/main.ts"⟩).toOption.any fun m ↦
      (Source.items m).any importsValue &&
        (bareCalls m.tree).head?.any (fun first ↦ first.1 == [1, 0] ++ [0, 0, 0, 0]) &&
        (m.tree.at? [1, 0]).any (fun use ↦ registersRouter use && isChain use [0, 0, 0, 0]) := by
    decide +kernel
  have hrun : (addRouter pluginSource ⟨"/w/src/main.ts"⟩).toOption =
      some ("import router from 'virtual:convention-import-routes';\n" ++
        "createApp(App).use(router).use(pinia).use(router);\n") := by
    decide +kernel
  obtain ⟨m, hread, hm⟩ := (Option.any_eq_true _ _).mp hcheck
  simp only [Bool.and_eq_true, List.any_eq_true, Option.any_eq_true, beq_iff_eq] at hm
  obtain ⟨⟨himport, ⟨_, call⟩, hfirst, rfl⟩, use, huse, hrouter, hchain⟩ := hm
  exact ⟨m, _, _, call, use, eq_ok_of_toOption hread, himport, hfirst, huse, hrouter, hchain,
    eq_ok_of_toOption hrun⟩

end PageRoutes.EntryFile
