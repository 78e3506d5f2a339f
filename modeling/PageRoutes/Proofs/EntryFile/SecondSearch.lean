import PageRoutes.Proofs.EntryFile.Search
import PageRoutes.Proofs.Syntax.Spans
/-!
# A second search

After a search has met a call that creates the application, a second one meets the same call with
the use of the router and changes nothing. No node before the call has become a call by the change:
a search keeps the kinds of nodes, so a node above the call cannot turn into a call without the use
of the router, and it cannot turn into one with it, since no call without it is left in its place.

What a search does not look at are the ranges of nodes. So it does the same with a tree that was
printed and read again, as long as this is the same tree but for the ranges.

## Main results

* `EntryFile.isBootstrap_iff`, `EntryFile.isRouterUse_iff` : the calls, by kinds and parts.
* `EntryFile.wrap_wrap` : a second search meets a call with the use of the router.
* `EntryFile.wrap_withoutSpans` : a search in a tree without ranges.
-/

namespace PageRoutes.EntryFile

open Syntax Node

/-! ### Calls by kinds and parts -/

/-- A call that creates the application, by the kinds of the nodes that it is made of. -/
theorem isBootstrap_iff {n : Node} :
    isBootstrap n ↔ n.kind = .call ∧ ∃ callee args types first more,
      n.children = [callee, args, types] ∧ args.kind = .group ∧ args.children = first :: more ∧
        isName "createApp" callee ∧ isName "App" first := by
  obtain ⟨kind, span, parts⟩ := n
  constructor
  · intro h
    unfold isBootstrap at h
    split at h
    · next heq =>
      cases heq
      rw [Bool.and_eq_true] at h
      exact ⟨rfl, _, _, _, _, _, rfl, rfl, rfl, h⟩
    · cases h
  · rintro ⟨rfl, callee, ⟨_, _, _⟩, types, first, more, rfl, rfl, rfl, hcallee, hfirst⟩
    simp [isBootstrap, hcallee, hfirst]

/-- A call with the use of the router, by the kinds of the nodes that it is made of. -/
theorem isRouterUse_iff {n : Node} :
    isRouterUse n ↔ n.kind = .call ∧ ∃ member args types object method argument isOptional,
      n.children = [member, args, types] ∧ member.kind = .member ∧
        member.children = [object, method] ∧ method.kind = .name "use" isOptional ∧
        args.kind = .group ∧ args.children = [argument] ∧
        isBootstrap object ∧ isName routerName (argumentValue argument) := by
  obtain ⟨kind, span, parts⟩ := n
  constructor
  · intro h
    unfold isRouterUse at h
    split at h
    · next heq =>
      cases heq
      simp only [Bool.and_eq_true, beq_iff_eq] at h
      obtain ⟨⟨rfl, hobject⟩, hargument⟩ := h
      exact ⟨rfl, _, _, _, _, _, _, _, rfl, rfl, rfl, rfl, rfl, rfl, hobject, hargument⟩
    · cases h
  · rintro ⟨rfl, ⟨_, _, _⟩, ⟨_, _, _⟩, types, object, ⟨_, _, _⟩, argument, isOptional, rfl, rfl,
      rfl, rfl, rfl, rfl, hobject, hargument⟩
    simp [isRouterUse, hobject, hargument]

/-! ### What a search keeps of the shape of a tree -/

@[simp] theorem isRouterUse_useRouter {call : Node} (h : isBootstrap call) :
    isRouterUse (useRouter call) := by
  simp [useRouter, isRouterUse, group, h, argumentValue, isName, identName?, Node.kind]

/-- A search keeps the kind of a node, whatever it changes. -/
theorem kind_wrap (state : Bootstrap) (n : Node) : (wrap state n).2.kind = n.kind := by
  obtain ⟨kind, span, parts⟩ := n
  simp only [wrap]
  split
  · rfl
  · split
    · rfl
    · split
      · next hbootstrap =>
        obtain ⟨rfl, -⟩ := isBootstrap_iff.mp hbootstrap
        rfl
      · rfl

@[simp] theorem isName_wrap (state : Bootstrap) (n : Node) (name : String) :
    isName name (wrap state n).2 = isName name n := by
  rw [isName, isName, identName?, identName?, kind_wrap]

theorem kind_eq_of_isCall {n : Node} (h : isCall n) : n.kind = .call := by
  rcases Bool.or_eq_true_iff.mp h with h | h
  · exact (isRouterUse_iff.mp h).1
  · exact (isBootstrap_iff.mp h).1

/-- In a node of another kind than a call the search goes on in the parts. -/
theorem children_wrap {state : Bootstrap} {n : Node} (h : n.kind ≠ .call) :
    (wrap state n).2.children = (wrapAll state n.children).2 := by
  by_cases hstate : state = .missing
  · subst hstate
    rw [wrap_of_not_isCall (by simpa using fun hcall ↦ h (kind_eq_of_isCall hcall))]
    rfl
  · rw [wrap_of_ne_missing hstate, wrapAll_of_ne_missing hstate]

/-- What the first of some parts has become, it has become by itself. -/
theorem exists_of_wrapAll_eq_cons {state : Bootstrap} {parts rest : List Node} {first : Node}
    (h : (wrapAll state parts).2 = first :: rest) :
    ∃ n others, parts = n :: others ∧ first = (wrap state n).2 ∧
      rest = (wrapAll (wrap state n).1 others).2 := by
  cases parts with
  | nil => cases h
  | cons n others =>
    rw [wrapAll_cons, List.cons.injEq] at h
    exact ⟨n, others, rfl, h.1.symm, h.2.symm⟩

theorem eq_nil_of_wrapAll_eq_nil {state : Bootstrap} {parts : List Node}
    (h : (wrapAll state parts).2 = []) : parts = [] := by
  cases parts with
  | nil => rfl
  | cons n others =>
    rw [wrapAll_cons] at h
    cases h

/-- A search in the parts of a node does not make a call of it. -/
theorem isBootstrap_of_wrapAll {kind : Kind} {span : Span} {parts : List Node}
    (h : isBootstrap (.mk kind span (wrapAll .missing parts).2)) :
    isBootstrap (.mk kind span parts) := by
  obtain ⟨hkind, _, _, _, _, _, hparts, hgroup, hargs, hcallee, hfirst⟩ := isBootstrap_iff.mp h
  obtain ⟨callee, _, rfl, rfl, hargs'⟩ := exists_of_wrapAll_eq_cons hparts
  obtain ⟨args, _, rfl, rfl, htypes⟩ := exists_of_wrapAll_eq_cons hargs'.symm
  obtain ⟨types, _, rfl, rfl, hend⟩ := exists_of_wrapAll_eq_cons htypes.symm
  obtain rfl := eq_nil_of_wrapAll_eq_nil hend.symm
  rw [kind_wrap] at hgroup
  rw [children_wrap (by simp [hgroup])] at hargs
  obtain ⟨first, more, hchildren, rfl, -⟩ := exists_of_wrapAll_eq_cons hargs
  rw [isName_wrap] at hcallee hfirst
  exact isBootstrap_iff.mpr ⟨hkind, callee, args, types, first, more, rfl, hgroup, hchildren,
    hcallee, hfirst⟩

/-- What the search has gone through is no call without the use of the router. -/
theorem isBootstrap_wrap (n : Node) : isBootstrap (wrap .missing n).2 = false := by
  cases hcall : isCall n with
  | true =>
    obtain ⟨kind, span, parts⟩ := n
    cases hrouter : isRouterUse (.mk kind span parts) with
    | true => simpa [wrap, hrouter] using isBootstrap_eq_false hrouter
    | false =>
      have hbootstrap : isBootstrap (.mk kind span parts) := by simpa [isCall, hrouter] using hcall
      simpa [wrap, hrouter, hbootstrap] using
        isBootstrap_eq_false (isRouterUse_useRouter hbootstrap)
  | false =>
    rw [wrap_of_not_isCall hcall]
    by_contra hnew
    have hold := isBootstrap_of_wrapAll (by simpa using hnew)
    obtain ⟨kind, span, parts⟩ := n
    have hold : isBootstrap (.mk kind span parts) := hold
    simp [isCall, hold] at hcall

/-- A node is no call with the use of the router after a search has gone through its parts: what
stands before the use is no call without it any more. -/
theorem isRouterUse_wrapAll (kind : Kind) (span : Span) (parts : List Node) :
    isRouterUse (.mk kind span (wrapAll .missing parts).2) = false := by
  by_contra h
  obtain ⟨-, _, _, _, _, _, _, _, hparts, hmember, hchildren, -, -, -, hobject, -⟩ :=
    isRouterUse_iff.mp (by simpa using h)
  obtain ⟨member, _, rfl, rfl, -⟩ := exists_of_wrapAll_eq_cons hparts
  rw [kind_wrap] at hmember
  rw [children_wrap (by simp [hmember])] at hchildren
  obtain ⟨object, _, -, rfl, -⟩ := exists_of_wrapAll_eq_cons hchildren
  simp [isBootstrap_wrap] at hobject

/-! ### A second search -/

/-- A search that misses changes nothing. -/
theorem wrap_eq_of_missing {n : Node} (h : (wrap .missing n).1 = .missing) :
    wrap .missing n = (.missing, n) := by
  rw [wrap_missing] at h ⊢
  cases hfirst : (calls n).head? with
  | none => rfl
  | some first =>
    rw [hfirst] at h
    obtain ⟨p, call⟩ := first
    cases hcall : isRouterUse call <;> simp [outcome, hcall] at h

/-- If a second search in each of some parts meets the call that the first one has wrapped, so does
a second search in all of them. -/
theorem wrapAll_wrapAll {parts : List Node}
    (h : ∀ n ∈ parts, (wrap .missing n).1 ≠ .missing →
      wrap .missing (wrap .missing n).2 = (.alreadyWrapped, (wrap .missing n).2))
    (hmet : (wrapAll .missing parts).1 ≠ .missing) :
    wrapAll .missing (wrapAll .missing parts).2 =
      (.alreadyWrapped, (wrapAll .missing parts).2) := by
  induction parts with
  | nil => exact absurd rfl hmet
  | cons n rest ih =>
    obtain ⟨hn, hrest⟩ := List.forall_mem_cons.mp h
    rw [wrapAll_cons] at hmet ⊢
    by_cases hstate : (wrap .missing n).1 = .missing
    -- The first part has no call and is searched again in vain.
    · simp only [wrap_eq_of_missing hstate] at hmet ⊢
      rw [wrapAll_cons, wrap_eq_of_missing hstate, ih hrest hmet]
    · simp only [wrapAll_of_ne_missing hstate, wrapAll_cons, hn hstate]
      rw [wrapAll_of_ne_missing (by simp)]

/-- **A second search.** If a search has met a call, a second search in what it has made of the tree
meets a call with the use of the router and changes nothing. -/
theorem wrap_wrap (n : Node) (hmet : (wrap .missing n).1 ≠ .missing) :
    wrap .missing (wrap .missing n).2 = (.alreadyWrapped, (wrap .missing n).2) := by
  induction n using Node.induct with
  | mk kind span parts ih =>
    cases hcall : isCall (.mk kind span parts) with
    | true =>
      cases hrouter : isRouterUse (.mk kind span parts) with
      | true => simp [wrap, hrouter]
      | false =>
        have hbootstrap : isBootstrap (.mk kind span parts) := by
          simpa [isCall, hrouter] using hcall
        have hwrap : (wrap .missing (.mk kind span parts)).2 = useRouter (.mk kind span parts) := by
          simp [wrap, hrouter, hbootstrap]
        rw [hwrap]
        have huse := isRouterUse_useRouter hbootstrap
        simp only [useRouter] at huse ⊢
        simp [wrap, huse]
    | false =>
      -- The node is no call with its new parts either, so the second search goes on in them.
      rw [wrap_of_not_isCall hcall] at hmet ⊢
      have hnew : isCall (.mk kind span (wrapAll .missing parts).2) = false := by
        rw [isCall, isRouterUse_wrapAll, Bool.false_or]
        by_contra hnew
        simp [isCall, isBootstrap_of_wrapAll (by simpa using hnew)] at hcall
      have hparts := wrapAll_wrapAll ih hmet
      refine (wrap_of_not_isCall hnew).trans ?_
      simp only [children, hparts]
      rfl

/-! ### Searches and ranges -/

@[simp] theorem isName_withoutSpans (name : String) (n : Node) :
    isName name n.withoutSpans = isName name n := by
  rw [isName, isName, identName?_withoutSpans]

@[simp] theorem isBootstrap_withoutSpans (n : Node) :
    isBootstrap n.withoutSpans = isBootstrap n := by
  rw [Bool.eq_iff_iff, isBootstrap_iff, isBootstrap_iff, kind_withoutSpans, children_withoutSpans]
  refine and_congr_right fun _ ↦ ⟨?_, ?_⟩
  · rintro ⟨_, _, _, _, _, hparts, hgroup, hargs, hcallee, hfirst⟩
    simp only [List.map_eq_cons_iff, List.map_eq_nil_iff] at hparts
    obtain ⟨callee, _, hparts, rfl, args, _, rfl, rfl, types, _, rfl, rfl, rfl⟩ := hparts
    rw [children_withoutSpans, List.map_eq_cons_iff] at hargs
    obtain ⟨first, more, hargs, rfl, -⟩ := hargs
    exact ⟨callee, args, types, first, more, hparts, by simpa using hgroup, hargs,
      by simpa using hcallee, by simpa using hfirst⟩
  · rintro ⟨callee, args, types, first, more, hparts, hgroup, hargs, hcallee, hfirst⟩
    exact ⟨_, _, _, _, _, by rw [hparts]; rfl, by simpa using hgroup,
      by rw [children_withoutSpans, hargs]; rfl, by simpa using hcallee, by simpa using hfirst⟩

@[simp] theorem argumentValue_withoutSpans (n : Node) :
    argumentValue n.withoutSpans = (argumentValue n).withoutSpans := by
  fun_cases argumentValue n with
  | case1 span value => simp [withoutSpans, allWithoutSpans, argumentValue]
  | case2 _ hspread =>
    obtain ⟨kind, span, parts⟩ := n
    rw [withoutSpans]
    unfold argumentValue
    split
    · next heq =>
      simp only [mk.injEq, allWithoutSpans_eq_map, List.map_eq_singleton_iff] at heq
      obtain ⟨rfl, -, value, rfl, -⟩ := heq
      exact (hspread _ _ rfl).elim
    · rfl

@[simp] theorem isRouterUse_withoutSpans (n : Node) :
    isRouterUse n.withoutSpans = isRouterUse n := by
  rw [Bool.eq_iff_iff, isRouterUse_iff, isRouterUse_iff, kind_withoutSpans, children_withoutSpans]
  refine and_congr_right fun _ ↦ ⟨?_, ?_⟩
  · rintro ⟨_, _, _, _, _, _, _, hparts, hmember, hinside, hmethod, hgroup, hargs, hobject, hname⟩
    simp only [List.map_eq_cons_iff, List.map_eq_nil_iff] at hparts
    obtain ⟨member, _, hparts, rfl, args, _, rfl, rfl, types, _, rfl, rfl, rfl⟩ := hparts
    simp only [children_withoutSpans, List.map_eq_cons_iff, List.map_eq_nil_iff] at hinside hargs
    obtain ⟨object, _, hinside, rfl, method, _, rfl, rfl, rfl⟩ := hinside
    obtain ⟨argument, _, hargs, rfl, rfl⟩ := hargs
    exact ⟨member, args, types, object, method, argument, _, hparts, by simpa using hmember,
      hinside, by simpa using hmethod, by simpa using hgroup, hargs, by simpa using hobject,
      by simpa using hname⟩
  · rintro ⟨member, args, types, object, method, argument, isOptional, hparts, hmember, hinside,
      hmethod, hgroup, hargs, hobject, hname⟩
    exact ⟨_, _, _, _, _, _, isOptional, by rw [hparts]; rfl, by simpa using hmember,
      by rw [children_withoutSpans, hinside]; rfl, by simpa using hmethod, by simpa using hgroup,
      by rw [children_withoutSpans, hargs]; rfl, by simpa using hobject, by simpa using hname⟩

@[simp] theorem useRouter_withoutSpans (call : Node) :
    useRouter call.withoutSpans = (useRouter call).withoutSpans := by
  obtain ⟨kind, span, parts⟩ := call
  simp [useRouter, withoutSpans, allWithoutSpans, Node.span, group, absent]

/-- **Searches and ranges.** A search does not look at the ranges of nodes. -/
theorem wrap_withoutSpans (state : Bootstrap) (n : Node) :
    wrap state n.withoutSpans = ((wrap state n).1, (wrap state n).2.withoutSpans) := by
  induction n using Node.induct generalizing state with
  | mk kind span parts ih =>
    have hparts (state : Bootstrap) : wrapAll state (allWithoutSpans parts) =
        ((wrapAll state parts).1, allWithoutSpans (wrapAll state parts).2) := by
      induction parts generalizing state with
      | nil => rfl
      | cons n rest ihRest =>
        obtain ⟨hn, hrest⟩ := List.forall_mem_cons.mp ih
        rw [allWithoutSpans, wrapAll_cons, hn, ihRest hrest, wrapAll_cons]
        rfl
    have hrouter := isRouterUse_withoutSpans (.mk kind span parts)
    have hbootstrap := isBootstrap_withoutSpans (.mk kind span parts)
    have huse := useRouter_withoutSpans (.mk kind span parts)
    rw [withoutSpans] at hrouter hbootstrap huse ⊢
    simp only [wrap, hrouter, hbootstrap, huse, hparts]
    split_ifs <;> simp [withoutSpans]

end PageRoutes.EntryFile
