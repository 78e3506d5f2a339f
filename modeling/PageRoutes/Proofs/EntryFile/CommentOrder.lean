import PageRoutes.Proofs.EntryFile.Rerun
import PageRoutes.Proofs.Syntax.Comments.Programs
/-!
# The comments of an edited file

An entry file that gets a new text keeps its comments: the new text has the comments, in their
order, of the text that is printed for the file as it is. The node that is put around the first call
begins and ends where the call does, and so does the member inside it. Each of the three nodes asks
for the comments at both places, but a place gives its comments once, to the node that asks first,
and nothing else is taken in between. The parts that are added have no places, and neither has
the import.

## Main results

* `EntryFile.alike_useRouter` : a call takes the comments it took before the router was used.
* `EntryFile.alike_wrap` : a search keeps the comments of a tree.
* `EntryFile.agrees_withImport` : the import takes no comments.
* `EntryFile.comments_edited` : an edited module takes the comments of the module.
* `EntryFile.comments_addRouter` : the comments of a new text.
-/

namespace PageRoutes.EntryFile

open Syntax View Node

/-! ### The call that uses the router -/

section Call

variable {span : Span} {inner : Doc}

/-- A document between the comments that lead its beginning and those that trail its end. -/
def between (span : Span) (inner : Doc) : Doc :=
  .comments .leading span.lo ++ (inner ++ .comments .trailing span.hi)

/-- Behind its end there are no more comments that trail it, -/
theorem agrees_between_trailing :
    (between span inner ++ .comments .trailing span.hi : Doc).Agrees (between span inner) := by
  refine (Doc.Agrees.append_assoc _ _ _).trans ((Doc.Agrees.refl _).append ?_)
  exact (Doc.Agrees.append_assoc _ _ _).trans
    ((Doc.Agrees.refl _).append (.comments_comments _ _))

/-- and where its beginning was asked before, the document takes no less. -/
theorem agrees_leading_between :
    (.comments .leading span.lo ++ between span inner : Doc).Agrees (between span inner) :=
  (Doc.Agrees.append_assoc _ _ _).symm.trans
    ((Doc.Agrees.comments_comments _ _).append (.refl _))

/-- Between the places of one node, a document between the same places takes what it takes alone. -/
theorem agrees_between_between : (between span (between span inner)).Agrees (between span inner) :=
  ((Doc.Agrees.refl _).append agrees_between_trailing).trans agrees_leading_between

end Call

/-- **The call.** A call that creates the application takes the comments that it takes without the
use of the router behind it. -/
theorem alike_useRouter {n : Node} (h : isBootstrap n) : Alike (useRouter n).view n.view := by
  unfold isBootstrap at h
  split at h
  · next span function span' first rest typeArgs =>
    let group : Node := .mk .group span' (first :: rest)
    let n : Node := .mk .call span [function, group, typeArgs]
    let method : Node := .mk (.name "use" false) .none []
    let router : Node := .mk (.ident routerName) .none []
    let member : Node := .mk .member span [n, method]
    let inner : Doc := callee function.view ++ typeArgs.view.bare ++ arguments span group.view
    have hmember : member.view.bare.Agrees (between span inner) := calc
      member.view.bare
      _ = .comments .leading span.lo ++ (between span inner ++ .comments .trailing span.hi
            ++ property n.view method.view) := rfl
      Doc.Agrees _ (.comments .leading span.lo ++ (between span inner ++ .empty)) := by
        gcongr
        · exact agrees_between_trailing
        · exact fun _ ↦ rfl
      Doc.Agrees _ (.comments .leading span.lo ++ between span inner) := by
        gcongr
        exact .append_empty _
      Doc.Agrees _ (between span inner) := agrees_leading_between
    have hargs : (arguments span (Node.group [router]).view).Agrees .empty := by
      have hled : (router.view.led span).Agrees .empty := by
        rw [View.led]
        split <;> exact fun _ ↦ rfl
      have hrouter : router.view.shown.Agrees .empty := fun _ ↦ rfl
      exact (((Doc.Agrees.text "(").append (hrouter.append hled)).append (.text ")")).trans
        fun _ ↦ rfl
    have huse : (useRouter n).view.bare.Agrees n.view.bare := calc
      (useRouter n).view.bare
      _ = between span (member.view.bare ++ .comments .trailing span.hi
            ++ Node.absent.view.bare ++ arguments span (Node.group [router]).view) := rfl
      Doc.Agrees _ (between span
          (between span inner ++ .comments .trailing span.hi ++ .empty ++ .empty)) := by
        unfold between at hmember ⊢
        gcongr
        exact fun _ ↦ rfl
      Doc.Agrees _ (between span (between span inner)) := by
        refine (Doc.Agrees.refl _).append (Doc.Agrees.append ?_ (.refl _))
        exact (Doc.Agrees.append_empty _).trans
          ((Doc.Agrees.append_empty _).trans agrees_between_trailing)
      Doc.Agrees _ (between span inner) := agrees_between_between
    exact .mk rfl rfl huse .nil
  · cases h

/-! ### The search -/

/-- **The search.** A search keeps what is seen of a tree, apart from its text. -/
theorem alike_wrap (state : Bootstrap) (n : Node) : Alike (wrap state n).2.view n.view := by
  induction n using Node.induct generalizing state with
  | mk kind span parts ih =>
    have hparts (state : Bootstrap) :
        List.Forall₂ Alike (viewAll (wrapAll state parts).2) (viewAll parts) := by
      induction parts generalizing state with
      | nil => exact .nil
      | cons n rest ihRest =>
        obtain ⟨hn, hrest⟩ := List.forall_mem_cons.mp ih
        rw [wrapAll_cons]
        exact .cons (hn state) (ihRest hrest _)
    rw [wrap]
    split
    · exact .refl _
    · split
      · exact .refl _
      · split
        · next hbootstrap => exact alike_useRouter hbootstrap
        · exact alike_of_parts kind span (hparts state)

/-! ### The import -/

/-- The import of the router takes no comments. -/
theorem agrees_item_routerImport : (item routerImport.view).Agrees .empty := fun _ ↦ rfl

/-- **The import.** With the import of the router a module takes the comments that it takes without
it. -/
theorem agrees_withImport {m : Module} (hkind : ∃ shebang, m.tree.kind = .module shebang)
    (hasImport : Bool) :
    (withImport hasImport m).tree.view.bare.Agrees m.tree.view.bare := by
  obtain ⟨⟨kind, span, items⟩, comments, ending⟩ := m
  obtain ⟨shebang, rfl⟩ : ∃ shebang, kind = .module shebang := hkind
  cases hasImport with
  | true => exact .refl _
  | false =>
    have hitems : (Doc.concat ((viewAll (routerImport :: items)).map item)).Agrees
        (Doc.concat ((viewAll items).map item)) :=
      (agrees_item_routerImport.append (.refl _)).trans (.empty_append _)
    exact (Doc.Agrees.refl _).append (((Doc.Agrees.refl _).append hitems).append (.refl _))

/-! ### The new text -/

/-- A file that is read has the same comments among its fragments before and after the edit. -/
theorem comments_edited {code : String} {file : DiskPath} {m : Module}
    (hread : Source.read code file = .ok m) :
    Fragment.comments (edited m).fragments = Fragment.comments m.fragments := by
  obtain ⟨shebang, hmodule⟩ := kind_of_read hread
  have hsearch := (alike_wrap .missing m.tree).bare
  have himport := agrees_withImport (m := { m with tree := (wrap .missing m.tree).2 })
    ⟨shebang, by rw [kind_wrap, hmodule]⟩ ((Source.items m).any importsRouter)
  have hcomments : (edited m).comments = m.comments := by
    rw [edited, withImport]
    split <;> rfl
  rw [Module.comments_fragments, Module.comments_fragments, hcomments]
  exact congrArg Prod.fst ((himport.trans hsearch) m.comments)

/-- **The comments of a new text.** Let a file get a text. If the file is connected, this is its
own. Otherwise it is printed in fragments, as the file itself can be, and the comments among the
fragments are the same ones in the same order: none is lost, none stands there twice, and none is
added. -/
theorem comments_addRouter {code out : String} {file : DiskPath}
    (h : addRouter code file = .ok out) :
    ∃ m, Source.read code file = .ok m ∧
      if isConnected m then out = code
      else
        out = Fragment.join (edited m).fragments ∧ m.print = Fragment.join m.fragments ∧
          Fragment.comments (edited m).fragments = Fragment.comments m.fragments := by
  obtain ⟨m, hread, -, hout⟩ := exists_of_addRouter h
  refine ⟨m, hread, ?_⟩
  split
  · next hconnected => rw [hout, if_pos hconnected]
  · next hconnected =>
    rw [if_neg hconnected] at hout
    exact ⟨by rw [hout, Module.join_fragments], m.join_fragments.symm, comments_edited hread⟩

/-- An entry file with comments around its first statement, which is the call, and inside the call.
-/
def commentedSource : String :=
  "// head\n/* before */ createApp(App /* argument */) /* behind */; // tail\n"

/-- The comments of the new text of such a file. -/
theorem comments_addRouter_commented :
    ∃ m out, Source.read commentedSource ⟨"/w/src/main.ts"⟩ = .ok m ∧
      addRouter commentedSource ⟨"/w/src/main.ts"⟩ = .ok out ∧
      out = Fragment.join (edited m).fragments ∧
      Fragment.comments (edited m).fragments =
        [⟨false, " head", rfl⟩, ⟨true, " before ", rfl⟩,
          ⟨true, " argument ", rfl⟩, ⟨true, " behind ", rfl⟩,
          ⟨false, " tail", rfl⟩] := by
  have hcheck : (Source.read commentedSource ⟨"/w/src/main.ts"⟩).toOption.map
      (fun m ↦ (isConnected m, Fragment.comments m.fragments)) =
        some (false, [⟨false, " head", rfl⟩, ⟨true, " before ", rfl⟩,
          ⟨true, " argument ", rfl⟩, ⟨true, " behind ", rfl⟩,
          ⟨false, " tail", rfl⟩]) := by
    decide +kernel
  have hok : (addRouter commentedSource ⟨"/w/src/main.ts"⟩).toOption.isSome := by decide +kernel
  obtain ⟨m, hread, hm⟩ := Option.map_eq_some_iff.mp hcheck
  obtain ⟨hconnected, hcomments⟩ := Prod.mk.inj hm
  obtain ⟨out, hout⟩ := Option.isSome_iff_exists.mp hok
  have hread := eq_ok_of_toOption hread
  have hout := eq_ok_of_toOption hout
  obtain ⟨_, hread', hnew⟩ := comments_addRouter hout
  cases hread.symm.trans hread'
  rw [if_neg (by simp [hconnected])] at hnew
  obtain ⟨htext, -, hsame⟩ := hnew
  exact ⟨m, out, hread, hout, htext, hsame.trans hcomments⟩

end PageRoutes.EntryFile
