import PageRoutes.Proofs.Syntax.Spans
import PageRoutes.Proofs.Syntax.Tokens
import PageRoutes.Syntax.Parser
/-!
# Reading known tokens

What a step of the reading makes of a state depends on the tokens that are left and on hardly
anything else. So steps are described by the tokens in front of which they start and those in front
of which they end, and such descriptions are put together as the steps are. No step loses a comment,
and a step that comes upon the end of the text finds all of them filed.

## Main definitions

* `ParseState.Ready` : states in front of tokens.
* `Parse.Reads` : what a step reads and gives.

## Main results

* `Parse.Reads.bind` : steps one after the other.
* `Parse.Reads.collect` : items one after the other.
-/

namespace PageRoutes.Syntax

/-- The tokens that were looked at but not taken. -/
def ParseState.seen (s : ParseState) : List Token :=
  (s.current.toList ++ s.following.toList).map Lexeme.token

/-- A state in front of tokens, with the comments of the whole text. -/
def ParseState.Ready (s : ParseState) (ts : List Token) (cs : List Comment) : Prop :=
  ∃ rest, s.lexer.Faces rest cs ∧ ts = s.seen ++ rest

namespace Parse

open ParseState

/-- What a step makes of states in front of tokens: it ends in front of others, and gives a result
with a property and a lexer with a property. The comments stay what they are. -/
def Reads {α : Type} (g : Grammar) (p : Parse α) (ts ts' : List Token) (P : α → Prop)
    (F : List Comment → Lexer → Prop := fun _ _ ↦ True) : Prop :=
  ∀ cs s, Ready s ts cs → ∃ a s', p g s = .ok a s' ∧ Ready s' ts' cs ∧ P a ∧ F cs s'.lexer

variable {α β : Type} {g : Grammar} {p : Parse α} {f : α → Parse β} {t u : Token}
  {ts k ts' : List Token} {P : α → Prop} {Q : β → Prop} {F : List Comment → Lexer → Prop}

/-- A step behind another one goes on from where that one has ended. -/
theorem bind_of_ok {s s' : ParseState} {a : α} (h : p g s = .ok a s') :
    (p >>= f) g s = f a g s' := by
  change EStateM.bind (p g) (fun a ↦ f a g) s = _
  rw [EStateM.bind, h]

namespace Reads

theorem mono {P' : α → Prop} (h : Reads g p ts ts' P F) (hP : ∀ a, P a → P' a) :
    Reads g p ts ts' P' F :=
  fun cs s hs ↦
    let ⟨a, s', hrun, hs', ha, hF⟩ := h cs s hs
    ⟨a, s', hrun, hs', hP a ha, hF⟩

/-- What is known of the lexer need not be told. -/
theorem forget (h : Reads g p ts ts' P F) : Reads g p ts ts' P :=
  fun cs s hs ↦
    let ⟨a, s', hrun, hs', ha, _⟩ := h cs s hs
    ⟨a, s', hrun, hs', ha, trivial⟩

theorem pure {a : α} (h : P a) : Reads g (pure a) ts ts P :=
  fun _ s hs ↦ ⟨a, s, rfl, hs, h, trivial⟩

/-- **One step after the other.** -/
theorem bind (hp : Reads g p ts k P) (hf : ∀ a, P a → Reads g (f a) k ts' Q F) :
    Reads g (p >>= f) ts ts' Q F := by
  intro cs s hs
  obtain ⟨a, s', hrun, hs', ha, -⟩ := hp cs s hs
  obtain ⟨b, s'', hrun', hs'', hb, hF⟩ := hf a ha cs s' hs'
  exact ⟨b, s'', (bind_of_ok hrun).trans hrun', hs'', hb, hF⟩

/-- A step with a known result before another step. -/
theorem bind_eq {a : α} (hp : Reads g p ts k (· = a)) (hf : Reads g (f a) k ts' Q F) :
    Reads g (p >>= f) ts ts' Q F :=
  hp.bind fun _ ha ↦ ha ▸ hf

/-- A step that leaves the lexer alone behind another step. -/
theorem bind_still (hp : Reads g p ts ts' P F) (hf : ∀ a, P a → ∀ s, ∃ b s', f a g s = .ok b s' ∧
      s'.lexer = s.lexer ∧ s'.current = s.current ∧ s'.following = s.following ∧ Q b) :
    Reads g (p >>= f) ts ts' Q F := by
  intro cs s hs
  obtain ⟨a, s', hrun, ⟨rest, hfaces, hts⟩, ha, hF⟩ := hp cs s hs
  obtain ⟨b, s'', hrun', hlexer, hcurrent, hfollowing, hb⟩ := hf a ha s'
  refine ⟨b, s'', (bind_of_ok hrun).trans hrun', ⟨rest, hlexer ▸ hfaces, ?_⟩, hb, hlexer ▸ hF⟩
  rw [hts, seen, seen, hcurrent, hfollowing]

theorem map {f : α → β} (hp : Reads g p ts ts' P F) (hf : ∀ a, P a → Q (f a)) :
    Reads g (f <$> p) ts ts' Q F := by
  rw [← bind_pure_comp]
  exact hp.bind_still fun a ha s ↦ ⟨f a, s, rfl, rfl, rfl, rfl, hf a ha⟩

theorem pure_bind {a : α} (h : Reads g (f a) ts ts' Q F) :
    Reads g (Pure.pure a >>= f) ts ts' Q F :=
  bind_eq (pure rfl) h

theorem ite_pos {c : Prop} [Decidable c] {q : Parse α} (hc : c) (h : Reads g p ts ts' P F) :
    Reads g (if c then p else q) ts ts' P F := by
  rwa [if_pos hc]

theorem ite_neg {c : Prop} [Decidable c] {q : Parse α} (hc : ¬c) (h : Reads g q ts ts' P F) :
    Reads g (if c then p else q) ts ts' P F := by
  rwa [if_neg hc]

theorem ite {c : Prop} [Decidable c] {q : Parse α} (hp : c → Reads g p ts ts' P)
    (hq : ¬c → Reads g q ts ts' P) : Reads g (if c then p else q) ts ts' P := by
  split
  · exact hp ‹_›
  · exact hq ‹_›

/-- A step that concerns neither the tokens nor where they come from. -/
theorem of_untouched (h : ∀ s, ∃ a s', p g s = .ok a s' ∧ s'.lexer = s.lexer ∧
    s'.current = s.current ∧ s'.following = s.following) : Reads g p ts ts fun _ ↦ True := by
  rintro cs s ⟨rest, hfaces, rfl⟩
  obtain ⟨a, s', hrun, hlexer, hcurrent, hfollowing⟩ := h s
  refine ⟨a, s', hrun, ⟨rest, hlexer ▸ hfaces, ?_⟩, trivial, trivial⟩
  rw [seen, seen, hcurrent, hfollowing]

theorem mode : Reads g mode ts ts fun _ ↦ True := of_untouched fun s ↦ ⟨_, s, rfl, rfl, rfl, rfl⟩

theorem lastPlace : Reads g lastPlace ts ts fun _ ↦ True :=
  of_untouched fun s ↦ ⟨_, s, rfl, rfl, rfl, rfl⟩

theorem lastSpan : Reads g lastSpan ts ts fun _ ↦ True :=
  of_untouched fun s ↦ ⟨_, s, rfl, rfl, rfl, rfl⟩

theorem read : Reads g read ts ts (· = g) := fun _ s hs ↦ ⟨g, s, rfl, hs, rfl, trivial⟩

theorem setMode (m : Mode) : Reads g (setMode m) ts ts fun _ ↦ True :=
  of_untouched fun s ↦ ⟨(), { s with mode := m }, rfl, rfl, rfl, rfl⟩

/-- The attempt of a step that succeeds. -/
theorem tryCatch {handle : Noted → Parse α} (h : Reads g p ts ts' P) :
    Reads g (tryCatch p handle) ts ts' P := by
  intro cs s hs
  obtain ⟨a, s', hrun, hs', ha, -⟩ := h cs s hs
  refine ⟨a, s', ?_, hs', ha, trivial⟩
  change EStateM.tryCatch (p g) (fun e ↦ handle e g) s = _
  rw [EStateM.tryCatch, hrun]

/-- What is read in one mode is read in any other. -/
theorem withMode {change : Mode → Mode} (h : Reads g p ts ts' P) :
    Reads g (withMode change p) ts ts' P := by
  refine mode.bind fun old _ ↦ (setMode _).bind fun _ _ ↦ ?_
  refine bind (P := fun e : Except α α ↦ ∃ a, e = .error a ∧ P a)
    (tryCatch (h.bind fun a ha ↦ (setMode old).bind fun _ _ ↦ Reads.pure ⟨a, rfl, ha⟩)) ?_
  rintro _ ⟨a, rfl, ha⟩
  exact Reads.pure ha

/-! ### Single tokens -/

theorem current?_apply (s : ParseState) :
    current? g s = match s.current, s.following with
      | some x, _ => .ok (some x) s
      | none, some x => .ok (some x) { s with current := some x, following := none }
      | none, none =>
        .ok (s.lexer.next s.mode.toLexMode).1
          { s with
            current := (s.lexer.next s.mode.toLexMode).1
            lexer := (s.lexer.next s.mode.toLexMode).2 } := by
  rcases s with ⟨lexer, mode, _ | x, _ | y, previous, labels, arrowStart, commas⟩ <;> rfl

/-- The next token, and that it is kept. -/
theorem exists_current {cs : List Comment} (s : ParseState) (h : Ready s (t :: ts) cs) :
    ∃ x s', current? g s = .ok (some x) s' ∧ Ready s' (t :: ts) cs ∧ s'.current = some x ∧
      x.token = t := by
  obtain ⟨rest, hfaces, hts⟩ := h
  rw [current?_apply]
  rcases hcurrent : s.current with _ | x
  · rcases hfollowing : s.following with _ | y
    · obtain rfl : rest = t :: ts := by simpa [seen, hcurrent, hfollowing] using hts.symm
      obtain ⟨x, l, hnext, hx, hfaces'⟩ := Lexer.next_of_faces (m := s.mode.toLexMode) hfaces
      simp only [hnext]
      exact ⟨x, _, rfl, ⟨ts, hfaces', by simp [seen, hx]⟩, rfl, hx⟩
    · refine ⟨y, _, rfl, ⟨rest, hfaces, ?_⟩, rfl, ?_⟩
      · simpa [seen, hcurrent, hfollowing] using hts
      · simp_all [seen]
  · exact ⟨x, s, rfl, ⟨rest, hfaces, hts⟩, hcurrent, by simp_all [seen]⟩

theorem current?_cons :
    Reads g current? (t :: ts) (t :: ts) fun x ↦ ∃ l : Lexeme, x = some l ∧ l.token = t := by
  intro cs s h
  obtain ⟨x, s', hrun, hs', -, hx⟩ := exists_current (g := g) s h
  exact ⟨some x, s', hrun, hs', ⟨x, rfl, hx⟩, trivial⟩

/-- At the end of the text all comments are filed. -/
theorem current?_nil : Reads g current? [] [] (· = none) Lexer.IsDone := by
  rintro cs s ⟨rest, hfaces, hts⟩
  obtain ⟨hseen, rfl⟩ := List.nil_eq_append_iff.mp hts
  have hcurrent : s.current = none := by
    cases hcurrent : s.current with
    | none => rfl
    | some x => simp [seen, hcurrent] at hseen
  have hfollowing : s.following = none := by
    cases hfollowing : s.following with
    | none => rfl
    | some x => simp [seen, hcurrent, hfollowing] at hseen
  obtain ⟨l, hnext, hfaces', hdone⟩ := Lexer.next_of_faces_nil (m := s.mode.toLexMode) hfaces
  rw [current?_apply, hcurrent, hfollowing]
  simp only [hnext]
  exact ⟨none, _, rfl, ⟨[], hfaces', by simp [seen]⟩, rfl, hdone⟩

theorem following?_cons : Reads g following? (t :: u :: ts) (t :: u :: ts)
    fun x ↦ ∃ l : Lexeme, x = some l ∧ l.token = u := by
  intro cs s h
  obtain ⟨x, s', hrun, ⟨rest, hfaces, hts⟩, hcurrent, hx⟩ := exists_current (g := g) s h
  have hget : (get : Parse ParseState) g s' = .ok s' s' := rfl
  rcases hfollowing : s'.following with _ | y
  · obtain ⟨-, rfl⟩ : t = x.token ∧ rest = u :: ts := by
      simpa [seen, hcurrent, hfollowing, eq_comm] using hts
    obtain ⟨y, l, hnext, hy, hfaces'⟩ := Lexer.next_of_faces (m := s'.mode.toLexMode) hfaces
    refine ⟨some y, { s' with following := some y, lexer := l }, ?_,
      ⟨ts, hfaces', by simp [seen, hcurrent, hx, hy]⟩, ⟨y, rfl, hy⟩, trivial⟩
    rw [following?, bind_of_ok hrun, bind_of_ok hget, hfollowing]
    simp only [hnext]
    rfl
  · refine ⟨some y, s', ?_, ⟨rest, hfaces, hts⟩, ⟨y, rfl, by simp_all [seen]⟩, trivial⟩
    rw [following?, bind_of_ok hrun, bind_of_ok hget, hfollowing]
    rfl

theorem bump : Reads g bump (t :: ts) ts (fun x ↦ x.token = t) := by
  intro cs s h
  obtain ⟨x, s', hrun, ⟨rest, hfaces, hts⟩, hcurrent, hx⟩ := exists_current (g := g) s h
  refine ⟨x, { s' with current := none, previous := ⟨x.lo, x.hi⟩ }, ?_, ⟨rest, hfaces, ?_⟩, hx,
    trivial⟩
  · rw [Parse.bump, bind_of_ok hrun]
    rfl
  · simpa [seen, hcurrent, hx] using hts

theorem skip : Reads g skip (t :: ts) ts fun _ ↦ True :=
  bump.bind fun _ _ ↦ Reads.pure trivial

theorem here : Reads g here ts ts fun _ ↦ True := by
  cases ts with
  | nil => exact current?_nil.forget.bind_eq lastPlace
  | cons t ts =>
    refine current?_cons.bind ?_
    rintro _ ⟨x, rfl, -⟩
    exact Reads.pure trivial

theorem spanFrom (start : Nat) : Reads g (spanFrom start) ts ts fun _ ↦ True :=
  lastPlace.bind fun _ _ ↦ Reads.pure trivial

theorem afterLineBreak : Reads g afterLineBreak (t :: ts) (t :: ts) fun _ ↦ True := by
  refine current?_cons.bind ?_
  rintro _ ⟨x, rfl, -⟩
  exact Reads.pure trivial

theorem sees (text : String) : Reads g (sees text) (t :: ts) (t :: ts) (· = t.is text) := by
  refine current?_cons.bind ?_
  rintro _ ⟨x, rfl, rfl⟩
  exact Reads.pure rfl

/-- A step behind a look for a symbol or word that does not come next. -/
theorem unseen {f : Bool → Parse β} {text : String} (h : t.is text = false)
    (hf : Reads g (f false) (t :: ts) ts' Q) : Reads g (Parse.sees text >>= f) (t :: ts) ts' Q :=
  (sees text).bind_eq (h ▸ hf)

/-- What is done if a symbol or word does not come next, -/
theorem not_sees {q r : Parse β} {text : String} (h : t.is text = false)
    (hr : Reads g r (t :: ts) ts' Q) :
    Reads g (Parse.sees text >>= fun b ↦ if b then q else r) (t :: ts) ts' Q :=
  unseen h (ite_neg (by simp) hr)

theorem seesAny (texts : List String) :
    Reads g (seesAny texts) (t :: ts) (t :: ts) (· = texts.any t.is) := by
  refine current?_cons.bind ?_
  rintro _ ⟨x, rfl, rfl⟩
  exact Reads.pure rfl

/-- and if none of several does. -/
theorem not_seesAny {q r : Parse β} {texts : List String} (h : ∀ text ∈ texts, t.is text = false)
    (hr : Reads g r (t :: ts) ts' Q) :
    Reads g (Parse.seesAny texts >>= fun b ↦ if b then q else r) (t :: ts) ts' Q := by
  have hany : texts.any t.is = false := List.any_eq_false.mpr (by simpa using h)
  exact (seesAny texts).bind_eq (ite_neg (by simp [hany]) hr)

theorem peeks (text : String) :
    Reads g (peeks text) (t :: u :: ts) (t :: u :: ts) (· = u.is text) := by
  refine following?_cons.bind ?_
  rintro _ ⟨x, rfl, rfl⟩
  exact Reads.pure rfl

theorem seesIdentifier :
    Reads g seesIdentifier (t :: ts) (t :: ts) (· = isIdentifier t) := by
  refine current?_cons.bind ?_
  rintro _ ⟨x, rfl, rfl⟩
  exact Reads.pure rfl

theorem seesWord : Reads g seesWord (t :: ts) (t :: ts) (· = isWord t) := by
  refine current?_cons.bind ?_
  rintro _ ⟨x, rfl, rfl⟩
  exact Reads.pure rfl

/-- A symbol or word that comes next is taken, -/
theorem eat_of_is {text : String} (h : t.is text) : Reads g (eat text) (t :: ts) ts (· = true) := by
  refine (sees text).bind_eq ?_
  rw [if_pos h]
  exact skip.bind fun _ _ ↦ Reads.pure rfl

/-- and one that does not is not. -/
theorem eat_of_not_is {text : String} (h : t.is text = false) :
    Reads g (eat text) (t :: ts) (t :: ts) (· = false) := by
  refine (sees text).bind_eq ?_
  rw [if_neg (by simp [h])]
  exact Reads.pure rfl

/-- What is done if a symbol or word could not be taken. -/
theorem not_eat {q r : Parse β} {text : String} (h : t.is text = false)
    (hr : Reads g r (t :: ts) ts' Q) :
    Reads g (Parse.eat text >>= fun b ↦ if b then q else r) (t :: ts) ts' Q :=
  (eat_of_not_is h).bind_eq (ite_neg (by simp) hr)

theorem expect {text : String} (h : t.is text) :
    Reads g (expect text) (t :: ts) ts fun _ ↦ True := by
  refine (eat_of_is h).bind_eq ?_
  exact Reads.pure trivial

theorem takeFaulty (h : ∀ fault, t ≠ .faulty fault) :
    Reads g takeFaulty (t :: ts) (t :: ts) (· = none) := by
  refine current?_cons.bind ?_
  rintro _ ⟨x, rfl, rfl⟩
  split
  · next heq =>
    cases heq
    exact absurd rfl (h _)
  · exact Reads.pure rfl

theorem look (h : ∀ fault, t ≠ .faulty fault) :
    Reads g look (t :: ts) (t :: ts) (· = some t) := by
  refine (takeFaulty h).bind_eq (current?_cons.bind ?_)
  rintro _ ⟨x, rfl, rfl⟩
  exact Reads.pure rfl

theorem look_nil : Reads g Parse.look [] [] (· = none) Lexer.IsDone := by
  have hnone : Reads g current? [] [] (· = none) := current?_nil.forget
  have hfaulty : Reads g Parse.takeFaulty [] [] (· = none) := hnone.bind_eq (Reads.pure rfl)
  exact hfaulty.bind_eq (current?_nil.map fun _ hx ↦ by rw [hx]; rfl)

theorem need (h : ∀ fault, t ≠ .faulty fault) :
    Reads g need (t :: ts) (t :: ts) (· = t) :=
  (look h).bind_eq (Reads.pure rfl)

theorem atEnd_cons (h : ∀ fault, t ≠ .faulty fault) :
    Reads g atEnd (t :: ts) (t :: ts) (· = false) :=
  (look h).bind_eq (Reads.pure rfl)

theorem atEnd_nil : Reads g atEnd [] [] (· = true) Lexer.IsDone :=
  look_nil.map fun _ hx ↦ by rw [hx]; rfl

theorem eatEnd : Reads g eatEnd (.symbol ";" :: ts) ts (· = true) := by
  refine (sees ";").bind_eq ?_
  exact skip.bind fun _ _ ↦ Reads.pure rfl

theorem expectEnd : Reads g expectEnd (.symbol ";" :: ts) ts fun _ ↦ True :=
  eatEnd.bind_eq (Reads.pure trivial)

/-! ### Goals -/

/-- A rule that may open others up to a depth, one deeper than it is. -/
theorem ask {dialect : Dialect} {depth : Nat} {goal : Goal} {P : Node → Prop}
    (h : Reads ⟨dialect, answer dialect depth⟩ (rule goal) ts ts' P) :
    Reads ⟨dialect, answer dialect (depth + 1)⟩ (ask goal) ts ts' P := h

/-! ### Repetitions -/

theorem fuel : Reads g fuel ts ts (ts.length < ·) := by
  rintro cs s ⟨rest, hfaces, rfl⟩
  refine ⟨2 * s.lexer.bound + 2, s, rfl, ⟨rest, hfaces, rfl⟩, ?_, trivial⟩
  obtain ⟨text, _, _, hat, hrest, -⟩ := hfaces
  have hseen : s.seen.length ≤ 2 := by
    simp only [seen, List.length_map, List.length_append, Option.length_toList]
    split <;> split <;> omega
  have hlength := hrest.length_le
  have hbound := hat.bound
  rw [List.length_append]
  omega

section Repetition

variable {σ : Type} {step : σ → Parse (σ × Bool)} {state : σ} {R : σ → Prop}

/-- A repetition is over when the step says so, -/
theorem repeatStep_done (h : Reads g (step state) ts ts' (fun r ↦ r.2 = true ∧ R r.1) F)
    (n : Nat) : Reads g (repeatStep step (n + 1) state) ts ts' R F := by
  refine h.bind_still ?_
  rintro ⟨state, _⟩ ⟨rfl, hr⟩ s
  exact ⟨state, s, rfl, rfl, rfl, rfl, hr⟩

/-- and else goes on with the new state. -/
theorem repeatStep_more {n : Nat} (h : Reads g (step state) ts k fun r ↦ r.2 = false ∧
      Reads g (repeatStep step n r.1) k ts' R F) :
    Reads g (repeatStep step (n + 1) state) ts ts' R F := by
  refine h.bind ?_
  rintro ⟨state, _⟩ ⟨rfl, hr⟩
  exact hr

end Repetition

section Items

variable {ι : Type} (items : List ι) (tokens : ι → List Token) (node : ι → Node)

/-- A repetition that reads an item in every step, and nothing behind the last one. The nodes that
were read so far stand in reverse order. -/
theorem repeatStep_items {step : List Node → Parse (List Node × Bool)}
    (hne : ∀ i ∈ items, tokens i ≠ [])
    (hstep : ∀ i ∈ items, ∀ nodes later, Reads g (step nodes) (tokens i ++ later) later
      fun r ↦ r.2 = false ∧ ∃ n, r.1 = n :: nodes ∧ n.withoutSpans = node i)
    (hend : ∀ nodes, Reads g (step nodes) ts ts (fun r ↦ r.2 = true ∧ r.1 = nodes) F)
    (nodes : List Node) {n : Nat} (hn : (items.flatMap tokens).length < n) :
    Reads g (repeatStep step n nodes) (items.flatMap tokens ++ ts) ts
      (fun ns ↦ ns.reverse.map Node.withoutSpans =
        nodes.reverse.map Node.withoutSpans ++ items.map node) F := by
  obtain ⟨n, rfl⟩ := Nat.exists_eq_succ_of_ne_zero (Nat.ne_zero_of_lt hn)
  induction items generalizing nodes n with
  | nil =>
    refine repeatStep_done ((hend nodes).mono ?_) n
    rintro _ ⟨hdone, rfl⟩
    exact ⟨hdone, by simp⟩
  | cons i items ih =>
    obtain ⟨hi, hitems⟩ := List.forall_mem_cons.mp hstep
    obtain ⟨hne, hne'⟩ := List.forall_mem_cons.mp hne
    have hlength := List.length_pos_iff.mpr hne
    rw [List.flatMap_cons, List.length_append] at hn
    obtain ⟨n, rfl⟩ := Nat.exists_eq_succ_of_ne_zero (n := n) (by omega)
    rw [List.flatMap_cons, List.append_assoc]
    refine repeatStep_more (k := items.flatMap tokens ++ ts) ((hi nodes _).mono ?_)
    rintro ⟨_, _⟩ ⟨rfl, node, rfl, hnode⟩
    refine ⟨rfl, (ih hne' hitems (node :: nodes) n (by omega)).mono fun ns hns ↦ ?_⟩
    simp [hns, hnode]

/-- **Items one after the other.** A step that reads an item wherever there is one, and nothing
behind the last one, collects the nodes of the items. -/
theorem collect {step : Parse (Option Node)} (hne : ∀ i ∈ items, tokens i ≠ [])
    (hstep : ∀ i ∈ items, ∀ later, Reads g step (tokens i ++ later) later
      fun r ↦ ∃ n, r = some n ∧ n.withoutSpans = node i)
    (hend : Reads g step ts ts (· = none) F) :
    Reads g (collect step) (items.flatMap tokens ++ ts) ts
      (fun ns ↦ ns.map Node.withoutSpans = items.map node) F := by
  refine fuel.bind fun n hn ↦ ?_
  rw [List.length_append] at hn
  refine (repeatStep_items items tokens node hne ?_ ?_ [] (by omega)).map fun ns hns ↦ ?_
  · intro i hi nodes later
    refine (hstep i hi later).bind ?_
    rintro _ ⟨n, rfl, hn⟩
    exact Reads.pure ⟨rfl, n, rfl, hn⟩
  · intro nodes
    refine hend.bind_still ?_
    rintro _ rfl s
    exact ⟨(nodes, true), s, rfl, rfl, rfl, rfl, rfl, rfl⟩
  · simpa using hns

end Items

/-! ### Nodes -/

theorem nodeFrom (start : Nat) (kind : Kind) (children : List Node) :
    Reads g (nodeFrom start kind children) ts ts
      fun n ↦ n.withoutSpans = .mk kind .none (children.map Node.withoutSpans) :=
  (spanFrom start).bind fun span _ ↦ Reads.pure (by
    rw [Node.withoutSpans, Node.allWithoutSpans_eq_map])

theorem leaf (kind : Kind) :
    Reads g (leaf kind) ts ts fun n ↦ n.withoutSpans = .mk kind .none [] :=
  lastSpan.bind fun _ _ ↦ Reads.pure rfl

end Reads

end Parse

end PageRoutes.Syntax
