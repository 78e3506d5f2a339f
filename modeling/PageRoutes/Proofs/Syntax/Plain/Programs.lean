import PageRoutes.Proofs.Syntax.Plain.Expressions
/-!
# Reading plain programs

The items of a plain program are read one after the other, each as what it is: an import by its
bindings and its source, a declaration by its keyword, its name and its value, and any other item as
an expression. So the text of a program is accepted, and it is read as the program.

## Main results

* `Plain.reads_moduleItem` : items of programs, of each form.
* `Plain.ofText_of_tokenizes` : the texts with the tokens of a program.
-/

namespace PageRoutes.Syntax.Plain

open Parse

variable {g : Grammar}

/-! ### Names -/

theorem Name.isIdentifier (n : Name) : isIdentifier (.word n.text) = true := by
  simp [Parse.isIdentifier, n.isName.2.1]

/-- A name is read where it is bound. -/
theorem reads_bindingWord (n : Name) (ts : List Token) :
    Reads g bindingWord (.word n.text :: ts) ts (Node.withoutSpans · = n.word.node) := by
  refine ((reads_identText n [] ts).bind_eq (.leaf _)).bind fun node hnode ↦ ?_
  have htext : node.nameText? = some n.text := by
    rw [← Node.nameText?_withoutSpans, hnode]
    rfl
  have heval := n.ne "eval" (by decide)
  have harguments := n.ne "arguments" (by decide)
  have hawait := n.ne "await" (by decide)
  refine Reads.mode.bind fun m _ ↦ ?_
  rw [htext, Option.getD_some]
  refine .ite_neg (by simp [heval, harguments]) (.ite_neg (by simp [hawait]) ?_)
  exact .ite_neg (by simp [harguments]) (.pure hnode)

/-- Any word is read in the braces of an import. -/
theorem reads_exportName (w : Word) (ts : List Token) :
    Reads g exportName (.word w.text :: ts) ts (Node.withoutSpans · = w.node) :=
  (Reads.look (by simp)).bind_eq (reads_anyName w ts)

/-! ### Sources -/

/-- A string is read as the source of an import, up to the end of the item. -/
theorem reads_sourceRest (source : Quoted) (ts : List Token) :
    Reads g sourceRest (.string source.value source.raw :: .symbol ";" :: ts) ts
      fun r ↦ r.1.withoutSpans = source.node ∧ r.2 = .absent := by
  have hattributes :
      Reads g attributes (.symbol ";" :: ts) (.symbol ";" :: ts) (· = .absent) := by
    refine (Reads.look (by simp)).bind_eq (Reads.afterLineBreak.bind fun isAfter _ ↦ ?_)
    refine .ite (fun _ ↦ .pure rfl) fun _ ↦ ?_
    refine (Reads.eat_of_not_is rfl).bind_eq ((Reads.eat_of_not_is rfl).bind_eq ?_)
    exact .ite_neg (by simp) (.pure rfl)
  have hsource : Reads g (stringLiteral "a string literal")
      (.string source.value source.raw :: .symbol ";" :: ts) (.symbol ";" :: ts)
      (Node.withoutSpans · = source.node) :=
    (Reads.need (by simp)).bind_eq (Reads.skip.bind fun _ _ ↦ .leaf _)
  refine hsource.bind fun node hnode ↦ hattributes.bind_eq (Reads.expectEnd.bind fun _ _ ↦ ?_)
  exact .pure ⟨hnode, rfl⟩

/-- There is no string where another token stands. -/
theorem reads_seesString {t : Token} (h : ∀ value raw, t ≠ .string value raw) (ts : List Token) :
    Reads g seesString (t :: ts) (t :: ts) (· = false) := by
  refine Reads.current?_cons.bind ?_
  rintro _ ⟨x, rfl, rfl⟩
  split
  · next heq =>
    cases heq
    exact absurd rfl (h _ _)
  · exact .pure rfl

theorem reads_seesString_quoted (source : Quoted) (ts : List Token) :
    Reads g seesString (.string source.value source.raw :: ts)
      (.string source.value source.raw :: ts) (· = true) := by
  refine Reads.current?_cons.bind ?_
  rintro _ ⟨⟨_, _, _, _, _⟩, rfl, rfl⟩
  exact .pure rfl

/-! ### Names in braces -/

section Specifiers

variable {first : Node} {w : Word} (hfirst : first.withoutSpans = w.node) (hw : w.text ≠ "type")
  {isTypeList : Bool} {fault : Cause} {readNewName : Parse Node}

include hfirst hw

/-- A word in braces is the name, if no other name is given, -/
theorem reads_specifierRest_end {s : String} (hs : s ∈ [",", "\x7d"]) (ts : List Token) :
    Reads g (specifierRest isTypeList fault first readNewName) (.symbol s :: ts) (.symbol s :: ts)
      (· = { name := first }) := by
  have htext : first.nameText? = some w.text := by
    rw [← Node.nameText?_withoutSpans, hfirst]
    rfl
  refine Reads.seesWord.bind_eq (.ite_pos (by simp [htext, hw]) ?_)
  exact .not_eat (is_eq_false hs (by decide)) (.pure_bind (.pure rfl))

/-- and else it has the name that is given. -/
theorem reads_specifierRest_as {ts ts' : List Token} {P : Node → Prop}
    (h : Reads g readNewName ts ts' P) :
    Reads g (specifierRest isTypeList fault first readNewName) (.word "as" :: ts) ts'
      fun r ↦ r.name = first ∧ P r.newName ∧ r.isType = false := by
  have htext : first.nameText? = some w.text := by
    rw [← Node.nameText?_withoutSpans, hfirst]
    rfl
  refine Reads.seesWord.bind_eq (.ite_pos (by simp [htext, hw]) ?_)
  exact (Reads.eat_of_is rfl).bind_eq (.ite_pos rfl (h.bind fun n hn ↦ .pure ⟨rfl, hn, rfl⟩))

end Specifiers

/-- A name in braces is read up to the comma or brace behind it. -/
theorem reads_importSpecifier (name : Imported) {s : String} (hs : s ∈ [",", "\x7d"])
    (ts : List Token) :
    Reads g (importSpecifier false) (tokens name.pieces ++ .symbol s :: ts) (.symbol s :: ts)
      (Node.withoutSpans · = name.node) := by
  obtain ⟨original, name⟩ := name
  refine Reads.here.bind fun start _ ↦ ?_
  cases original with
  | none =>
    refine (reads_exportName name.word _).bind fun first hfirst ↦ ?_
    have hkind : first.kind = .name name.text false := by
      rw [← Node.kind_withoutSpans, hfirst]
      rfl
    rw [hkind]
    have htype := name.ne "type" (by decide)
    refine (reads_specifierRest_end hfirst htype hs ts).bind_eq (.ite_pos rfl ?_)
    refine .ite_neg ?_ ((Reads.nodeFrom _ _ _).mono fun n hn ↦ ?_)
    · have htext : first.nameText? = some name.text := by rw [Node.nameText?, hkind]
      simp [htext, isReservedName, name.isName.2.1]
    · rw [hn, List.map_cons, List.map_singleton, hfirst]
      rfl
  | some w =>
    refine (reads_exportName w.1 _).bind fun first hfirst ↦ ?_
    have hkind : first.kind = .name w.1.text false := by
      rw [← Node.kind_withoutSpans, hfirst]
      rfl
    rw [hkind]
    refine (reads_specifierRest_as hfirst w.2 (reads_bindingWord name _)).bind ?_
    rintro ⟨_, newName, _⟩ ⟨rfl, hnew, rfl⟩
    have hpresent : newName.isAbsent = false := by
      rw [Node.isAbsent, ← Node.kind_withoutSpans, hnew]
      rfl
    refine .ite_neg (by simp [hpresent]) ((Reads.nodeFrom _ _ _).mono fun n hn ↦ ?_)
    rw [hn, List.map_cons, List.map_singleton, hfirst, hnew]
    rfl

/-- One more turn of the loop over the names in braces. -/
def specifierStep (nodes : List Node) : Parse (List Node × Bool) := do
  if (← atEnd) || (← sees "\x7d") then return (nodes, true)
  let n ← importSpecifier false
  if ← sees "\x7d" then return (n :: nodes, true)
  expect ","
  return (n :: nodes, false)

theorem Imported.exists_word (name : Imported) :
    ∃ (w : Word) (later : List Token), tokens name.pieces = .word w.text :: later := by
  obtain ⟨_ | w, name⟩ := name
  · exact ⟨name.word, [], rfl⟩
  · exact ⟨w.1, _, rfl⟩

/-- A turn of that loop takes a name and the comma behind it. -/
theorem reads_specifierStep (name : Imported) (nodes : List Node) {s : String}
    (hs : s ∈ [",", "\x7d"]) (ts : List Token) :
    Reads g (specifierStep nodes) (tokens name.pieces ++ .symbol s :: ts)
      (if s = "\x7d" then .symbol s :: ts else ts) fun r ↦
        r.2 = decide (s = "\x7d") ∧ ∃ n : Node, r.1 = n :: nodes ∧ n.withoutSpans = name.node := by
  obtain ⟨w, later, hword⟩ := name.exists_word
  have hread := reads_importSpecifier (g := g) name hs ts
  rw [hword] at hread ⊢
  refine (Reads.atEnd_cons (by simp)).bind_eq ?_
  refine .unseen (w.is_eq_false (by decide)) (.ite_neg (by simp) ?_)
  refine hread.bind fun n hn ↦ (Reads.sees "\x7d").bind_eq ?_
  obtain rfl | rfl : s = "," ∨ s = "\x7d" := by simpa using hs
  · exact .ite_neg (by decide) ((Reads.expect rfl).bind fun _ _ ↦ .pure ⟨rfl, n, rfl, hn⟩)
  · exact .ite_pos rfl (.pure ⟨rfl, n, rfl, hn⟩)

/-- **Names in braces.** Names are read up to the closing brace. -/
theorem reads_specifierSteps (name : Imported) (rest : List Imported) (acc : List Node)
    (ts : List Token) {n : Nat} (hn : rest.length < n) :
    Reads g (repeatStep specifierStep n acc)
      (tokens (listed ((name :: rest).map Imported.pieces)) ++ .symbol "\x7d" :: ts)
      (.symbol "\x7d" :: ts) fun nodes ↦ nodes.map Node.withoutSpans =
        ((name :: rest).map Imported.node).reverse ++ acc.map Node.withoutSpans := by
  obtain ⟨n, rfl⟩ := Nat.exists_eq_succ_of_ne_zero (Nat.ne_zero_of_lt hn)
  induction rest generalizing name acc n with
  | nil =>
    refine Reads.repeatStep_done ((reads_specifierStep name acc (by simp) ts).mono ?_) n
    rintro ⟨nodes, isDone⟩ ⟨hdone, node, rfl, hnode⟩
    exact ⟨hdone, by simp [hnode]⟩
  | cons next rest ih =>
    rw [List.length_cons] at hn
    obtain ⟨n, rfl⟩ := Nat.exists_eq_succ_of_ne_zero (n := n) (by omega)
    have hlater : tokens (listed ((name :: next :: rest).map Imported.pieces)) ++
        .symbol "\x7d" :: ts = tokens name.pieces ++ .symbol "," ::
          (tokens (listed ((next :: rest).map Imported.pieces)) ++ .symbol "\x7d" :: ts) := by
      simp [listed]
    rw [hlater]
    refine Reads.repeatStep_more ((reads_specifierStep name acc (by simp) _).mono ?_)
    rintro ⟨nodes, isDone⟩ ⟨hdone, node, rfl, hnode⟩
    refine ⟨hdone, (ih next (node :: acc) n (by omega)).mono fun nodes hnodes ↦ ?_⟩
    simp [hnodes, hnode]

/-- There are not more parts in a list than tokens. -/
theorem length_le_tokens_listed (parts : List (List Piece)) :
    parts.length ≤ (tokens (listed parts)).length + 1 := by
  induction parts with
  | nil => simp
  | cons p rest ih =>
    cases rest with
    | nil => simp
    | cons q rest =>
      simp only [listed, List.length_cons, tokens_append, tokens_symbol, tokens_space,
        List.length_append] at ih ⊢
      omega

/-! ### Imports -/

/-- What an import lists is read up to the word behind it. -/
theorem reads_listedSpecifiers (list : Listed) (ts : List Token) :
    Reads g (listedSpecifiers false) (tokens (listed list.parts) ++ .word "from" :: ts)
      (.word "from" :: ts) (List.map Node.withoutSpans · = list.nodes) := by
  refine Reads.here.bind fun start _ ↦ ?_
  match list with
  | .all n =>
    refine (Reads.eat_of_is rfl).bind_eq (.ite_pos rfl ((Reads.expect rfl).bind fun _ _ ↦ ?_))
    refine (Reads.withMode (reads_bindingWord n _)).bind fun node hnode ↦ ?_
    exact (Reads.nodeFrom _ _ _).bind fun i hi ↦ .pure (by simp [hi, hnode, Listed.nodes])
  | .named [] => exact .not_eat rfl (.not_sees rfl (.pure rfl))
  | .named (n :: rest) =>
    have htokens : tokens (listed (Listed.named (n :: rest)).parts) ++ .word "from" :: ts =
        .symbol "\x7b" :: (tokens (listed ((n :: rest).map Imported.pieces)) ++
          .symbol "\x7d" :: .word "from" :: ts) := by
      simp [Listed.parts, listed]
    rw [htokens]
    refine .not_eat rfl ((Reads.sees "\x7b").bind_eq (.ite_pos rfl ?_))
    refine (Reads.expect rfl).bind fun _ _ ↦ Reads.fuel.bind fun k hk ↦ ?_
    have hlength := length_le_tokens_listed ((n :: rest).map Imported.pieces)
    have hloop := reads_specifierSteps (g := g) n rest [] (.word "from" :: ts) (n := k)
      (by simp at hk hlength; omega)
    refine hloop.bind fun nodes hnodes ↦ (Reads.expect rfl).bind fun _ _ ↦ .pure ?_
    rw [List.map_reverse, hnodes]
    simp [Listed.nodes]

/-- What an import lists begins with a symbol. -/
theorem Listed.parts_cases (list : Listed) : list.parts = [] ∨
    ∃ p, list.parts = [p] ∧ ∃ s ∈ ["*", "\x7b"], ∃ t later, tokens p = .symbol s :: t :: later := by
  match list with
  | all n => exact .inr ⟨_, rfl, "*", by decide, _, _, rfl⟩
  | named [] => exact .inl rfl
  | named (n :: rest) =>
    obtain ⟨w, later, hword⟩ := n.exists_word
    refine .inr ⟨_, rfl, "\x7b", by decide, .word w.text, ?_⟩
    rw [List.map_cons]
    simp [tokens_listed_cons, hword]

/-- What an import binds, if it binds anything, begins with its default or with a symbol. -/
theorem bindings_cases {default : Option Name} {list : Listed} (h : bindings default list ≠ []) :
    (∃ n, default = some n ∧ ((list.parts = [] ∧
      tokens (listed (bindings default list)) = [.word n.text]) ∨
        tokens (listed (bindings default list)) =
          .word n.text :: .symbol "," :: tokens (listed list.parts))) ∨
    default = none ∧ ∃ s ∈ ["*", "\x7b"], ∃ t later,
      tokens (listed (bindings default list)) = .symbol s :: t :: later := by
  cases default with
  | none =>
    obtain hnil | ⟨p, hp, s, hs, t, later, htokens⟩ := list.parts_cases
    · exact absurd (by simp [bindings, hnil]) h
    · exact .inr ⟨rfl, s, hs, t, later, by simp [bindings, hp, listed, htokens]⟩
  | some n =>
    obtain hnil | ⟨p, hp, -⟩ := list.parts_cases
    · exact .inl ⟨n, rfl, .inl ⟨hnil, by simp [bindings, hnil, listed, Name.word]⟩⟩
    · exact .inl ⟨n, rfl, .inr (by simp [bindings, hp, listed, Name.word])⟩

/-- The default of an import is read with the comma behind it, if more is listed. -/
theorem reads_defaultSpecifier {default : Option Name} {list : Listed}
    (h : bindings default list ≠ []) (ts : List Token) :
    Reads g defaultSpecifier (tokens (listed (bindings default list)) ++ .word "from" :: ts)
      (tokens (listed list.parts) ++ .word "from" :: ts) fun nodes ↦
        nodes.map Node.withoutSpans =
          default.toList.map fun n ↦ .mk .importDefault .none [n.word.node] := by
  have hsees (n : Name) (ts : List Token) : Reads g seesIdentifier (.word n.text :: ts)
      (.word n.text :: ts) (· = true) := Reads.seesIdentifier.mono fun _ h ↦ h.trans n.isIdentifier
  have hname (n : Name) (ts : List Token) : Reads g importedName (.word n.text :: ts) ts
      (Node.withoutSpans · = n.word.node) := .withMode (reads_bindingWord n ts)
  have hdone (n : Name) {node : Node} (hnode : node.withoutSpans = n.word.node) :
      [Node.mk .importDefault node.span [node]].map Node.withoutSpans =
        [Node.mk .importDefault .none [n.word.node]] := by
    simp [Node.withoutSpans, Node.allWithoutSpans, hnode]
  obtain ⟨n, rfl, ⟨hnil, htokens⟩ | htokens⟩ | ⟨rfl, s, hs, t, later, htokens⟩ := bindings_cases h
  · rw [htokens, hnil]
    refine (hsees n _).bind_eq (.ite_neg (by simp) ((hname n _).bind fun node hnode ↦ ?_))
    exact (Reads.sees "from").bind_eq (.ite_pos rfl (.pure (hdone n hnode)))
  · rw [htokens]
    refine (hsees n _).bind_eq (.ite_neg (by simp) ((hname n _).bind fun node hnode ↦ ?_))
    exact .not_sees rfl ((Reads.expect rfl).bind fun _ _ ↦ .pure (hdone n hnode))
  · change Reads _ _ _ (tokens (listed (bindings none list)) ++ _) _
    rw [htokens]
    exact Reads.seesIdentifier.bind_eq (.ite_pos rfl (.pure rfl))

/-- What an import binds begins in no way that has another meaning. -/
theorem exists_bindings {default : Option Name} {list : Listed} (h : bindings default list ≠ [])
    (ts : List Token) : ∃ t u later,
      tokens (listed (bindings default list)) ++ .word "from" :: ts = t :: u :: later ∧
        (∀ fault, t ≠ .faulty fault) ∧ (∀ value raw, t ≠ .string value raw) ∧
        (∀ text ∈ ["type", ".", "("], t.is text = false) ∧
        (isIdentifier t && u.is "=") = false := by
  have hword (n : Name) : ∀ text ∈ ["type", ".", "("], (Token.word n.text).is text = false :=
    (Head.name n).all_is_eq_false (by decide)
  obtain ⟨n, rfl, ⟨-, htokens⟩ | htokens⟩ | ⟨rfl, s, hs, t, later, htokens⟩ := bindings_cases h
  · exact ⟨_, .word "from", ts, by rw [htokens]; rfl, by simp, by simp, hword n,
      by simp [Token.is, Token.isSymbol, Token.isWord]⟩
  · exact ⟨_, .symbol ",", _, by rw [htokens]; rfl, by simp, by simp, hword n,
      by simp [Token.is, Token.isSymbol, Token.isWord]⟩
  · exact ⟨_, t, _, by rw [htokens]; rfl, by simp, by simp, all_is_eq_false hs (by decide), rfl⟩

/-- The tokens of an import that binds nothing, and of one that binds something. -/
theorem tokens_imports (default : Option Name) (list : Listed) (source : Quoted) :
    tokens (Item.imports default list source).pieces = .word "import" ::
      ((if bindings default list = [] then [] else
        tokens (listed (bindings default list)) ++ [.word "from"]) ++
          [.string source.value source.raw, .symbol ";"]) := by
  rw [Item.pieces]
  split <;> simp [fixedWord]

/-- **Imports.** An import is read as what it is. -/
theorem reads_importDecl (default : Option Name) (list : Listed) (source : Quoted)
    (ts : List Token) :
    Reads g importDecl (tokens (Item.imports default list source).pieces ++ ts) ts
      (Node.withoutSpans · = (Item.imports default list source).node) := by
  refine Reads.here.bind fun start _ ↦ ?_
  rw [tokens_imports]
  split
  · next hbindings =>
    have hnodes : bindingNodes default list = [] := by
      obtain ⟨hdefault, hparts⟩ := List.append_eq_nil_iff.mp hbindings
      have hlist : list.nodes = [] := by
        match list with
        | .named [] => rfl
      rw [bindingNodes, List.map_eq_nil_iff.mp hdefault, hlist]
      rfl
    refine (Reads.expect rfl).bind fun _ _ ↦ (Reads.look (by simp)).bind_eq ?_
    refine (reads_seesString_quoted source _).bind_eq (.ite_pos rfl ?_)
    refine (reads_sourceRest source ts).bind ?_
    rintro ⟨node, _⟩ ⟨hnode, rfl⟩
    refine (Reads.nodeFrom _ _ _).mono fun n hn ↦ ?_
    rw [hn, Item.node, hnodes]
    simp [Node.group, Node.absent, Node.withoutSpans, Node.allWithoutSpans, hnode]
  · next hbindings =>
    have hread := reads_defaultSpecifier (g := g) hbindings
      (.string source.value source.raw :: .symbol ";" :: ts)
    obtain ⟨t, u, later, hlater, hfaulty, hstring, htype, hequals⟩ :=
      exists_bindings hbindings (.string source.value source.raw :: .symbol ";" :: ts)
    rw [hlater] at hread
    have htokens : tokens (listed (bindings default list)) ++ [.word "from"] ++
        [.string source.value source.raw, .symbol ";"] ++ ts = t :: u :: later := by
      simp [← hlater]
    rw [List.cons_append, htokens]
    refine (Reads.expect rfl).bind fun _ _ ↦ (Reads.look hfaulty).bind_eq ?_
    refine (reads_seesString hstring _).bind_eq (.ite_neg (by simp) ?_)
    refine .not_sees (htype "type" (by decide)) (.pure_bind (.ite_neg (by simp) ?_))
    refine Reads.seesIdentifier.bind_eq ((Reads.peeks "=").bind_eq ?_)
    refine .ite_neg (by simp [hequals]) (hread.bind fun first hfirst ↦ ?_)
    refine (reads_listedSpecifiers list _).bind fun others hothers ↦ ?_
    refine (Reads.expect rfl).bind fun _ _ ↦ (reads_sourceRest source ts).bind ?_
    rintro ⟨node, _⟩ ⟨hnode, rfl⟩
    refine (Reads.nodeFrom _ _ _).mono fun n hn ↦ ?_
    rw [hn, Item.node, bindingNodes, ← hfirst, ← hothers]
    simp [Node.group, Node.absent, Node.withoutSpans, Node.allWithoutSpans_eq_map, hnode]

/-! ### Declarations -/

section Items

variable {v : Dialect} {depth : Nat}

theorem tokens_declares (keyword : VarKeyword) (n : Name) (e : Expr) (ts : List Token) :
    tokens (Item.declares keyword n e).pieces ++ ts = .word keyword.text :: .word n.text ::
      .symbol "=" :: (tokens e.pieces ++ .symbol ";" :: ts) := by
  simp [Item.pieces, keywordWord, Name.word]

theorem reads_bindingPattern (n : Name) (ts : List Token) :
    Reads ⟨v, answer v (depth + 1)⟩ bindingPattern (.word n.text :: ts) ts
      (Node.withoutSpans · = .mk .bindingName .none [n.word.node, .absent]) := by
  refine .ask ((Reads.need (by simp)).bind_eq ((reads_bindingWord n ts).bind fun node hnode ↦ ?_))
  exact .pure (by simp [Node.withoutSpans, Node.allWithoutSpans, Node.absent, hnode])

/-- A variable is read with its value. -/
theorem reads_declarator (n : Name) {e : Expr} (he : 5 * (tokens e.pieces).length ≤ depth + 1)
    (isConst : Bool) (ts : List Token) :
    Reads ⟨v, answer v (depth + 1)⟩ (declarator isConst false)
      (.word n.text :: .symbol "=" :: (tokens e.pieces ++ .symbol ";" :: ts)) (.symbol ";" :: ts)
      (Node.withoutSpans · =
        .mk .declarator .none [.mk .bindingName .none [n.word.node, .absent], e.node]) := by
  refine Reads.here.bind fun start _ ↦ (reads_bindingPattern n _).bind fun pattern hpattern ↦ ?_
  have hmark (ts : List Token) : Reads ⟨v, answer v (depth + 1)⟩ optionalTypeMark
      (.symbol "=" :: ts) (.symbol "=" :: ts) (· = .absent) := .not_sees rfl (.pure rfl)
  have hvalue (pattern : Node) : Reads ⟨v, answer v (depth + 1)⟩
      (initializer start pattern isConst false)
      (.symbol "=" :: (tokens e.pieces ++ .symbol ";" :: ts)) (.symbol ";" :: ts)
      (Node.withoutSpans · = e.node) := by
    refine (Reads.seesAny _).bind_eq (.ite_neg (by simp) ?_)
    refine (Reads.eat_of_is rfl).bind_eq (.ite_pos rfl ?_)
    exact reads_assignment e he ";" (by decide) ts
  have hname : isBindingName pattern := by
    rw [isBindingName, ← Node.kind_withoutSpans, hpattern]
    rfl
  refine .ite_pos hname ((Reads.eat_of_not_is rfl).bind_eq ((hmark _).bind_eq ?_))
  refine (hvalue _).bind fun value hvalue ↦ (Reads.nodeFrom _ _ _).mono fun n hn ↦ ?_
  rw [hn, ← hvalue, ← hpattern]
  rfl

/-- A single variable is read as a list of variables. -/
theorem reads_declarators {one : Parse Node} {n : Name} {ts ts' : List Token} {declarator : Node}
    (h : Reads g one (.word n.text :: ts) (.symbol ";" :: ts') (Node.withoutSpans · = declarator)) :
    Reads g (declarators one) (.word n.text :: ts) (.symbol ";" :: ts')
      (List.map Node.withoutSpans · = [declarator]) := by
  refine Reads.fuel.bind fun k hk ↦ ?_
  obtain ⟨k, rfl⟩ := Nat.exists_eq_succ_of_ne_zero (Nat.ne_zero_of_lt hk)
  refine Reads.bind (Reads.repeatStep_done ?_ k) fun nodes hnodes ↦ .pure hnodes
  refine .unseen (n.is_eq_false (by decide)) ((Reads.atEnd_cons (by simp)).bind_eq ?_)
  refine .ite_neg (by simp) ?_
  refine h.bind fun node hnode ↦ (Reads.eat_of_not_is rfl).bind_eq (.pure ⟨rfl, ?_⟩)
  simp [hnode]

/-- **Declarations.** A variable is declared up to the end of the item. -/
theorem reads_varDecl (keyword : VarKeyword) (n : Name) {e : Expr}
    (he : 5 * (tokens e.pieces).length ≤ depth + 1) (ts : List Token) :
    Reads ⟨v, answer v (depth + 1)⟩ (varDecl keyword false)
      (tokens (Item.declares keyword n e).pieces ++ ts) ts
      (Node.withoutSpans · = (Item.declares keyword n e).node) := by
  rw [tokens_declares]
  refine Reads.here.bind fun start _ ↦ Reads.skip.bind fun _ _ ↦ .ite_neg (by simp) ?_
  refine (reads_declarators (.ite_neg (by simp) (.withMode (reads_declarator n he _ ts)))).bind
    fun nodes hnodes ↦ ?_
  refine .ite_neg (by simp) (Reads.eatEnd.bind_eq (.ite_pos rfl ?_))
  refine (Reads.nodeFrom _ _ _).mono fun node hnode ↦ ?_
  rw [hnode, hnodes]
  rfl

/-- A name behind the keyword of a declaration makes it one. -/
theorem reads_seesVarKeyword (keyword : VarKeyword) (n : Name) (ts : List Token) :
    Reads g seesVarKeyword (.word keyword.text :: .word n.text :: ts)
      (.word keyword.text :: .word n.text :: ts) (· = some keyword) := by
  refine Reads.current?_cons.bind ?_
  rintro _ ⟨x, rfl, hx⟩
  have hkeyword : ((some x).bind fun x ↦ varKeyword? x.token) = some keyword := by
    rw [Option.bind_some, hx]
    cases keyword <;> rfl
  rw [hkeyword]
  cases keyword with
  | let_ =>
    refine Reads.following?_cons.bind ?_
    rintro _ ⟨y, rfl, hy⟩
    exact .pure (by simp [hy, followsLet, n.isPlainWord])
  | var => exact .pure rfl
  | const => exact .pure rfl

/-! ### Statements -/

/-- No statement that begins with a name is more than an expression, -/
theorem wordStmt?_name (n : Name) (start : Nat) (decorators : List Node) :
    wordStmt? start decorators true n.text = pure none := by
  have hne (text : String) (h : ¬IsName text) : n.text ≠ text := n.ne text h
  unfold wordStmt?
  split <;> first | rfl | (next heq => exact absurd heq (hne _ (by decide)))

/-- and one that begins with the keyword of a declaration is one. -/
theorem reads_wordStmt?_keyword (keyword : VarKeyword) (n : Name) {e : Expr}
    (he : 5 * (tokens e.pieces).length ≤ depth + 1) (start : Nat) (decorators : List Node)
    (ts : List Token) :
    Reads ⟨v, answer v (depth + 1)⟩ (wordStmt? start decorators true keyword.text)
      (tokens (Item.declares keyword n e).pieces ++ ts) ts fun r ↦
        ∃ node, r = some node ∧ node.withoutSpans = (Item.declares keyword n e).node := by
  obtain ⟨rest, hrule, hrest⟩ : ∃ rest : Option VarKeyword → Parse (Option Node),
      wordStmt? start decorators true keyword.text = seesVarKeyword >>= rest ∧
        rest (some keyword) = some <$> varDecl keyword false := by
    cases keyword <;> exact ⟨_, rfl, rfl⟩
  have hread := reads_varDecl (v := v) keyword n he ts
  rw [hrule]
  rw [tokens_declares] at hread ⊢
  refine (reads_seesVarKeyword keyword n _).bind_eq ?_
  rw [hrest]
  exact hread.map fun node hnode ↦ ⟨node, rfl, hnode⟩

/-- **Expression statements.** An expression that is more than a name is a statement with the
semicolon behind it. -/
theorem reads_expressionStmt {e : Expr} (hlong : e.node.identName? = none)
    (he : 5 * (tokens e.pieces).length ≤ depth) (start : Nat) (decorators : List Node)
    (ts : List Token) :
    Reads ⟨v, answer v (depth + 1)⟩ (expressionStmt start decorators)
      (tokens e.pieces ++ .symbol ";" :: ts) ts
      (Node.withoutSpans · = .mk .exprStmt .none [e.node]) := by
  have hexpression : Reads ⟨v, answer v (depth + 1)⟩ expressionIn
      (tokens e.pieces ++ .symbol ";" :: ts) (.symbol ";" :: ts)
      (Node.withoutSpans · = e.node) := by
    refine .withMode (.ask ?_)
    refine (reads_assignment e he ";" (by decide) ts).bind fun node hnode ↦ ?_
    exact .not_sees rfl (.pure hnode)
  refine hexpression.bind fun node hnode ↦ ?_
  have hlong' : node.identName? = none := by rw [← Node.identName?_withoutSpans, hnode, hlong]
  rw [hlong']
  refine Reads.eatEnd.bind_eq (.ite_pos rfl ?_)
  exact (Reads.nodeFrom _ _ _).mono fun n hn ↦ by simp [hn, hnode]

/-! ### Items -/

/-- There are no decorators in front of most tokens. -/
theorem reads_decorators {t : Token} (h : t.is "@" = false) (ts : List Token) :
    Reads g decorators (t :: ts) (t :: ts) (· = []) := by
  have hnone : Reads g (do if ← sees "@" then return some (← decorator) else return none) (t :: ts)
      (t :: ts) (· = none) := .not_sees h (.pure rfl)
  refine Reads.read.bind_eq (.ite (fun _ ↦ ?_) fun _ ↦ .pure rfl)
  have hcollect :=
    Reads.collect ([] : List Empty) (fun _ ↦ []) (fun _ ↦ .absent) (by simp) (by simp) hnone
  exact hcollect.mono fun ns hns ↦ List.map_eq_nil_iff.mp hns

/-- An item that is no import or export is read as a statement. -/
theorem reads_moduleItem_statement {t : Token} {ts ts' : List Token} {P : Node → Prop}
    (ht : ∀ text ∈ ["@", "import", "export"], t.is text = false)
    (h : ∀ start, Reads g (statementFrom start [] true) (t :: ts) ts' P) :
    Reads g moduleItem (t :: ts) ts' P := by
  refine Reads.here.bind fun start _ ↦ (reads_decorators (ht _ (by simp)) ts).bind_eq ?_
  exact .not_seesAny (fun text htext ↦ ht text (List.mem_cons_of_mem _ htext)) (.withMode (h start))

theorem reads_moduleItem_import (default : Option Name) (list : Listed) (source : Quoted)
    (ts : List Token) :
    Reads g moduleItem (tokens (Item.imports default list source).pieces ++ ts) ts
      (Node.withoutSpans · = (Item.imports default list source).node) := by
  have hread := reads_importDecl (g := g) default list source ts
  obtain ⟨t, later, htokens, ht⟩ :
      ∃ t later, tokens (Item.imports default list source).pieces ++ ts =
        .word "import" :: t :: later ∧ ∀ text ∈ [".", "("], t.is text = false := by
    rw [tokens_imports]
    split
    · exact ⟨.string source.value source.raw, _, rfl, fun _ _ ↦ rfl⟩
    · next hbindings =>
      obtain ⟨t, u, later, hlater, -, -, ht, -⟩ :=
        exists_bindings hbindings (.string source.value source.raw :: .symbol ";" :: ts)
      refine ⟨t, u :: later, ?_, fun text htext ↦ ht text (List.mem_cons_of_mem _ htext)⟩
      simp [← hlater]
  rw [htokens] at hread ⊢
  refine Reads.here.bind fun start _ ↦ (reads_decorators rfl _).bind_eq ?_
  refine (Reads.seesAny _).bind_eq (.ite_pos rfl (Reads.here.bind fun start _ ↦ ?_))
  refine (Reads.sees "import").bind_eq (.ite_pos rfl ?_)
  refine (Reads.peeks ".").bind_eq ((Reads.peeks "(").bind_eq (.ite_neg ?_ hread))
  simp [ht]

/-- **Items.** An item of a plain program is read as what it is. -/
theorem reads_moduleItem (item : Item) (h : 5 * (tokens item.pieces).length ≤ depth)
    (ts : List Token) :
    Reads ⟨v, answer v (depth + 1)⟩ moduleItem (tokens item.pieces ++ ts) ts
      (Node.withoutSpans · = item.node) := by
  cases item with
  | imports default list source => exact reads_moduleItem_import default list source ts
  | declares keyword n e =>
    have he : 5 * (tokens e.pieces).length ≤ depth + 1 := by
      simp [Item.pieces] at h
      omega
    have hread (start : Nat) := reads_wordStmt?_keyword (v := v) keyword n he start [] ts
    simp only [tokens_declares] at hread ⊢
    refine reads_moduleItem_statement (by cases keyword <;> decide) fun start ↦ ?_
    have henum : (Token.word n.text).is "enum" = false := n.is_eq_false (by decide)
    refine (Reads.sees "const").bind_eq ((Reads.peeks "enum").bind_eq ?_)
    refine .ite_neg (by simp [henum]) ((Reads.need (by simp)).bind_eq ((hread start).bind ?_))
    rintro _ ⟨node, rfl, hnode⟩
    exact .pure hnode
  | evaluates e hlong =>
    have he : 5 * (tokens e.pieces).length ≤ depth := by
      simp [Item.pieces] at h
      omega
    have hread (start : Nat) := reads_expressionStmt (v := v) hlong he start [] ts
    have htokens : tokens (Item.evaluates e hlong).pieces ++ ts =
        tokens e.pieces ++ .symbol ";" :: ts := by
      simp [Item.pieces]
    obtain ⟨head, links⟩ := e
    obtain ⟨s, -, later, hlater⟩ := exists_mark links (s := ";") (by decide) ts
    rw [tokens_pieces, List.cons_append, hlater] at htokens
    simp only [tokens_pieces, List.cons_append, hlater] at hread
    rw [htokens]
    refine reads_moduleItem_statement (head.all_is_eq_false (by decide)) fun start ↦ ?_
    have hconst : head.token.is "const" = false := head.is_eq_false (by decide)
    refine (Reads.sees "const").bind_eq ((Reads.peeks "enum").bind_eq ?_)
    refine .ite_neg (by simp [hconst]) ((Reads.need head.not_faulty).bind_eq ?_)
    cases head with
    | name n =>
      rw [Head.token]
      simp only [wordStmt?_name]
      exact .pure_bind (hread start)
    | string s => exact hread start

end Items

/-! ### Programs -/

/-- The tokens of a text are words, strings and symbols. -/
theorem not_faulty_of_mem_tokens {pieces : List Piece} {t : Token} (h : t ∈ tokens pieces) :
    (∀ fault, t ≠ .faulty fault) ∧ ∀ text, t ≠ .shebang text := by
  obtain ⟨p, -, hp⟩ := List.mem_filterMap.mp h
  cases p <;> cases hp <;> simp

theorem tokens_programPieces (items : List Item) :
    tokens (programPieces items) = items.flatMap (tokens ·.pieces) := by
  induction items with
  | nil => rfl
  | cons item rest ih =>
    rw [programPieces, List.flatMap_cons, tokens_append, ← programPieces, ih, List.flatMap_cons]

theorem Item.tokens_ne_nil (item : Item) : tokens item.pieces ≠ [] := by
  cases item <;> simp [pieces]

/-- **Programs.** The tokens of a program are read as the program. -/
theorem reads_program {v : Dialect} {depth : Nat} (items : List Item)
    (h : 5 * (tokens (programPieces items)).length ≤ depth) :
    Reads ⟨v, answer v (depth + 2)⟩ moduleItems (tokens (programPieces items)) []
      (Node.withoutSpans · = programNode items) Lexer.IsDone := by
  have hitem (item : Item) (hmem : item ∈ items) (later : List Token) :
      Reads ⟨v, answer v (depth + 2)⟩ (do
        if ← atEnd then return none else return some (← ask (.listItem true)))
        (tokens item.pieces ++ later) later fun r ↦
          ∃ n, r = some n ∧ n.withoutSpans = item.node := by
    have hlength : (tokens item.pieces).length ≤ (tokens (programPieces items)).length := by
      obtain ⟨first, last, rfl⟩ := List.append_of_mem hmem
      simp only [tokens_programPieces, List.flatMap_append, List.flatMap_cons, List.length_append]
      omega
    have hread : Reads ⟨v, answer v (depth + 1)⟩ (rule (.listItem true)) _ _ _ :=
      reads_moduleItem item (by omega) later
    obtain ⟨t, rest, ht⟩ := List.exists_cons_of_ne_nil item.tokens_ne_nil
    have hfaulty := (not_faulty_of_mem_tokens (ht ▸ List.mem_cons_self (a := t))).1
    rw [ht] at hread ⊢
    refine (Reads.atEnd_cons hfaulty).bind_eq (.ite_neg (by simp) ?_)
    exact (Reads.ask hread).bind fun n hn ↦ .pure ⟨n, rfl, hn⟩
  have hitems : Reads ⟨v, answer v (depth + 2)⟩ (collect do
      if ← atEnd then return none else return some (← ask (.listItem true)))
      (tokens (programPieces items)) [] (fun ns ↦
        ns.map Node.withoutSpans = items.map Item.node) Lexer.IsDone := by
    rw [tokens_programPieces, ← List.append_nil (items.flatMap _)]
    exact Reads.collect items (tokens ·.pieces) Item.node (fun item _ ↦ item.tokens_ne_nil) hitem
      (Reads.atEnd_nil.bind_still fun _ hend s ↦ ⟨none, s, by rw [hend]; rfl, rfl, rfl, rfl, rfl⟩)
  refine Reads.here.bind fun start _ ↦ ?_
  have hrest := hitems.bind_still fun ns hns s ↦
    show ∃ b s', nodeFrom start (.module none) ns _ s = .ok b s' ∧ s'.lexer = s.lexer ∧
        s'.current = s.current ∧ s'.following = s.following ∧
          b.withoutSpans = programNode items from
      ⟨_, s, rfl, rfl, rfl, rfl, by
        rw [Node.withoutSpans, Node.allWithoutSpans_eq_map, hns, programNode]⟩
  cases hts : tokens (programPieces items) with
  | nil => exact Reads.look_nil.forget.bind_eq (.pure_bind (hts ▸ hrest))
  | cons t ts =>
    obtain ⟨hfaulty, hshebang⟩ := not_faulty_of_mem_tokens (hts ▸ List.mem_cons_self (a := t))
    refine (Reads.look hfaulty).bind_eq ?_
    rw [hts] at hrest
    cases t with
    | shebang text => exact absurd rfl (hshebang text)
    | _ => exact .pure_bind hrest

/-- A mark of the order of the bytes stands in front of no token. -/
theorem tokenizes_withoutByteOrderMark {text : List Char} {ts : List Token} {cs : List Comment}
    (h : Lexer.Tokenizes text ts cs) : Lexer.Tokenizes (withoutByteOrderMark text) ts cs := by
  unfold withoutByteOrderMark
  split
  · exact h.of_cons (by decide)
  · exact h

/-- A text with the tokens of a program is accepted, and read as the program. Its comments are
filed.
-/
theorem ofText_of_tokenizes (v : Dialect) (passOver : Bool) (start : Nat) {items : List Item}
    {chars : List Char} {cs : List Comment}
    (h : Lexer.Tokenizes chars (tokens (programPieces items)) cs) :
    ∃ m, Module.ofText v passOver start (String.ofList chars) = .ok m ∧
      m.tree.withoutSpans = programNode items ∧
      (m.comments.filed.map Filed.comment).Perm cs := by
  have htokens := tokenizes_withoutByteOrderMark h
  rw [Module.ofText, String.toList_ofList]
  generalize withoutByteOrderMark chars = chars at htokens
  have hlength := htokens.length_le
  have hat : (Lexer.ofText start chars).At chars [] :=
    ⟨rfl, Nat.lt_succ_self _, by simp [Lexer.ofText], rfl, .rfl, rfl⟩
  let s : ParseState := { lexer := Lexer.ofText start chars, previous := ⟨start, start⟩ }
  -- the depth that is allowed depends on the length of the text, and no token has no characters
  obtain ⟨tree, s', hrun, -, htree, hdone⟩ :=
    reads_program (v := v) items (show _ ≤ 16 * (chars.length + 1) + 62 by omega) cs s
      ⟨_, ⟨chars, [], cs, hat, htokens, .rfl⟩, rfl⟩
  have hrun' : moduleItems ⟨v, answer v (16 * (Lexer.ofText start chars).bound + 64)⟩ s =
      .ok tree s' := hrun
  refine ⟨⟨tree, s'.lexer.comments, start + Lexer.byteLength chars⟩, ?_, htree, hdone.comments⟩
  simp only [EStateM.run, s, hrun', hdone.noted, List.getLast?_nil, ite_self]

end PageRoutes.Syntax.Plain
