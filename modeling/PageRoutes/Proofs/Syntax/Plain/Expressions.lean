import PageRoutes.Proofs.Syntax.Plain
import PageRoutes.Proofs.Syntax.Reading
/-!
# Reading plain expressions

A plain expression is read as what it is. Its beginning is an operand, and the links behind it are
read one after the other, up to a symbol that is no link. The rules for operators and for arrow
functions find nothing to do there and give the operand on as it is.

The arguments of a call are expressions again, and the rule for expressions is asked for each of
them. How deep such questions may go is bounded; the bound is never reached, since an argument has
fewer tokens than the expression that it stands in.

## Main definitions

* `Plain.ReadsExpr` : steps that read an expression as what it is.

## Main results

* `Plain.reads_arguments` : the arguments of a call.
* `Plain.reads_subscripts` : the links behind an operand.
* `Plain.reads_assignment` : expressions.
-/

namespace PageRoutes.Syntax.Plain

open Parse

variable {v : Dialect} {depth : Nat} {ts : List Token}

/-! ### Tokens -/

/-- The symbols that can stand behind an operand. -/
def marks : List String := [".", "(", ")", ",", ";"]

/-- The symbols that can stand behind an expression. -/
def ends : List String := [")", ",", ";"]

theorem is_eq_false {s text : String} {symbols : List String} (hs : s ∈ symbols)
    (h : text ∉ symbols) : (Token.symbol s).is text = false := by
  have hne : s ≠ text := by
    rintro rfl
    exact h hs
  simp [Token.is, Token.isSymbol, Token.isWord, hne]

theorem all_is_eq_false {s : String} {symbols texts : List String} (hs : s ∈ symbols)
    (h : ∀ text ∈ texts, text ∉ symbols) :
    ∀ text ∈ texts, (Token.symbol s).is text = false :=
  fun text htext ↦ is_eq_false hs (h text htext)

theorem Word.is_eq_false (w : Word) {text : String}
    (h : ¬Lexer.IsWord text.toList) : (Token.word w.text).is text = false := by
  have hne : w.text ≠ text := by
    rintro rfl
    exact h w.isWord
  simp [Token.is, Token.isSymbol, Token.isWord, hne]

theorem Name.ne (n : Name) (text : String) (h : ¬IsName text) : n.text ≠ text := by
  rintro rfl
  exact h n.isName

theorem Name.is_eq_false (n : Name) {text : String} (h : ¬IsName text) :
    (Token.word n.text).is text = false := by
  simp [Token.is, Token.isSymbol, Token.isWord, n.ne text h]

theorem Name.isPlainWord (n : Name) : isPlainWord n.text = true := by
  have hreserved := n.isName.2.1
  simp only [isReserved, Bool.or_eq_false_iff] at hreserved
  simp only [Syntax.isPlainWord, hreserved, Bool.not_false, Bool.and_self]

theorem Name.not_strict (n : Name) : n.text ∉ strictWords := fun h ↦
  n.isName.2.2 (List.mem_append_left _ h)

theorem not_faulty_symbol (s : String) : ∀ fault, Token.symbol s ≠ .faulty fault := by simp

theorem operandTypeArgs_of_mark {g : Grammar} {s : String} (hs : s ∈ marks) :
    Reads g operandTypeArgs (.symbol s :: ts) (.symbol s :: ts) (· = none) :=
  .unseen (is_eq_false hs (by decide)) (.ite_pos rfl (.pure rfl))

section Links

variable {g : Grammar} {object : Node} {noCall : Bool} {ts' : List Token}

/-- A link behind an operand, or the end of the chain, by the symbol that comes next. -/
theorem reads_link {s : String} (hs : s ∈ marks) (h : isExpression object) {P : Node × Bool → Prop}
    (hcall : s = "(" → noCall = false →
      Reads g (callOf object false .absent) (.symbol s :: ts) ts' fun e ↦ P (e, true))
    (hmember : s = "." → Reads g memberName ts ts' fun property ↦
      Reads g (memberOf object property false noCall) ts' ts' fun e ↦ P (e, true))
    (hend : s ≠ "." → (s = "(" → noCall) → ts' = .symbol s :: ts ∧ P (object, false)) :
    Reads g (link object noCall false) (.symbol s :: ts) ts' P := by
  have hplain : isSuper object = false ∧ isImport object = false := by
    simpa [isExpression] using h
  refine (Reads.look (not_faulty_symbol s)).bind_eq (Reads.afterLineBreak.bind fun isAfter _ ↦ ?_)
  refine .unseen (is_eq_false hs (by decide)) (.ite_neg (by simp) ?_)
  refine .unseen (is_eq_false hs (by decide)) (.ite_neg (by simp) ?_)
  refine .ite_pos h ((operandTypeArgs_of_mark hs).bind_eq ?_)
  refine .not_sees (is_eq_false hs (by decide)) (.pure_bind (.ite_neg (by simp) ?_))
  refine .unseen (is_eq_false hs (by decide)) (.ite_neg (by simp) ?_)
  refine .unseen (is_eq_false hs (by decide)) (.ite_neg (by simp) ?_)
  refine .pure_bind ((Reads.sees "(").bind_eq ?_)
  by_cases hc : s = "(" ∧ noCall = false
  · obtain ⟨rfl, rfl⟩ := hc
    exact .ite_pos rfl ((hcall rfl rfl).bind fun e he ↦ .pure he)
  have hclosed : s = "(" → noCall := fun hs ↦ by simpa [hs] using hc
  refine .ite_neg (fun hboth ↦ ?_) ?_
  · simp only [Token.is, Token.isSymbol, Token.isWord, Bool.or_false, Bool.and_eq_true, beq_iff_eq,
      Bool.not_eq_true'] at hboth
    exact hc hboth.symm
  by_cases hpoint : s = "."
  · subst hpoint
    refine (Reads.eat_of_is rfl).bind_eq (.ite_pos rfl (.ite_neg (by simp [hplain]) ?_))
    exact (hmember rfl).bind fun property hproperty ↦ hproperty.bind fun e he ↦ .pure he
  · obtain ⟨rfl, hP⟩ := hend hpoint hclosed
    have hne : (Token.symbol s).is "." = false := by
      simp [Token.is, Token.isSymbol, Token.isWord, hpoint]
    refine (Reads.eat_of_not_is hne).bind_eq (.ite_neg (by simp) ?_)
    refine .ite_neg (by simp [hplain]) (.ite_neg (by simp [hplain]) ?_)
    exact .pure_bind (.unseen (is_eq_false hs (by decide)) (.ite_neg (by simp) (.pure hP)))

/-- Any word is read as a name. -/
theorem reads_anyName (w : Word) (ts : List Token) :
    Reads g anyName (.word w.text :: ts) ts (Node.withoutSpans · = w.node) :=
  (Reads.look (by simp)).bind_eq (Reads.skip.bind fun _ _ ↦ .leaf _)

/-- A word behind a point is a property. -/
theorem reads_member (h : isExpression object) (hoptional : isOptional object = false) (w : Word) :
    Reads g (link object noCall false) (.symbol "." :: .word w.text :: ts) ts fun r ↦ r.2 = true ∧
      r.1.withoutSpans = .mk .member .none [object.withoutSpans, w.node] := by
  have hplain : isSuper object = false ∧ isImport object = false := by
    simpa [isExpression] using h
  refine reads_link (by decide) h (by simp) (fun _ ↦ ?_) (by simp)
  have hprivate : (Token.word w.text).is "#" = false := w.is_eq_false (by decide)
  refine .mono (.not_sees hprivate (reads_anyName w ts)) fun property hproperty ↦ ?_
  refine .ite_neg (by simp [hplain]) (.ite_neg (by simp [hplain]) ?_)
  refine .ite_neg (by simp [hoptional]) ?_
  exact (Reads.nodeFrom _ _ _).mono fun e he ↦ ⟨rfl, by simp [he, hproperty]⟩

theorem reads_callOf (hoptional : isOptional object = false) {args : Node}
    (hargs : Reads g callArguments (.symbol "(" :: ts) ts' (Node.withoutSpans · = args)) :
    Reads g (callOf object false .absent) (.symbol "(" :: ts) ts'
      (Node.withoutSpans · = .mk .call .none [object.withoutSpans, args, .absent]) := by
  refine hargs.bind fun n hn ↦ .ite_neg (by simp [hoptional]) ?_
  exact (Reads.nodeFrom _ _ _).mono fun e he ↦ by simp [he, hn]; rfl

/-- Arguments behind an operand belong to a call. -/
theorem reads_call (h : isExpression object) (hoptional : isOptional object = false) {args : Node}
    (hargs : Reads g callArguments (.symbol "(" :: ts) ts' (Node.withoutSpans · = args)) :
    Reads g (link object false false) (.symbol "(" :: ts) ts' fun r ↦ r.2 = true ∧
      r.1.withoutSpans = .mk .call .none [object.withoutSpans, args, .absent] := by
  refine reads_link (by decide) h (fun _ _ ↦ ?_) (by simp) (by simp)
  exact (reads_callOf hoptional hargs).mono fun e he ↦ ⟨rfl, he⟩

/-- A chain ends in front of any other symbol. -/
theorem reads_end {s : String} (hs : s ∈ marks) (h : isExpression object) (hpoint : s ≠ ".")
    (hcall : s = "(" → noCall) :
    Reads g (link object noCall false) (.symbol s :: ts) (.symbol s :: ts) (· = (object, false)) :=
  reads_link hs h (fun hs hno ↦ absurd (hcall hs) (by simp [hno])) (fun hs ↦ absurd hs hpoint)
    fun _ _ ↦ ⟨rfl, rfl⟩

end Links

/-! ### Arguments -/

theorem tokens_listed_cons (p : List Piece) (rest : List (List Piece)) :
    tokens (listed (p :: rest)) = tokens p ++ rest.flatMap fun q ↦ .symbol "," :: tokens q := by
  induction rest generalizing p with
  | nil => simp [listed]
  | cons q rest ih =>
    rw [listed, tokens_append, List.flatMap_cons]
    congr 1
    exact congrArg (.symbol "," :: ·) (ih q)

theorem length_tokens_le {parts : List (List Piece)} {p : List Piece} (h : p ∈ parts) :
    (tokens p).length ≤ (tokens (listed parts)).length := by
  induction parts with
  | nil => cases h
  | cons q rest ih =>
    cases rest with
    | nil => rw [List.mem_singleton.mp h, listed]
    | cons r rest =>
      have hcons : (tokens (listed (q :: r :: rest))).length =
          (tokens q).length + ((tokens (listed (r :: rest))).length + 1) := by
        rw [listed, tokens_append, List.length_append]
        rfl
      rcases List.mem_cons.mp h with rfl | hrest
      · omega
      · have := ih hrest
        omega

theorem tokens_call (args : List Expr) : tokens (Link.call args).pieces =
    .symbol "(" :: (tokens (listed (argPieces args)) ++ [.symbol ")"]) := by
  change .symbol "(" :: tokens (listed (argPieces args) ++ [.symbol ")"]) = _
  rw [tokens_append]
  rfl

/-- The token of the beginning of an expression. -/
def Head.token : Head → Token
  | name n => .word n.text
  | string s => .string s.value s.raw

theorem tokens_pieces (head : Head) (links : List Link) :
    tokens (Expr.of head links).pieces = head.token :: tokens (linkPieces links) := by
  cases head <;> rfl

theorem Head.is_eq_false (head : Head) {text : String} (h : ¬IsName text) :
    head.token.is text = false := by
  cases head with
  | name n => exact n.is_eq_false h
  | string s => rfl

theorem Head.all_is_eq_false (head : Head) {texts : List String}
    (h : ∀ text ∈ texts, ¬IsName text) : ∀ text ∈ texts, head.token.is text = false :=
  fun text htext ↦ head.is_eq_false (h text htext)

theorem Head.not_faulty (head : Head) : ∀ fault, head.token ≠ .faulty fault := by
  cases head <;> simp [token]

/-- Whether a step reads an expression, and as what it is, wherever it ends. -/
def ReadsExpr (g : Grammar) (p : Parse Node) (e : Expr) : Prop :=
  ∀ s ∈ ends, ∀ ts, Reads g p (tokens e.pieces ++ .symbol s :: ts) (.symbol s :: ts)
    (Node.withoutSpans · = e.node)

theorem reads_spreadElement {g : Grammar} {e : Expr} (h : ReadsExpr g (ask .assignment) e)
    {s : String} (hs : s ∈ ends) (ts : List Token) :
    Reads g spreadElement (tokens e.pieces ++ .symbol s :: ts) (.symbol s :: ts)
      (Node.withoutSpans · = e.node) := by
  refine Reads.here.bind fun start _ ↦ ?_
  have hassign := h s hs ts
  obtain ⟨head, links⟩ := e
  rw [tokens_pieces] at hassign ⊢
  refine Reads.not_eat (head.is_eq_false (by decide)) ?_
  exact Reads.withMode hassign

/-- One more turn of the loop over arguments. -/
def argumentStep (arguments : List Node) : Parse (List Node × Bool) := do
  if (← atEnd) || (← sees ")") then return (arguments, true)
  unless arguments.isEmpty do
    expect ","
    if ← sees ")" then return (arguments, true)
  return ((← spreadElement) :: arguments, false)

/-- What stands behind an argument. -/
theorem exists_behind_argument (parts : List (List Piece)) (ts : List Token) :
    ∃ s ∈ ends, ∃ later, parts.flatMap (fun p ↦ .symbol "," :: tokens p) ++ .symbol ")" :: ts =
      .symbol s :: later := by
  cases parts with
  | nil => exact ⟨")", by decide, ts, rfl⟩
  | cons p rest => exact ⟨",", by decide, _, rfl⟩

/-- Arguments behind others are read up to the closing bracket. -/
theorem reads_later_arguments {g : Grammar} {args : List Expr}
    (h : ∀ a ∈ args, ReadsExpr g (ask .assignment) a) {acc : List Node} (hacc : acc ≠ [])
    (ts : List Token) {n : Nat}
    (hn : ((argPieces args).flatMap fun p ↦ .symbol "," :: tokens p).length < n) :
    Reads g (repeatStep argumentStep n acc)
      ((argPieces args).flatMap (fun p ↦ .symbol "," :: tokens p) ++ .symbol ")" :: ts)
      (.symbol ")" :: ts) fun arguments ↦
        arguments.map Node.withoutSpans = (argNodes args).reverse ++ acc.map Node.withoutSpans := by
  obtain ⟨n, rfl⟩ := Nat.exists_eq_succ_of_ne_zero (Nat.ne_zero_of_lt hn)
  induction args generalizing acc n with
  | nil =>
    refine Reads.repeatStep_done ((Reads.atEnd_cons (by simp)).bind_eq ?_) n
    exact (Reads.sees ")").bind_eq (.ite_pos rfl (.pure ⟨rfl, by simp [argNodes]⟩))
  | cons e rest ih =>
    obtain ⟨he, hrest⟩ := List.forall_mem_cons.mp h
    rw [argPieces, List.flatMap_cons, List.length_append, List.length_cons] at hn
    obtain ⟨n, rfl⟩ := Nat.exists_eq_succ_of_ne_zero (n := n) (by omega)
    rw [argPieces, List.flatMap_cons, List.append_assoc, List.cons_append]
    refine Reads.repeatStep_more (k := (argPieces rest).flatMap (fun p ↦ .symbol "," :: tokens p) ++
      .symbol ")" :: ts) ?_
    refine (Reads.atEnd_cons (by simp)).bind_eq (.not_sees rfl ?_)
    refine .ite_neg (by simpa using hacc) ((Reads.expect rfl).bind fun _ _ ↦ ?_)
    obtain ⟨s, hs, later, hlater⟩ := exists_behind_argument (argPieces rest) ts
    have hread := reads_spreadElement he hs later
    rw [← hlater] at hread
    obtain ⟨head, links⟩ := e
    rw [tokens_pieces] at hread ⊢
    refine .not_sees (head.is_eq_false (by decide)) ?_
    refine hread.bind fun node hnode ↦ .pure ⟨rfl, ?_⟩
    refine (ih hrest (by simp) n (by omega)).mono fun arguments harguments ↦ ?_
    simp [harguments, hnode, argNodes]

/-- **Arguments.** Arguments are read up to their closing bracket. -/
theorem reads_arguments {g : Grammar} {args : List Expr}
    (h : ∀ a ∈ args, ReadsExpr g (ask .assignment) a) (ts : List Token) :
    Reads g callArguments
      (.symbol "(" :: (tokens (listed (argPieces args)) ++ .symbol ")" :: ts)) ts
      (Node.withoutSpans · = .group (argNodes args)) := by
  refine Reads.withMode ((Reads.expect rfl).bind fun _ _ ↦ Reads.fuel.bind fun n hn ↦ ?_)
  have hloop : Reads g (repeatStep argumentStep n [])
      (tokens (listed (argPieces args)) ++ .symbol ")" :: ts) (.symbol ")" :: ts)
      fun arguments ↦ arguments.map Node.withoutSpans = (argNodes args).reverse := by
    obtain ⟨n, rfl⟩ := Nat.exists_eq_succ_of_ne_zero (Nat.ne_zero_of_lt hn)
    cases args with
    | nil =>
      refine Reads.repeatStep_done ((Reads.atEnd_cons (by simp)).bind_eq ?_) n
      exact (Reads.sees ")").bind_eq (.ite_pos rfl (.pure ⟨rfl, rfl⟩))
    | cons e rest =>
      obtain ⟨he, hrest⟩ := List.forall_mem_cons.mp h
      rw [argPieces, tokens_listed_cons, List.append_assoc] at hn ⊢
      obtain ⟨s, hs, later, hlater⟩ := exists_behind_argument (argPieces rest) ts
      have hread := reads_spreadElement he hs later
      rw [← hlater] at hread
      obtain ⟨head, links⟩ := e
      rw [tokens_pieces] at hread hn ⊢
      refine Reads.repeatStep_more
        (k := (argPieces rest).flatMap (fun p ↦ .symbol "," :: tokens p) ++ .symbol ")" :: ts)
        ((Reads.atEnd_cons head.not_faulty).bind_eq ?_)
      refine .not_sees (head.is_eq_false (by decide)) (.ite_pos rfl ?_)
      refine hread.bind fun node hnode ↦ .pure ⟨rfl, ?_⟩
      refine (reads_later_arguments hrest (by simp) ts ?_).mono fun arguments harguments ↦ ?_
      · simp only [List.length_append, List.length_cons] at hn
        omega
      · simp [harguments, hnode, argNodes]
  refine Reads.bind hloop fun arguments harguments ↦ (Reads.expect rfl).bind fun _ _ ↦ .pure ?_
  simp [Node.group, Node.withoutSpans, Node.allWithoutSpans_eq_map, harguments]

/-! ### Chains -/

section Kinds

variable {n : Node}

theorem isExpression_of_isPlainKind (h : IsPlainKind n.kind) : isExpression n := by
  unfold IsPlainKind at h
  split at h <;> simp_all [isExpression, isSuper, isImport]

theorem isOptional_of_isPlainKind (h : IsPlainKind n.kind) : isOptional n = false := by
  obtain ⟨kind, span, children⟩ := n
  unfold IsPlainKind at h
  split at h <;> simp_all [Node.kind, isOptional]

theorem isArrow_of_isPlainKind (h : IsPlainKind n.kind) : isArrow n = false := by
  unfold IsPlainKind at h
  split at h <;> simp_all [isArrow]

theorem endsAssignment_of_isPlainKind (h : IsPlainKind n.kind) : endsAssignment n = false := by
  have harrow := isArrow_of_isPlainKind h
  unfold IsPlainKind at h
  split at h <;> simp_all [endsAssignment]

theorem isBareNew_of_isPlainKind (h : IsPlainKind n.kind) : isBareNew n = false := by
  unfold IsPlainKind at h
  split at h <;> simp_all [isBareNew]

end Kinds

/-- **Chains.** The links behind an operand are read up to the symbol behind the last one. -/
theorem reads_subscripts {g : Grammar} {links : List Link} {noCall : Bool}
    (hcalls : ∀ args, .call args ∈ links →
      noCall = false ∧ ∀ a ∈ args, ReadsExpr g (ask .assignment) a)
    {s : String} (hs : s ∈ marks) (hpoint : s ≠ ".") (hcall : s = "(" → noCall) {object : Node}
    (hkind : IsPlainKind object.kind) (ts : List Token) :
    Reads g (subscripts object noCall false) (tokens (linkPieces links) ++ .symbol s :: ts)
      (.symbol s :: ts) (Node.withoutSpans · = linkNode object.withoutSpans links) := by
  refine Reads.fuel.bind fun n hn ↦ ?_
  replace hn : (tokens (linkPieces links)).length < n := by
    rw [List.length_append] at hn
    omega
  obtain ⟨n, rfl⟩ := Nat.exists_eq_succ_of_ne_zero (Nat.ne_zero_of_lt hn)
  induction links generalizing object n with
  | nil =>
    refine Reads.repeatStep_done ?_ n
    exact (reads_end hs (isExpression_of_isPlainKind hkind) hpoint hcall).bind_eq (.pure ⟨rfl, rfl⟩)
  | cons link rest ih =>
    have hrest := fun args hmem ↦ hcalls args (List.mem_cons_of_mem _ hmem)
    have hexpression := isExpression_of_isPlainKind hkind
    have hoptional := isOptional_of_isPlainKind hkind
    rw [linkPieces, tokens_append, List.length_append] at hn
    rw [linkPieces, tokens_append, List.append_assoc]
    have hlink : Reads g (Parse.link object noCall false)
        (tokens link.pieces ++ (tokens (linkPieces rest) ++ .symbol s :: ts))
        (tokens (linkPieces rest) ++ .symbol s :: ts)
        fun r ↦ r.2 = true ∧ r.1.withoutSpans = link.nodeOn object.withoutSpans := by
      cases link with
      | member name => exact reads_member hexpression hoptional name
      | call args =>
        obtain ⟨rfl, hargs⟩ := hcalls args List.mem_cons_self
        rw [tokens_call, List.cons_append, List.append_assoc]
        exact reads_call hexpression hoptional
          (reads_arguments hargs (tokens (linkPieces rest) ++ .symbol s :: ts))
    have hnode (e : Node) (he : e.withoutSpans = link.nodeOn object.withoutSpans) :
        IsPlainKind e.kind := by
      rw [← Node.kind_withoutSpans, he]
      cases link <;> trivial
    have hlength : 0 < (tokens link.pieces).length := by
      cases link <;> exact Nat.succ_pos _
    obtain ⟨n, rfl⟩ := Nat.exists_eq_succ_of_ne_zero (n := n) (by omega)
    refine Reads.repeatStep_more (k := tokens (linkPieces rest) ++ .symbol s :: ts) (hlink.bind ?_)
    rintro ⟨e, _⟩ ⟨rfl, he⟩
    refine .pure ⟨rfl, ?_⟩
    have hread := ih hrest (hnode e he) n (by omega)
    rwa [he] at hread

/-! ### Operands -/

section Operands

variable {g : Grammar}

/-- A name is read as an identifier. -/
theorem reads_identText (n : Name) (spared : List String) (ts : List Token) :
    Reads g (identText spared) (.word n.text :: ts) ts (· = n.text) := by
  have hawait := n.ne "await" (by decide)
  have hthis := n.ne "this" (by decide)
  have hlet := n.ne "let" (by decide)
  have hyield := n.ne "yield" (by decide)
  refine (Reads.need (by simp)).bind_eq (Reads.skip.bind fun _ _ ↦ Reads.lastSpan.bind fun _ _ ↦ ?_)
  refine .ite_neg (by simp [n.not_strict]) (.ite_neg (by simp [hawait]) ?_)
  refine .ite_neg (by simp [hthis, hlet, hyield]) ?_
  refine .ite_neg (by simp [n.isPlainWord]) (Reads.mode.bind fun _ _ ↦ ?_)
  exact .ite_neg (by simp [n.ne "arguments" (by decide)]) (.pure rfl)

theorem literalKind?_name (n : Name) : literalKind? (.word n.text) = none := by
  have hnull := n.ne "null" (by decide)
  have htrue := n.ne "true" (by decide)
  have hfalse := n.ne "false" (by decide)
  unfold literalKind?
  split <;> simp_all

/-- There is no literal where a name stands. -/
theorem reads_literal?_name (n : Name) (ts : List Token) :
    Reads g literal? (.word n.text :: ts) (.word n.text :: ts) (· = none) := by
  refine Reads.current?_cons.bind ?_
  rintro _ ⟨x, rfl, hx⟩
  have hkind : ((some x).bind fun x ↦ literalKind? x.token) = none := by
    simp [hx, literalKind?_name]
  rw [hkind]
  exact .pure rfl

/-- A string is a literal. -/
theorem reads_literal?_string (s : Quoted) (ts : List Token) :
    Reads g literal? (.string s.value s.raw :: ts) ts
      fun r ↦ ∃ n, r = some n ∧ n.withoutSpans = .mk (.stringLit s.value s.raw) .none [] := by
  refine Reads.current?_cons.bind ?_
  rintro _ ⟨x, rfl, hx⟩
  have hkind : ((some x).bind fun x ↦ literalKind? x.token) = some (.stringLit s.value s.raw) := by
    simp [hx, literalKind?]
  rw [hkind]
  exact Reads.skip.bind fun _ _ ↦ (Reads.leaf _).bind fun n hn ↦ .pure ⟨n, rfl, hn⟩

/-- A name is read as an operand, whether it may begin an arrow function or not. -/
theorem reads_nameOrArrow (n : Name) {s : String} (hs : s ∈ marks) (start : Nat) (canBeArrow : Bool)
    (ts : List Token) :
    Reads g (nameOrArrow start canBeArrow) (.word n.text :: .symbol s :: ts) (.symbol s :: ts)
      (Node.withoutSpans · = .mk (.ident n.text) .none []) := by
  refine (reads_identText n _ _).bind_eq ((Reads.leaf _).bind fun node hnode ↦ ?_)
  refine Reads.afterLineBreak.bind fun isAfter _ ↦ .ite (fun _ ↦ .pure hnode) fun _ ↦ ?_
  refine Reads.seesIdentifier.bind fun _ _ ↦ .ite_neg (by simp [n.ne "async" (by decide)]) ?_
  exact Reads.not_eat (is_eq_false hs (by decide)) (.pure hnode)

theorem reads_wordOperand (n : Name) {s : String} (hs : s ∈ marks) (start : Nat) (canBeArrow : Bool)
    (ts : List Token) :
    Reads g (wordOperand start canBeArrow n.text) (.word n.text :: .symbol s :: ts)
      (.symbol s :: ts) (Node.withoutSpans · = .mk (.ident n.text) .none []) := by
  have hthis := n.ne "this" (by decide)
  have hfunction := n.ne "function" (by decide)
  have hclass := n.ne "class" (by decide)
  have hasync := n.ne "async" (by decide)
  refine .ite_neg (by simp [hthis]) (.ite_neg (by simp [hfunction]) ?_)
  refine .ite_neg (by simp [hclass]) (.ite_neg (by simp [hasync]) ?_)
  refine (reads_literal?_name n _).bind_eq (.ite_pos (by simp [n.isPlainWord]) ?_)
  exact reads_nameOrArrow n hs start canBeArrow ts

/-- The beginning of an expression is read as an operand. -/
theorem reads_primary (head : Head) {s : String} (hs : s ∈ marks) (ts : List Token) :
    Reads g primary (head.token :: .symbol s :: ts) (.symbol s :: ts)
      (Node.withoutSpans · = head.node) := by
  have harrow (start : Nat) : Reads g (atArrowStart start) (head.token :: .symbol s :: ts)
      (head.token :: .symbol s :: ts) fun _ ↦ True :=
    .of_untouched fun s ↦ ⟨_, s, rfl, rfl, rfl, rfl⟩
  refine (Reads.look head.not_faulty).bind_eq (Reads.here.bind fun start _ ↦ ?_)
  refine (harrow start).bind fun canBeArrow _ ↦ ?_
  cases head with
  | name n => exact reads_wordOperand n hs start canBeArrow ts
  | string s =>
    refine (reads_literal?_string s _).bind ?_
    rintro _ ⟨node, rfl, hnode⟩
    exact .pure hnode

end Operands

/-! ### Expressions -/

section Expressions

variable {v : Dialect} {depth : Nat}

/-- What stands behind the beginning of an expression. -/
theorem exists_mark (links : List Link) {s : String} (hs : s ∈ marks) (ts : List Token) :
    ∃ s' ∈ marks, ∃ later, tokens (linkPieces links) ++ .symbol s :: ts = .symbol s' :: later := by
  cases links with
  | nil => exact ⟨s, hs, ts, rfl⟩
  | cons link rest =>
    cases link with
    | member name => exact ⟨".", by decide, _, rfl⟩
    | call args => exact ⟨"(", by decide, _, rfl⟩

/-- Links up to the first call, and the others. -/
theorem exists_members (links : List Link) :
    ∃ members later, links = members ++ later ∧ (∀ args, .call args ∉ members) ∧
      (later = [] ∨ ∃ args more, later = .call args :: more) := by
  induction links with
  | nil => exact ⟨[], [], rfl, by simp, .inl rfl⟩
  | cons link rest ih =>
    cases link with
    | member name =>
      obtain ⟨members, later, rfl, hmembers, hlater⟩ := ih
      exact ⟨.member name :: members, later, rfl, by simpa using hmembers, hlater⟩
    | call args => exact ⟨[], .call args :: rest, rfl, by simp, .inr ⟨args, rest, rfl⟩⟩

/-- An operand is read with its properties, up to the first call. -/
theorem reads_memberOrNew (head : Head) {members : List Link}
    (hmembers : ∀ args, .call args ∉ members) {s : String} (hs : s ∈ ["(", ")", ",", ";"])
    (ts : List Token) :
    Reads ⟨v, answer v (depth + 1)⟩ memberOrNew
      (head.token :: (tokens (linkPieces members) ++ .symbol s :: ts)) (.symbol s :: ts)
      (Node.withoutSpans · = linkNode head.node members) := by
  have hmark : s ∈ marks := by revert s; decide
  refine Reads.withMode (Reads.here.bind fun start _ ↦ ?_)
  refine Reads.not_eat (head.is_eq_false (by decide)) ?_
  refine Reads.not_eat (head.is_eq_false (by decide)) ?_
  refine Reads.not_eat (head.is_eq_false (by decide)) ?_
  have hchain (e : Node) (he : e.withoutSpans = head.node) : Reads ⟨v, answer v (depth + 1)⟩
      (ask (.subscripts e true false)) (tokens (linkPieces members) ++ .symbol s :: ts)
      (.symbol s :: ts) (Node.withoutSpans · = linkNode head.node members) := by
    have hkind : IsPlainKind e.kind := isPlainKind_of_withoutSpans [] he
    rw [← he]
    exact .ask (reads_subscripts (fun args hmem ↦ absurd hmem (hmembers args)) hmark
      (by rintro rfl; revert hs; decide) (fun _ ↦ rfl) hkind ts)
  obtain ⟨s', hs', later, hlater⟩ := exists_mark members hmark ts
  rw [hlater] at hchain ⊢
  refine (reads_primary head hs' later).bind fun e he ↦ ?_
  have hkind : IsPlainKind e.kind := isPlainKind_of_withoutSpans [] he
  refine .ite_neg (by simp [isArrow_of_isPlainKind hkind]) ?_
  have htypes : Reads ⟨v, answer v (depth + 1)⟩ (withOperandTypeArgs start e)
      (.symbol s' :: later) (.symbol s' :: later) (· = e) :=
    (operandTypeArgs_of_mark hs').bind_eq (.pure rfl)
  exact htypes.bind_eq (hchain e he)

variable (head : Head) {links : List Link}
  (hargs : ∀ args, .call args ∈ links → ∀ a ∈ args, ∀ d, depth < d →
    ReadsExpr ⟨v, answer v d⟩ (ask .assignment) a)

include hargs

/-- **Operands.** A plain expression is read as an operand with all that is chained to it. -/
theorem reads_leftHandSide :
    ReadsExpr ⟨v, answer v (depth + 2)⟩ leftHandSide (.of head links) := by
  intro s hs ts
  rw [tokens_pieces, List.cons_append]
  refine Reads.here.bind fun start _ ↦ ?_
  refine Reads.not_eat (head.is_eq_false (by decide)) ?_
  refine Reads.not_eat (head.is_eq_false (by decide)) ?_
  obtain ⟨members, later, rfl, hmembers, hlater⟩ := exists_members links
  obtain rfl | ⟨args, more, rfl⟩ := hlater
  · have hread : Reads ⟨v, answer v (depth + 1)⟩ memberOrNew _ _ _ :=
      reads_memberOrNew head hmembers (List.mem_cons_of_mem "(" hs) ts
    rw [List.append_nil]
    refine (Reads.ask hread).bind fun e he ↦ ?_
    have hkind := isPlainKind_of_withoutSpans _ he
    refine .ite_neg (by simp [isArrow_of_isPlainKind hkind]) ?_
    refine .not_seesAny (all_is_eq_false hs (by decide)) (.pure_bind ?_)
    refine .ite_neg (by simp [isBareNew_of_isPlainKind hkind]) ?_
    exact .not_sees (is_eq_false hs (by decide)) (.ite_neg (by simp) (.pure he))
  · have hmark : s ∈ marks := by revert s; decide
    have htokens : tokens (linkPieces (members ++ .call args :: more)) ++ .symbol s :: ts =
        tokens (linkPieces members) ++ .symbol "(" :: (tokens (listed (argPieces args)) ++
          .symbol ")" :: (tokens (linkPieces more) ++ .symbol s :: ts)) := by
      simp [linkPieces_eq_flatMap, tokens_call]
    have hread : Reads ⟨v, answer v (depth + 1)⟩ memberOrNew _ _ _ :=
      reads_memberOrNew head hmembers (List.mem_cons_self (a := "("))
        (tokens (listed (argPieces args)) ++ .symbol ")" ::
          (tokens (linkPieces more) ++ .symbol s :: ts))
    rw [htokens]
    refine (Reads.ask hread).bind fun e he ↦ ?_
    have hkind := isPlainKind_of_withoutSpans _ he
    refine .ite_neg (by simp [isArrow_of_isPlainKind hkind]) ?_
    refine .not_seesAny (by decide) (.pure_bind ?_)
    refine .ite_neg (by simp [isBareNew_of_isPlainKind hkind]) ?_
    refine (Reads.sees "(").bind_eq (.ite_pos rfl ?_)
    have hcall := reads_callOf (isOptional_of_isPlainKind hkind)
      (reads_arguments (fun a ha ↦ hargs args (by simp) a ha (depth + 2) (by omega))
        (tokens (linkPieces more) ++ .symbol s :: ts))
    refine hcall.bind fun n hn ↦ .ask ?_
    have hkind' : IsPlainKind n.kind := by
      rw [← Node.kind_withoutSpans, hn]
      trivial
    have hmore (args' : List Expr) (hmem : .call args' ∈ more) : (false = false) ∧
        ∀ a ∈ args', ReadsExpr ⟨v, answer v (depth + 1)⟩ (ask .assignment) a :=
      ⟨rfl, fun a ha ↦ hargs args' (List.mem_append_right _ (List.mem_cons_of_mem _ hmem)) a ha
        (depth + 1) (by omega)⟩
    have hrest := reads_subscripts hmore hmark (by rintro rfl; revert hs; decide)
      (by rintro rfl; revert hs; decide) hkind' ts
    rw [Expr.node, linkNode_append, linkNode, Link.nodeOn, ← he, ← hn]
    exact hrest

/-- No operator stands in front of a plain expression or behind it. -/
theorem reads_unary : ReadsExpr ⟨v, answer v (depth + 3)⟩ unary (.of head links) := by
  intro s hs ts
  have hoperand := reads_leftHandSide head hargs s hs ts
  rw [tokens_pieces, List.cons_append] at hoperand ⊢
  refine Reads.here.bind fun start _ ↦ ?_
  refine Reads.not_eat (head.is_eq_false (by decide)) ?_
  refine .not_seesAny (head.all_is_eq_false (by decide)) ?_
  refine .not_seesAny (head.all_is_eq_false (by decide)) ?_
  refine Reads.not_eat (head.is_eq_false (by decide)) ?_
  refine (Reads.ask hoperand).bind fun e he ↦ ?_
  refine Reads.afterLineBreak.bind fun isAfter _ ↦ .ite (fun _ ↦ .pure he) fun _ ↦ ?_
  exact .not_seesAny (all_is_eq_false hs (by decide)) (.pure he)

omit hargs in
/-- No operator stands between an expression and what follows it. -/
theorem reads_binary {g : Grammar} (e : Node) {s : String} (hs : s ∈ ends) (ts : List Token) :
    Reads g (Parse.binary e 0) (.symbol s :: ts) (.symbol s :: ts) (· = e) := by
  have hassertion : Reads g (typeAssertion? e 0) (.symbol s :: ts) (.symbol s :: ts) (· = none) :=
    Reads.afterLineBreak.bind fun isAfter _ ↦ .ite (fun _ ↦ .pure rfl) fun _ ↦
      .not_sees (is_eq_false hs (by decide)) (.not_sees (is_eq_false hs (by decide)) (.pure rfl))
  have hoperators : ∀ s ∈ ends, operator? (.symbol s) true = none := by decide
  have hoperation : Reads g (operation? e 0) (.symbol s :: ts) (.symbol s :: ts) (· = none) := by
    refine (Reads.look (not_faulty_symbol s)).bind_eq ?_
    rw [Option.bind_some, hoperators s hs]
    exact .pure rfl
  refine Reads.fuel.bind fun n hn ↦ ?_
  obtain ⟨n, rfl⟩ := Nat.exists_eq_succ_of_ne_zero (Nat.ne_zero_of_lt hn)
  refine Reads.repeatStep_done (hassertion.bind_eq (hoperation.bind_eq ?_)) n
  exact .pure ⟨rfl, rfl⟩

theorem reads_operation :
    ReadsExpr ⟨v, answer v (depth + 4)⟩ operation (.of head links) := by
  intro s hs ts
  refine (Reads.tryCatch (.ask (reads_unary head hargs s hs ts))).bind fun e he ↦ ?_
  have hkind : IsPlainKind e.kind := isPlainKind_of_withoutSpans _ he
  refine .ite_neg (by simp [isArrow_of_isPlainKind hkind]) ?_
  exact (reads_binary e hs ts).mono fun _ h ↦ h ▸ he

theorem reads_conditional :
    ReadsExpr ⟨v, answer v (depth + 4)⟩ conditional (.of head links) := by
  intro s hs ts
  refine Reads.here.bind fun start _ ↦ (reads_operation head hargs s hs ts).bind fun e he ↦ ?_
  have hkind : IsPlainKind e.kind := isPlainKind_of_withoutSpans _ he
  refine .ite_neg (by simp [isArrow_of_isPlainKind hkind]) ?_
  exact Reads.not_eat (is_eq_false hs (by decide)) (.pure he)

/-- **Expressions.** A plain expression is read as what it is, if all its arguments are. -/
theorem reads_assignment_of_arguments :
    ReadsExpr ⟨v, answer v (depth + 4)⟩ assignment (.of head links) := by
  intro s hs ts
  have hconditional := reads_conditional head hargs s hs ts
  rw [tokens_pieces, List.cons_append] at hconditional ⊢
  refine Reads.here.bind fun start _ ↦ .not_sees (head.is_eq_false (by decide)) ?_
  refine Reads.mode.bind fun m _ ↦ .unseen (head.is_eq_false (by decide)) (.ite_neg (by simp) ?_)
  refine (Reads.need head.not_faulty).bind_eq ?_
  have hmark (place : Option Nat) (ts : List Token) : Reads ⟨v, answer v (depth + 4)⟩
      (mayBeginArrow place) ts ts fun _ ↦ True :=
    .of_untouched fun s ↦ ⟨(), { s with arrowStart := place }, rfl, rfl, rfl, rfl⟩
  have hrest : Reads ⟨v, answer v (depth + 4)⟩ (do
      let e ← conditional
      if endsAssignment e then return e else assignmentRest start e)
      (head.token :: (tokens (linkPieces links) ++ .symbol s :: ts)) (.symbol s :: ts)
      (Node.withoutSpans · = (Expr.of head links).node) := by
    refine hconditional.bind fun e he ↦ ?_
    have hkind : IsPlainKind e.kind := isPlainKind_of_withoutSpans _ he
    refine .ite_neg (by simp [endsAssignment_of_isPlainKind hkind]) ?_
    have hends : ∀ s ∈ ends, (!assignOperators.contains s) = true := by decide
    exact (Reads.look (not_faulty_symbol s)).bind_eq (.ite_pos (hends s hs) (.pure he))
  cases head with
  | name n => exact (hmark _ _).bind fun _ _ ↦ hrest
  | string s => exact (hmark _ _).bind fun _ _ ↦ hrest

omit hargs in
/-- **Expressions.** A plain expression is read as what it is. -/
theorem reads_assignment (e : Expr) (h : 5 * (tokens e.pieces).length ≤ depth) :
    ReadsExpr ⟨v, answer v depth⟩ (ask .assignment) e := by
  induction e using Expr.induct generalizing depth with
  | of head links ih =>
    have hlength (args : List Expr) (hmem : .call args ∈ links) (a : Expr) (ha : a ∈ args) :
        (tokens a.pieces).length + 3 ≤ (tokens (Expr.of head links).pieces).length := by
      obtain ⟨first, last, rfl⟩ := List.append_of_mem hmem
      have hle := length_tokens_le (argPieces_eq_map args ▸ List.mem_map_of_mem ha)
      simp only [tokens_pieces, linkPieces_eq_flatMap, List.flatMap_append, List.flatMap_cons,
        tokens_append, tokens_call, List.length_append, List.length_cons]
      omega
    have hpos : 0 < (tokens (Expr.of head links).pieces).length := by
      rw [tokens_pieces]
      exact Nat.succ_pos _
    obtain ⟨d, rfl⟩ : ∃ d, depth = d + 5 := ⟨depth - 5, by omega⟩
    have hargs (args : List Expr) (hmem : .call args ∈ links) (a : Expr) (ha : a ∈ args) (d' : Nat)
        (hd : d < d') : ReadsExpr ⟨v, answer v d'⟩ (ask .assignment) a :=
      ih args hmem a ha (by have := hlength args hmem a ha; omega)
    exact fun s hs ts ↦ .ask (reads_assignment_of_arguments head hargs s hs ts)

end Expressions

end PageRoutes.Syntax.Plain
