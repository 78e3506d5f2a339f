import Mathlib.Data.List.Chain
import PageRoutes.Proofs.Syntax.Spans
import PageRoutes.Proofs.Syntax.Tokens
import PageRoutes.Syntax.Parser
/-!
# Plain programs

Many entry files only import things, name the values of calls, and call. These are the plain
programs. Expressions in them are names and strings with members and calls behind them, and the
arguments of the calls are such expressions again.

A plain program has a tree, and a text in which its words, strings and symbols stand in a fixed
layout. The layout sees to it that no two of them run into each other, so the text is read as its
tokens. That is so whatever blanks and comments stand between them besides.

## Main definitions

* `Plain.Expr`, `Plain.Item` : plain expressions, and the items of plain programs.
* `Plain.Piece` : pieces of a text.
* `Plain.Adorned` : pieces with more blanks and comments between them.
* `Plain.programPieces`, `Plain.programNode` : the text and the tree of a program.

## Main results

* `Plain.tokenizes_text` : a text whose pieces fit is read as their tokens.
* `Plain.tokenizes_program` : the text of a program is read as the tokens of its items.
-/

namespace PageRoutes.Syntax.Plain

/-! ### Words and strings -/

/-- A word of any kind. -/
structure Word where
  text : String
  isWord : Lexer.IsWord text.toList

/-- Words that can stand for something and that have no other meaning where a statement or the name
of an import begins. -/
def IsName (w : String) : Prop :=
  Lexer.IsWord w.toList ∧ isReserved w = false ∧
    w ∉ Parse.strictWords ++ ["async", "using", "arguments", "eval", "type"]

instance (w : String) : Decidable (IsName w) := inferInstanceAs (Decidable (_ ∧ _ ∧ _))

/-- A word that stands for something. -/
structure Name where
  text : String
  isName : IsName text

/-- A string without escapes, with the quote around it. -/
structure Quoted where
  quote : Char
  chars : List Char
  isQuote : quote = '\x22' ∨ quote = '\x27'
  isPlain : ∀ c ∈ chars, Lexer.IsPlainIn quote c

/-- A name, as a word. -/
def Name.word (n : Name) : Word := ⟨n.text, n.isName.1⟩

/-- A word where it is a name of something, or of a property. -/
def Word.node (w : Word) : Node := .mk (.name w.text false) .none []

/-- What a string stands for. -/
def Quoted.value (s : Quoted) : String := String.ofList s.chars

/-- A text between single quotes. -/
def Quoted.single (text : String) (h : ∀ c ∈ text.toList, Lexer.IsPlainIn '\x27' c) : Quoted :=
  ⟨'\x27', text.toList, .inr rfl, h⟩

/-- A string as it is written. -/
def Quoted.raw (s : Quoted) : String := String.ofList (s.quote :: s.chars ++ [s.quote])

/-! ### Pieces of a text -/

/-- The symbols of plain programs. -/
def symbols : List String := ["\x7b", "\x7d", "(", ")", ",", ";", ".", "*", "="]

/-- A piece of a text: a token, or a blank or comment between tokens. -/
inductive Piece where
  | word (w : Word)
  | string (s : Quoted)
  | symbol (s : String) (isSymbol : s ∈ symbols := by decide)
  | space
  | line
  | comment (c : Comment)

namespace Piece

/-- A piece as it is written. -/
def text : Piece → List Char
  | word w => w.text.toList
  | string s => s.quote :: s.chars ++ [s.quote]
  | symbol s _ => s.toList
  | space => [' ']
  | line => ['\n']
  | comment c => Lexer.spelled c

/-- The token of a piece, if it is no blank and no comment. -/
def token? : Piece → Option Token
  | word w => some (.word w.text)
  | string s => some (.string s.value s.raw)
  | symbol s _ => some (.symbol s)
  | space => none
  | line => none
  | comment _ => none

/-- The comment that a piece is. -/
def comment? : Piece → Option Comment
  | comment c => some c
  | _ => none

/-- Whether a piece can stand behind another one without running into it. -/
def Fits : Piece → Piece → Prop
  | word _, word _ => False
  | symbol s _, b => s ∈ [".", "*", "="] → b.token? = none ∨ ∃ w, b = word w
  | _, _ => True

end Piece

/-- The text of pieces. -/
def text (pieces : List Piece) : List Char := pieces.flatMap Piece.text

/-- The tokens of pieces. -/
def tokens (pieces : List Piece) : List Token := pieces.filterMap Piece.token?

/-- The comments among pieces. -/
def comments (pieces : List Piece) : List Comment := pieces.filterMap Piece.comment?

@[simp] theorem text_nil : text [] = [] := rfl

@[simp] theorem text_cons (p : Piece) (pieces : List Piece) :
    text (p :: pieces) = p.text ++ text pieces := List.flatMap_cons

@[simp] theorem text_append (a b : List Piece) : text (a ++ b) = text a ++ text b :=
  List.flatMap_append

@[simp] theorem tokens_append (a b : List Piece) : tokens (a ++ b) = tokens a ++ tokens b :=
  List.filterMap_append

@[simp] theorem comments_append (a b : List Piece) : comments (a ++ b) = comments a ++ comments b :=
  List.filterMap_append

section Tokens

variable (pieces : List Piece)

@[simp] theorem tokens_nil : tokens [] = [] := rfl

@[simp] theorem tokens_word (w : Word) :
    tokens (.word w :: pieces) = .word w.text :: tokens pieces := rfl

@[simp] theorem tokens_string (s : Quoted) :
    tokens (.string s :: pieces) = .string s.value s.raw :: tokens pieces := rfl

@[simp] theorem tokens_symbol (s : String) (hs : s ∈ symbols) :
    tokens (.symbol s hs :: pieces) = .symbol s :: tokens pieces := rfl

@[simp] theorem tokens_space : tokens (.space :: pieces) = tokens pieces := rfl

@[simp] theorem tokens_line : tokens (.line :: pieces) = tokens pieces := rfl

end Tokens

/-- A piece that is no word ends a word in front of it. -/
theorem Piece.endsWord {p : Piece} (h : ∀ w, p ≠ word w) (rest : List Char) :
    Lexer.EndsWord (p.text ++ rest) := by
  cases p with
  | word w => exact absurd rfl (h w)
  | string s =>
    rintro c (hc : some s.quote = some c)
    cases hc
    rcases s.isQuote with h | h <;> rw [h] <;> decide
  | symbol s hs =>
    have hall : ∀ s ∈ symbols, s.toList.head?.any fun c ↦
        IdentifierChar.isContinue c = false ∧ c ≠ '\\' := by
      decide
    obtain ⟨c, hc, hend⟩ := (Option.any_eq_true _ _).mp (hall s hs)
    obtain ⟨tail, htail⟩ := List.head?_eq_some_iff.mp hc
    rintro d (hd : (s.toList ++ rest).head? = some d)
    rw [htail] at hd
    cases hd
    exact of_decide_eq_true hend
  | space =>
    rintro c (hc : some ' ' = some c)
    cases hc
    decide
  | line =>
    rintro c (hc : some '\n' = some c)
    cases hc
    decide
  | comment c =>
    intro d hd
    rw [text, Lexer.head?_spelled] at hd
    cases hd
    decide

/-- A piece that is no token begins with a blank or a slash. -/
theorem Piece.head?_of_token?_eq_none {p : Piece} (h : p.token? = none) (rest : List Char) :
    ∀ c ∈ (p.text ++ rest).head?, c ∈ [' ', '\n', '/'] := by
  intro c hc
  cases p with
  | word => cases h
  | string => cases h
  | symbol => cases h
  | space => cases hc; decide
  | line => cases hc; decide
  | comment c =>
    rw [text, Lexer.head?_spelled] at hc
    cases hc
    decide

/-- What is no token fits in front of everything -/
theorem Piece.fits_of_token?_eq_none {p : Piece} (h : p.token? = none) (q : Piece) : Fits p q := by
  cases p with
  | space | line | comment => trivial
  | _ => cases h

/-- and behind everything. -/
theorem Piece.fits_none {q : Piece} (h : q.token? = none) (p : Piece) : Fits p q := by
  cases p with
  | word w =>
    cases q with
    | word => cases h
    | _ => trivial
  | symbol s hs => exact fun _ ↦ .inl h
  | _ => trivial

/-- A symbol ends in front of the pieces that fit behind it. -/
theorem Piece.spells_symbol {s : String} (hs : s ∈ symbols) {pieces : List Piece}
    (hfits : ∀ p ∈ pieces.head?, Fits (symbol s hs) p) :
    Lexer.Spells (.symbol s) s.toList (Plain.text pieces) := by
  have hall : ∀ s ∈ symbols, s.toList.head?.any fun c ↦ s.toList = [c] ∧
      (c ∈ ['{', '}', '(', ')', ',', ';'] ∨ s ∈ [".", "*", "="] ∧ c ∈ ['.', '*', '=']) := by
    decide
  obtain ⟨c, -, hfound⟩ := (Option.any_eq_true _ _).mp (hall s hs)
  obtain ⟨hc, hsymbol⟩ := of_decide_eq_true hfound
  rw [hc]
  refine .symbol hc (hsymbol.imp_right fun ⟨hs', hc'⟩ ↦ ⟨hc', fun d hd ↦ ?_⟩)
  cases pieces with
  | nil => cases hd
  | cons p pieces =>
    rw [text_cons] at hd
    obtain hnone | ⟨w, rfl⟩ := (hfits p rfl : _ → _) hs'
    · exact .inl (Piece.head?_of_token?_eq_none hnone _ d hd)
    · obtain ⟨c, hc, hstart⟩ := w.isWord.1
      obtain ⟨tail, htail⟩ := List.head?_eq_some_iff.mp hc
      rw [Piece.text, htail] at hd
      exact .inr (Option.some.inj hd ▸ hstart)

/-- **The tokens of a text.** A text is read as the tokens of its pieces, if they fit, and as its
comments. -/
theorem tokenizes_text {pieces : List Piece} (h : pieces.IsChain Piece.Fits) :
    Lexer.Tokenizes (text pieces) (tokens pieces) (comments pieces) := by
  induction pieces with
  | nil => exact .nil (.blanks (List.forall_mem_nil _))
  | cons p pieces ih =>
    obtain ⟨hfits, htail⟩ := List.isChain_cons.mp h
    have hrest := ih htail
    rw [text_cons]
    cases p with
    | word w =>
      have hend : Lexer.EndsWord (text pieces) := by
        cases pieces with
        | nil => simp [Lexer.EndsWord]
        | cons p pieces => exact p.endsWord (by rintro w rfl; exact hfits _ rfl) _
      have hspells := Lexer.Spells.word w.isWord hend
      rw [String.ofList_toList] at hspells
      exact .spelled hspells hrest
    | string s => exact .spelled (.string s.isQuote s.isPlain) hrest
    | symbol s hs => exact .spelled (Piece.spells_symbol hs hfits) hrest
    | space => exact hrest.blank (by decide)
    | line => exact hrest.blank (by decide)
    | comment c => exact hrest.comment c

/-! ### More blanks and comments -/

/-- Pieces with more blanks and comments between them. -/
inductive Adorned : List Piece → List Piece → Prop
  | nil : Adorned [] []
  | keep {pieces more} (p : Piece) (h : Adorned pieces more) : Adorned (p :: pieces) (p :: more)
  | add {pieces more} {p : Piece} (hp : p.token? = none) (h : Adorned pieces more) :
    Adorned pieces (p :: more)

namespace Adorned

variable {pieces more pieces' more' : List Piece}

theorem refl (pieces : List Piece) : Adorned pieces pieces := by
  induction pieces with
  | nil => exact .nil
  | cons p rest ih => exact .keep p ih

theorem append (h : Adorned pieces more) (h' : Adorned pieces' more') :
    Adorned (pieces ++ pieces') (more ++ more') := by
  induction h with
  | nil => exact h'
  | keep p _ ih => exact .keep p ih
  | add hp _ ih => exact .add hp ih

/-- The tokens stay what they are, -/
theorem tokens_eq (h : Adorned pieces more) : tokens more = tokens pieces := by
  induction h with
  | nil => rfl
  | keep p _ ih =>
    simp only [tokens, List.filterMap_cons]
    cases p.token? with
    | none => exact ih
    | some t => exact congrArg _ ih
  | add hp _ ih => rwa [tokens, List.filterMap_cons_none hp]

/-- and they do not run into each other. -/
theorem isChain (h : Adorned pieces more) (hpieces : pieces.IsChain Piece.Fits) :
    more.IsChain Piece.Fits := by
  induction h with
  | nil => exact .nil
  | @keep pieces more p h ih =>
    obtain ⟨hfits, htail⟩ := List.isChain_cons.mp hpieces
    refine List.isChain_cons.mpr ⟨fun q hq ↦ ?_, ih htail⟩
    cases h with
    | nil => cases hq
    | keep => exact hfits q hq
    | add hnone =>
      cases hq
      exact Piece.fits_none hnone p
  | add hp _ ih =>
    exact List.isChain_cons.mpr ⟨fun q _ ↦ Piece.fits_of_token?_eq_none hp q, ih hpieces⟩

end Adorned

/-! ### Expressions -/

/-- What an expression begins with. -/
inductive Head where
  | name (n : Name)
  | string (s : Quoted)

mutual

/-- An expression: a name or a string with links behind it. -/
inductive Expr where
  | of (head : Head) (links : List Link)

/-- What is linked to the end of an expression. -/
inductive Link where
  | member (name : Word)
  | call (args : List Expr)

end

/-- An induction over expressions in which a call comes after its arguments. -/
theorem Expr.induct {P : Expr → Prop}
    (of : ∀ head links, (∀ args, .call args ∈ links → ∀ a ∈ args, P a) → P (.of head links))
    (e : Expr) : P e :=
  Expr.rec (motive_2 := fun link ↦ ∀ args, .call args = link → ∀ a ∈ args, P a)
    (motive_3 := fun links ↦ ∀ args, .call args ∈ links → ∀ a ∈ args, P a)
    (motive_4 := fun args ↦ ∀ a ∈ args, P a)
    (fun head links ih ↦ of head links ih) (fun _ _ h ↦ nomatch h)
    (fun _ ih _ h ↦ Link.call.inj h ▸ ih) (fun _ h ↦ nomatch h)
    (fun _ _ hlink hrest args hmem ↦ (List.mem_cons.mp hmem).elim (hlink args) (hrest args))
    (fun _ h ↦ nomatch h) (fun _ _ he hrest ↦ List.forall_mem_cons.mpr ⟨he, hrest⟩) e

/-- The parts of a list with commas between them. -/
def listed : List (List Piece) → List Piece
  | [] => []
  | [p] => p
  | p :: q :: rest => p ++ .symbol "," :: .space :: listed (q :: rest)

/-- The piece of the beginning of an expression. -/
def Head.piece : Head → Piece
  | name n => .word n.word
  | string s => .string s

/-- The tree of the beginning of an expression. -/
def Head.node : Head → Node
  | name n => .mk (.ident n.text) .none []
  | string s => .mk (.stringLit s.value s.raw) .none []

mutual

/-- The pieces of an expression. -/
def Expr.pieces : Expr → List Piece
  | .of head links => head.piece :: linkPieces links

/-- The pieces of links. -/
def linkPieces : List Link → List Piece
  | [] => []
  | link :: rest => link.pieces ++ linkPieces rest

/-- The pieces of a link. -/
def Link.pieces : Link → List Piece
  | .member name => [.symbol ".", .word name]
  | .call args => .symbol "(" :: (listed (argPieces args) ++ [.symbol ")"])

/-- The pieces of each argument of a call. -/
def argPieces : List Expr → List (List Piece)
  | [] => []
  | e :: rest => e.pieces :: argPieces rest

end

mutual

/-- The tree of an expression. -/
def Expr.node : Expr → Node
  | .of head links => linkNode head.node links

/-- The tree of links behind an operand. -/
def linkNode (object : Node) : List Link → Node
  | [] => object
  | link :: rest => linkNode (link.nodeOn object) rest

/-- The tree of a link behind an operand. -/
def Link.nodeOn (object : Node) : Link → Node
  | .member name => .mk .member .none [object, name.node]
  | .call args => .mk .call .none [object, .group (argNodes args), .absent]

/-- The trees of arguments. -/
def argNodes : List Expr → List Node
  | [] => []
  | e :: rest => e.node :: argNodes rest

end

theorem linkPieces_eq_flatMap (links : List Link) :
    linkPieces links = links.flatMap Link.pieces := by
  induction links with
  | nil => rfl
  | cons link rest ih => rw [linkPieces, ih, List.flatMap_cons]

theorem argPieces_eq_map (args : List Expr) : argPieces args = args.map Expr.pieces := by
  induction args with
  | nil => rfl
  | cons e rest ih => rw [argPieces, ih, List.map_cons]

theorem argNodes_eq_map (args : List Expr) : argNodes args = args.map Expr.node := by
  induction args with
  | nil => rfl
  | cons e rest ih => rw [argNodes, ih, List.map_cons]

theorem linkNode_append (object : Node) (first last : List Link) :
    linkNode object (first ++ last) = linkNode (linkNode object first) last := by
  induction first generalizing object with
  | nil => rfl
  | cons link rest ih => rw [List.cons_append, linkNode, linkNode, ih]

/-- The kinds of the trees of plain expressions. -/
def IsPlainKind : Kind → Prop
  | .ident _ | .stringLit _ _ | .member | .call => True
  | _ => False

theorem Head.isPlainKind_node (head : Head) : IsPlainKind head.node.kind := by
  cases head <;> trivial

theorem isPlainKind_linkNode {object : Node} (h : IsPlainKind object.kind) (links : List Link) :
    IsPlainKind (linkNode object links).kind := by
  induction links generalizing object with
  | nil => exact h
  | cons link rest ih => cases link <;> exact ih trivial

theorem isPlainKind_of_withoutSpans {n : Node} {head : Head} (links : List Link)
    (h : n.withoutSpans = linkNode head.node links) : IsPlainKind n.kind := by
  rw [← Node.kind_withoutSpans, h]
  exact isPlainKind_linkNode head.isPlainKind_node links

/-! ### Items -/

/-- A name in the braces of an import, with the word that it has in the other module if that is
another one. -/
structure Imported where
  original : Option { w : Word // w.text ≠ "type" }
  name : Name

/-- What an import lists behind the default. -/
inductive Listed where
  | all (name : Name)
  | named (names : List Imported)

/-- An item of a plain program. -/
inductive Item where
  | imports (default : Option Name) (listed : Listed) (source : Quoted)
  | declares (keyword : VarKeyword) (name : Name) (value : Expr)
  | evaluates (e : Expr) (isLong : e.node.identName? = none)

/-- The keywords of variable declarations are words. -/
def keywordWord (keyword : VarKeyword) : Word := ⟨keyword.text, by cases keyword <;> decide⟩

/-- The word `from` and others that belong to an import. -/
def fixedWord (text : String) (isWord : Lexer.IsWord text.toList := by decide) : Word :=
  ⟨text, isWord⟩

/-- The tree of a string. -/
def Quoted.node (s : Quoted) : Node := .mk (.stringLit s.value s.raw) .none []

def Imported.pieces (s : Imported) : List Piece :=
  (match s.original with
    | some w => [.word w.1, .space, .word (fixedWord "as"), .space]
    | none => []) ++ [.word s.name.word]

def Imported.node (s : Imported) : Node :=
  let imported :=
    match s.original with
    | some w => w.1.node
    | none => .absent
  .mk (.importNamed false) .none [imported, s.name.word.node]

/-- What an import lists, in one part or none. -/
def Listed.parts : Listed → List (List Piece)
  | all n => [[.symbol "*", .space, .word (fixedWord "as"), .space, .word n.word]]
  | named [] => []
  | named (n :: rest) =>
    [[.symbol "\x7b", .space] ++ listed ((n :: rest).map Imported.pieces) ++
      [.space, .symbol "\x7d"]]

/-- The trees of what an import lists. -/
def Listed.nodes : Listed → List Node
  | all n => [.mk .importNamespace .none [n.word.node]]
  | named names => names.map Imported.node

/-- The parts of an import that stand between commas: the default, and what is listed. -/
def bindings (default : Option Name) (list : Listed) : List (List Piece) :=
  (default.toList.map fun n ↦ [.word n.word]) ++ list.parts

/-- The trees of what an import binds. -/
def bindingNodes (default : Option Name) (list : Listed) : List Node :=
  (default.toList.map fun n ↦ .mk .importDefault .none [n.word.node]) ++ list.nodes

namespace Item

/-- The pieces of an item, up to its semicolon. -/
def pieces : Item → List Piece
  | imports default list source =>
    [.word (fixedWord "import"), .space] ++
      (if bindings default list = [] then []
        else listed (bindings default list) ++ [.space, .word (fixedWord "from"), .space]) ++
      [.string source, .symbol ";"]
  | declares keyword name value =>
    [.word (keywordWord keyword), .space, .word name.word, .space, .symbol "=", .space] ++
      value.pieces ++ [.symbol ";"]
  | evaluates e _ => e.pieces ++ [.symbol ";"]

/-- The tree of an item. -/
def node : Item → Node
  | imports default list source =>
    .mk (.importDecl false) .none [.group (bindingNodes default list), source.node, .absent]
  | declares keyword name value =>
    .mk (.varDecl keyword false) .none
      [.mk .declarator .none [.mk .bindingName .none [name.word.node, .absent], value.node]]
  | evaluates e _ => .mk .exprStmt .none [e.node]

end Item

/-- The pieces of a program. -/
def programPieces (items : List Item) : List Piece := items.flatMap Item.pieces

/-- The tree of a program. -/
def programNode (items : List Item) : Node := .mk (.module none) .none (items.map Item.node)

/-! ### Pieces that fit -/

/-- Pieces of which the first is no word. -/
def Parted (pieces : List Piece) : Prop := ∀ p ∈ pieces.head?, ∀ w, p ≠ .word w

theorem Parted.append {a b : List Piece} (ha : Parted a) (hb : Parted b) : Parted (a ++ b) := by
  cases a with
  | nil => exact hb
  | cons p a => exact ha

/-- Pieces that can be followed by others without running into them, if these do not begin with a
word. -/
def Closed (pieces : List Piece) : Prop :=
  ∀ later, Parted later → later.IsChain Piece.Fits → (pieces ++ later).IsChain Piece.Fits

/-- Whether a piece is no word and no symbol that can be part of a longer one. -/
def Piece.standsAlone : Piece → Bool
  | word _ => false
  | symbol s _ => s ∉ [".", "*", "="]
  | _ => true

/-- A word fits in front of what does not begin with a word, -/
theorem isChain_word {w : Word} {later : List Piece} (hparted : Parted later)
    (hlater : later.IsChain Piece.Fits) : (.word w :: later).IsChain Piece.Fits := by
  refine List.isChain_cons.mpr ⟨fun p hp ↦ ?_, hlater⟩
  cases p with
  | word w => exact absurd rfl (hparted _ hp w)
  | _ => trivial

/-- and a piece that stands alone fits in front of everything. -/
theorem isChain_cons {p : Piece} {later : List Piece} (hp : p.standsAlone = true)
    (hlater : later.IsChain Piece.Fits) : (p :: later).IsChain Piece.Fits := by
  refine List.isChain_cons.mpr ⟨fun q _ ↦ ?_, hlater⟩
  cases p with
  | word w => cases hp
  | symbol s hs => exact fun hmem ↦ absurd hmem (of_decide_eq_true hp)
  | _ => trivial

@[simp] theorem parted_cons {p : Piece} {later : List Piece} :
    Parted (p :: later) ↔ ∀ w, p ≠ .word w := by
  simp [Parted]

theorem parted_linkPieces (links : List Link) : Parted (linkPieces links) := by
  cases links with
  | nil => simp [Parted, linkPieces]
  | cons link rest => cases link <;> simp [Parted, linkPieces, Link.pieces]

theorem closed_listed {parts : List (List Piece)} (h : ∀ p ∈ parts, Closed p) :
    Closed (listed parts) := by
  induction parts with
  | nil => exact fun later _ hlater ↦ hlater
  | cons p rest ih =>
    obtain ⟨hp, hrest⟩ := List.forall_mem_cons.mp h
    cases rest with
    | nil => exact hp
    | cons q rest =>
      intro later hparted hlater
      rw [listed, List.append_assoc]
      exact hp _ (by simp) (isChain_cons rfl (isChain_cons rfl (ih hrest later hparted hlater)))

theorem closed_linkPieces {links : List Link}
    (h : ∀ args, .call args ∈ links → ∀ a ∈ args, Closed a.pieces) : Closed (linkPieces links) := by
  induction links with
  | nil => exact fun later _ hlater ↦ hlater
  | cons link rest ih =>
    intro later hparted hlater
    have hrest := ih (fun args hmem ↦ h args (List.mem_cons_of_mem _ hmem)) later hparted hlater
    have hparted' := (parted_linkPieces rest).append hparted
    rw [linkPieces, List.append_assoc]
    cases link with
    | member name =>
      exact List.isChain_cons_cons.mpr ⟨fun _ ↦ .inr ⟨name, rfl⟩, isChain_word hparted' hrest⟩
    | call args =>
      have hargs : Closed (listed (argPieces args)) := by
        refine closed_listed ?_
        rw [argPieces_eq_map]
        simpa using h args List.mem_cons_self
      rw [Link.pieces, List.cons_append, List.append_assoc]
      exact isChain_cons rfl (hargs _ (by simp) (isChain_cons rfl hrest))

/-- The pieces of an expression do not run into each other. -/
theorem closed_pieces (e : Expr) : Closed e.pieces := by
  induction e using Expr.induct with
  | of head links ih =>
    intro later hparted hlater
    have hlinks := closed_linkPieces ih later hparted hlater
    rw [Expr.pieces, List.cons_append]
    cases head with
    | name n => exact isChain_word ((parted_linkPieces links).append hparted) hlinks
    | string s => exact isChain_cons rfl hlinks

theorem Imported.closed_pieces (s : Imported) : Closed s.pieces := by
  intro later hparted hlater
  have hlocal := isChain_word (w := s.name.word) hparted hlater
  rw [pieces]
  cases s.original with
  | none => exact hlocal
  | some w =>
    exact isChain_word (by simp) (isChain_cons rfl (isChain_word (by simp)
      (isChain_cons rfl hlocal)))

theorem closed_of_mem_bindings {default : Option Name} {list : Listed} :
    ∀ p ∈ bindings default list, Closed p := by
  have hword (n : Name) : Closed [.word n.word] := fun later ↦ isChain_word
  intro p hp
  rcases List.mem_append.mp hp with hdefault | hlist
  · obtain ⟨n, -, rfl⟩ := List.mem_map.mp hdefault
    exact hword n
  · intro later hparted hlater
    cases list with
    | all n =>
      obtain rfl := List.mem_singleton.mp hlist
      exact List.isChain_cons_cons.mpr ⟨fun _ ↦ .inl rfl,
        isChain_cons rfl (isChain_word (by simp) (isChain_cons rfl (hword n later hparted hlater)))⟩
    | named names =>
      cases names with
      | nil => cases hlist
      | cons first rest =>
        obtain rfl := List.mem_singleton.mp hlist
        have hnames : Closed (listed ((first :: rest).map Imported.pieces)) :=
          closed_listed (by simp [Imported.closed_pieces])
        rw [List.append_assoc, List.append_assoc]
        exact isChain_cons rfl (isChain_cons rfl (hnames _ (by simp)
          (isChain_cons rfl (isChain_cons rfl hlater))))

/-- The pieces of an item do not run into each other nor into the next item. -/
theorem Item.isChain_pieces (item : Item) {later : List Piece} (h : later.IsChain Piece.Fits) :
    (item.pieces ++ later).IsChain Piece.Fits := by
  have hend : (.symbol ";" (by decide) :: later).IsChain Piece.Fits := isChain_cons rfl h
  cases item with
  | imports default list source =>
    have hsource := isChain_cons (p := .string source) rfl hend
    simp only [pieces, List.append_assoc]
    refine isChain_word (by simp) (isChain_cons rfl ?_)
    split
    · exact hsource
    · rw [List.append_assoc]
      exact closed_listed closed_of_mem_bindings _ (by simp)
        (isChain_cons rfl (isChain_word (by simp) (isChain_cons rfl hsource)))
  | declares keyword name value =>
    have hvalue := closed_pieces value _ (by simp) hend
    simp only [pieces, List.append_assoc]
    exact isChain_word (by simp) (isChain_cons rfl (isChain_word (by simp) (isChain_cons rfl
      (List.isChain_cons_cons.mpr ⟨fun _ ↦ .inl rfl, isChain_cons rfl hvalue⟩))))
  | evaluates e isLong =>
    rw [pieces, List.append_assoc]
    exact closed_pieces e _ (by simp) hend

/-- The pieces of a program do not run into each other. -/
theorem isChain_programPieces (items : List Item) :
    (programPieces items).IsChain Piece.Fits := by
  induction items with
  | nil => exact .nil
  | cons item rest ih =>
    rw [programPieces, List.flatMap_cons]
    exact item.isChain_pieces ih

/-- The text of a program is read as the tokens of its items, whatever blanks and comments stand
between them besides. -/
theorem tokenizes_program {items : List Item} {pieces : List Piece}
    (h : Adorned (programPieces items) pieces) :
    Lexer.Tokenizes (text pieces) (tokens (programPieces items)) (comments pieces) := by
  rw [← h.tokens_eq]
  exact tokenizes_text (h.isChain (isChain_programPieces items))

end PageRoutes.Syntax.Plain
