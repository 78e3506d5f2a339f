import PageRoutes.Syntax.Node
/-!
# The scope of a module

The items of a module give names to values in the scope of the whole module. They do so by imports,
by declarations at the top, exported or not, and by declarations with `var` in the statements inside
a statement, such as the body or the head of a loop; a block does not keep such a name to itself.
What is declared inside functions, classes and namespaces stays there.

Interfaces and type aliases give no name to a value.

## Main definitions

* `Node.patternNames` : the names that a pattern binds.
* `Node.varNames` : the names that a statement declares with `var`.
* `Binding`, `Node.bindings` : the names that an item binds in its module, with the forms in which
  they are bound.
-/

namespace PageRoutes.Syntax

/-- How a name is bound in the scope of a module. -/
inductive Form where
  /-- By a specifier of an import, for a default, a namespace or something named. -/
  | specifier
  /-- By an import with an equals sign. -/
  | importEquals
  /-- As all that a declarator of a variable declares. -/
  | variable
  /-- Inside the pattern of a declarator. -/
  | pattern
  /-- By a declaration with `using`. -/
  | resource
  | function
  | class_
  | enum
  | namespace_
  /-- As the name of a function or class that is the default export. -/
  | defaultExport
  /-- By `var` inside a statement. -/
  | hoisted
  deriving DecidableEq, Repr

/-- A name in the scope of a module. -/
structure Binding where
  form : Form
  name : Node

namespace Node

mutual

/-- The names that a pattern binds. A default value or the key of a property binds none. -/
def patternNames : Node → List Node
  | .mk .bindingName _ (name :: _) => [name]
  | .mk (.arrayPattern _) _ (elements :: _) => patternNames elements
  | .mk (.objectPattern _) _ (properties :: _) => patternNames properties
  | .mk .group _ parts => patternNamesOf parts
  | .mk .restPattern _ (pattern :: _) => patternNames pattern
  | .mk .assignPattern _ (pattern :: _) => patternNames pattern
  | .mk .keyValuePattern _ [_, pattern] => patternNames pattern
  | .mk .shorthandPattern _ (name :: _) => [name]
  | _ => []

/-- The names that the parts of a pattern bind. -/
def patternNamesOf : List Node → List Node
  | [] => []
  | n :: rest => patternNames n ++ patternNamesOf rest

end

/-- The pattern of a declarator. -/
def declared? : Node → Option Node
  | .mk .declarator _ (pattern :: _) => some pattern
  | _ => none

/-- The names that declarators bind. -/
def declaredNames (declarators : List Node) : List Node :=
  (declarators.filterMap declared?).flatMap patternNames

/-- Whether nodes of a kind are statements with statements inside them, or parts of such. -/
def isCompound : Kind → Bool
  | .block | .labeledStmt | .ifStmt | .switchStmt | .switchCase | .tryStmt | .catchClause
  | .whileStmt | .withStmt | .doWhileStmt | .forStmt | .forInStmt | .forOfStmt _ | .group => true
  | _ => false

mutual

/-- The names that a statement declares with `var`, itself or in the statements inside it. -/
def varNames : Node → List Node
  | .mk (.varDecl .var _) _ declarators => declaredNames declarators
  | .mk kind _ parts => if isCompound kind then varNamesOf parts else []

/-- The names that are declared with `var` in parts of a statement. -/
def varNamesOf : List Node → List Node
  | [] => []
  | n :: rest => varNames n ++ varNamesOf rest

end

/-- What a declarator of a variable binds. -/
def declaratorBindings : Node → List Binding
  | .mk .declarator _ (.mk .bindingName _ (name :: _) :: _) => [⟨.variable, name⟩]
  | .mk .declarator _ (pattern :: _) => (patternNames pattern).map fun name ↦ ⟨.pattern, name⟩
  | _ => []

/-- What a statement at the top of a module binds. -/
def statementBindings : Node → List Binding
  | .mk (.varDecl _ _) _ declarators => declarators.flatMap declaratorBindings
  | .mk (.usingDecl _) _ declarators =>
    (declaredNames declarators).map fun name ↦ ⟨.resource, name⟩
  | .mk (.fnDecl _) _ (name :: _) => [⟨.function, name⟩]
  | .mk (.classDecl _) _ (name :: _) => [⟨.class_, name⟩]
  | .mk (.enumDecl _ _) _ (name :: _) => [⟨.enum, name⟩]
  | .mk (.moduleDecl _ false) _ (name :: _) => [⟨.namespace_, name⟩]
  | n => (varNames n).map fun name ↦ ⟨.hoisted, name⟩

/-- What an item binds in the scope of its module. The local name of a specifier is its last part.
-/
def bindings : Node → List Binding
  | .mk (.importDecl _) _ (.mk .group _ specifiers :: _) =>
    (specifiers.filterMap fun s ↦ s.children.getLast?).map fun name ↦ ⟨.specifier, name⟩
  | .mk (.importEquals _ _) _ (name :: _) => [⟨.importEquals, name⟩]
  | .mk .exportDecl _ [declaration] => statementBindings declaration
  | .mk .exportDefaultDecl _ [.mk .fnExpr _ (name :: _)] => [⟨.defaultExport, name⟩]
  | .mk .exportDefaultDecl _ [.mk .classExpr _ (name :: _)] => [⟨.defaultExport, name⟩]
  | n => statementBindings n

/-! ### Names by kinds and parts -/

theorem patternNamesOf_eq_flatMap (parts : List Node) :
    patternNamesOf parts = parts.flatMap patternNames := by
  induction parts with
  | nil => rfl
  | cons n rest ih => rw [patternNamesOf, ih, List.flatMap_cons]

theorem varNamesOf_eq_flatMap (parts : List Node) : varNamesOf parts = parts.flatMap varNames := by
  induction parts with
  | nil => rfl
  | cons n rest ih => rw [varNamesOf, ih, List.flatMap_cons]

/-- The names of a pattern, by its kind and its parts. -/
theorem patternNames_eq (n : Node) :
    patternNames n =
      match n.kind with
      | .bindingName | .shorthandPattern => n.children.take 1
      | .arrayPattern _ | .objectPattern _ | .restPattern | .assignPattern =>
        (n.children.take 1).flatMap patternNames
      | .group => n.children.flatMap patternNames
      | .keyValuePattern => match n.children with
        | [_, pattern] => patternNames pattern
        | _ => []
      | _ => [] := by
  obtain ⟨k, span, parts⟩ := n
  rw [patternNames.eq_def]
  split
  case h_9 hname harray hobject hgroup hrest hassign hkey hshort =>
    -- No kind fits, or the kind has too few parts.
    simp only [kind, children]
    cases parts with
    | nil =>
      split
      case h_7 => exact (hgroup _ _ rfl).elim
      all_goals rfl
    | cons first rest =>
      split
      case h_8 =>
        split
        · next heq =>
          cases heq
          exact (hkey _ _ _ rfl).elim
        · rfl
      all_goals grind
  all_goals
    rename_i heq
    cases heq
    simp [kind, children, patternNamesOf_eq_flatMap]

theorem declared?_eq (n : Node) :
    declared? n = match n.kind with
      | .declarator => n.children.head?
      | _ => none := by
  obtain ⟨k, span, parts⟩ := n
  unfold declared?
  cases parts <;> grind [kind, children]

/-- The names that a statement declares with `var`, by its kind and its parts. -/
theorem varNames_eq (n : Node) :
    varNames n = match n.kind with
      | .varDecl .var _ => declaredNames n.children
      | k => if isCompound k then n.children.flatMap varNames else [] := by
  obtain ⟨k, span, parts⟩ := n
  rw [varNames.eq_def]
  grind [kind, children, varNamesOf_eq_flatMap]

theorem declaratorBindings_names (n : Node) :
    (declaratorBindings n).map Binding.name = (declared? n).toList.flatMap patternNames := by
  fun_cases declaratorBindings n with
  | case1 => simp [declared?, patternNames]
  | case2 => simp [declared?, Function.comp_def]
  | case3 hname hother =>
    have hnone : declared? n = none := by
      unfold declared?
      grind
    simp [hnone]

/-- The names that a statement binds at the top of a module, by its kind and its parts. -/
theorem statementBindings_names (n : Node) :
    (statementBindings n).map Binding.name =
      match n.kind with
      | .varDecl _ _ | .usingDecl _ => declaredNames n.children
      | .fnDecl _ | .classDecl _ | .enumDecl _ _ | .moduleDecl _ false => n.children.take 1
      | _ => varNames n := by
  fun_cases statementBindings n with
  | case1 keyword isDeclare span declarators =>
    simp only [kind, children, List.map_flatMap, declaratorBindings_names, declaredNames]
    induction declarators with
    | nil => rfl
    | cons d rest ih =>
      rw [List.flatMap_cons, ih]
      cases hd : declared? d <;> simp [hd]
  | case2 => simp [kind, children, Function.comp_def]
  | case3 | case4 | case5 | case6 => simp [kind, children]
  | case7 _ hvar husing hfunction hclass henum hmodule =>
    obtain ⟨k, span, parts⟩ := n
    simp only [List.map_map, Function.comp_def, List.map_id', kind, children]
    -- A declaration without a name binds nothing.
    cases parts with
    | nil =>
      split
      case h_1 => exact (hvar _ _ _ _ rfl).elim
      case h_2 => exact (husing _ _ _ rfl).elim
      case h_7 => rfl
      all_goals exact varNames_eq _
    | cons name rest =>
      split
      · exact (hvar _ _ _ _ rfl).elim
      · exact (husing _ _ _ rfl).elim
      · exact (hfunction _ _ _ _ rfl).elim
      · exact (hclass _ _ _ _ rfl).elim
      · exact (henum _ _ _ _ _ rfl).elim
      · exact (hmodule _ _ _ _ rfl).elim
      · rfl

/-- The names that an item other than an import binds, by its kind and its parts. -/
theorem bindings_names {n : Node} (hitem : ∀ isType, n.kind ≠ .importDecl isType) :
    n.bindings.map Binding.name =
      match n.kind with
      | .importEquals _ _ => n.children.take 1
      | .exportDecl => match n.children with
        | [declaration] => (statementBindings declaration).map Binding.name
        | _ => []
      | .exportDefaultDecl => match n.children with
        | [declaration] => match declaration.kind with
          | .fnExpr | .classExpr => declaration.children.take 1
          | _ => []
        | _ => []
      | _ => (statementBindings n).map Binding.name := by
  fun_cases bindings n with
  | case1 => exact absurd rfl (hitem _)
  | case2 | case3 | case4 | case5 => simp [kind, children]
  | case6 _ himport hequals hexport hfunction hclass =>
    obtain ⟨k, span, parts⟩ := n
    have hnone (h : k = .exportDecl ∨ k = .exportDefaultDecl ∨ ∃ a b, k = .importEquals a b) :
        (statementBindings (.mk k span parts)).map Binding.name = [] := by
      rw [statementBindings_names]
      rcases h with rfl | rfl | ⟨_, _, rfl⟩ <;> exact varNames_eq _
    simp only [kind, children]
    split
    case h_4 => rfl
    · rw [hnone (by simp)]
      cases parts with
      | nil => rfl
      | cons name rest => exact (hequals _ _ _ _ _ rfl).elim
    · rw [hnone (by simp)]
      split
      · exact (hexport _ _ rfl).elim
      · rfl
    · rw [hnone (by simp)]
      split
      · next declaration =>
        obtain ⟨k, span, parts⟩ := declaration
        cases parts with
        | nil => split <;> rfl
        | cons name rest =>
          dsimp only [kind]
          split
          · exact (hfunction _ _ _ _ rfl).elim
          · exact (hclass _ _ _ _ rfl).elim
          · rfl
      · rfl

end Node

end PageRoutes.Syntax
