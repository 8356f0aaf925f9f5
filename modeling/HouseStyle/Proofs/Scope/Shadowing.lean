import HouseStyle.Proofs.Declaration.Names
import HouseStyle.Proofs.Syntax.Searches
import HouseStyle.Scope

/-!
# The names that a scope declares

Every kind of scope declares names in its own way.  This module says for each
what its names are, in terms of the children and the subtree of its node, and
shows that a scope brings in a name exactly if it declares it.  A name hides the
members of a type at a site exactly if one of the scopes between the site and
its type declares the name.
-/

namespace HouseStyle
namespace Scope

open Syntax

/-! ## Parameters, patterns and range variables -/

theorem parametersDeclare_iff
    {name : String}
    {list? : Option Node} :
    parametersDeclare name list? = true ↔
      ∃ list, list? = some list ∧ Parameter.IsNamedIn list name := by
  simp only [parametersDeclare, Option.any_eq_true, List.contains_iff_mem,
    Parameter.mem_names_iff]

/-- An identifier names the variable that a pattern introduces.  A pattern without a `name` has
its last named child for one, and a pattern with a single named child introduces nothing. -/
structure Designates (pattern identifier : Node) : Prop where
  /-- The node is a pattern that can introduce a variable. -/
  sort : pattern.kind ∈
    [.declarationExpression, .declarationPattern, .varPattern, .recursivePattern]
  /-- It has more parts than a name. -/
  compound : 2 ≤ pattern.namedChildren.length
  /-- The variable is found by its label or else by its place. -/
  found : pattern.child? .name = some identifier ∨
    pattern.child? .name = none ∧ pattern.namedChildren.getLast? = some identifier
  /-- It is a plain name. -/
  bare : identifier.kind = .identifier

/-- Some pattern at or below a node introduces a variable with a name. -/
def HoldsPattern (scope : Node) (name : String) : Prop :=
  ∃ pattern ∈ scope.subtree, ∃ identifier, Designates pattern identifier ∧ identifier.text = name

/-- Some clause at or below a query brings in a range variable with a name. -/
def HoldsRange (query : Node) (name : String) : Prop :=
  ∃ clause ∈ query.subtree,
    clause.kind ∈ [.fromClause, .letClause, .joinClause, .joinIntoClause, .queryContinuation] ∧
      ∃ identifier, clause.child? .name = some identifier ∧ identifier.text = name

theorem isPattern_iff {kind : Kind} :
    isPattern kind = true ↔
      kind ∈ [.declarationExpression, .declarationPattern, .varPattern, .recursivePattern] := by
  cases kind <;> simp [isPattern]

theorem isRangeClause_iff {kind : Kind} :
    isRangeClause kind = true ↔
      kind ∈ [.fromClause, .letClause, .joinClause, .joinIntoClause, .queryContinuation] := by
  cases kind <;> simp [isRangeClause]

/-- A pattern introduces a name exactly if the identifier that it designates has it as its text. -/
theorem introduces_iff
    {name : String}
    {pattern : Node} :
    introduces name pattern = true ↔
      ∃ identifier, Designates pattern identifier ∧ identifier.text = name := by
  simp only [introduces, designation?, Option.any_eq_true, Bool.and_eq_true, beq_iff_eq]
  constructor
  · rintro ⟨identifier, found, bare, text⟩
    split at found
    · rename_i counts
      simp only [isPattern_iff, decide_eq_true_eq] at counts
      exact ⟨identifier, ⟨counts.1, counts.2, Option.or_eq_some_iff.mp found, bare⟩, text⟩
    · cases found
  · rintro ⟨identifier, ⟨sort, compound, found, bare⟩, text⟩
    refine ⟨identifier, ?_, bare, text⟩
    rw [if_pos ⟨isPattern_iff.mpr sort, decide_eq_true compound⟩]
    exact Option.or_eq_some_iff.mpr found

/-- The search for pattern variables looks at the whole subtree of a scope, nested functions
included. -/
theorem patternsDeclare_iff
    {name : String}
    {scope : Site} :
    patternsDeclare name scope = true ↔ HoldsPattern scope.node name := by
  simp only [patternsDeclare, Site.anyBelow_iff, introduces_iff, HoldsPattern]

/-- A query declares the range variables of all clauses below it, those of nested queries too. -/
theorem queryDeclares_iff
    {name : String}
    {query : Site} :
    queryDeclares name query = true ↔ HoldsRange query.node name := by
  simp only [queryDeclares, Site.anyBelow_iff, ranges, Bool.and_eq_true, isRangeClause_iff,
    Option.any_eq_true, beq_iff_eq, HoldsRange]

/-! ## Variables of statements -/

/-- A statement of a block declares a local variable or is a local function. -/
inductive DeclaresLocal (statement : Node) (name : String) : Prop
  /-- A local declaration declares the variables of its first list of declarators. -/
  | variable
      {list identifier : Node}
      (declaration : statement.kind = .localDeclarationStatement)
      (found : IsFirst statement.namedChildren .variableDeclaration list)
      (names : Declarator.NamesVariable list identifier)
      (text : identifier.text = name)
  /-- A local function declares its own name. -/
  | function
      {identifier : Node}
      (declaration : statement.kind = .localFunctionStatement)
      (named : statement.child? .name = some identifier)
      (text : identifier.text = name)

/-- A statement of a block declares its variables, or the local function that it is. -/
theorem statementDeclares_iff
    {name : String}
    {statement : Node} :
    statementDeclares name statement = true ↔ DeclaresLocal statement name := by
  unfold statementDeclares
  constructor
  · intro declared
    split at declared
    · rename_i declaration
      rw [declarationDeclares, List.contains_iff_mem,
        Declarator.mem_names_iff_of_outer (by simp [declaration])] at declared
      obtain ⟨list, first, identifier, names, text⟩ := declared
      exact .variable declaration first names text
    · rename_i declaration
      simp only [Option.any_eq_true, beq_iff_eq] at declared
      obtain ⟨identifier, named, text⟩ := declared
      exact .function declaration named text
    · cases declared
  · rintro (⟨declaration, first, names, text⟩ | ⟨declaration, named, text⟩)
    · simp only [declaration, declarationDeclares, List.contains_iff_mem]
      rw [Declarator.mem_names_iff_of_outer (by simp [declaration])]
      exact ⟨_, first, _, names, text⟩
    · simp [declaration, named, text]

/-- A header of a statement declares the variables of its lists of declarators. -/
def DeclaresInHeader (statement : Node) (name : String) : Prop :=
  ∃ list ∈ statement.namedChildren, list.kind = .variableDeclaration ∧
    ∃ identifier, Declarator.NamesVariable list identifier ∧ identifier.text = name

theorem headerDeclares_iff
    {name : String}
    {statement : Node} :
    headerDeclares name statement = true ↔ DeclaresInHeader statement name := by
  simp only [headerDeclares, List.any_eq_true, Bool.and_eq_true, beq_iff_eq, DeclaresInHeader]
  refine exists_congr fun list => and_congr_right fun _ => and_congr_right fun isList => ?_
  rw [declarationDeclares, List.contains_iff_mem]
  exact Declarator.mem_names_iff_of_list (by simp [Declarator.list?, isList])

/-! ## Variables of loops -/

/-- An identifier is met first on a way down through named nodes. -/
inductive LeadsTo : Node → Node → Prop
  | here
      {identifier : Node}
      (bare : identifier.kind = .identifier) :
      LeadsTo identifier identifier
  | through
      {node child identifier : Node}
      (compound : node.kind ≠ .identifier)
      (present : child ∈ node.namedChildren)
      (leads : LeadsTo child identifier) :
      LeadsTo node identifier

theorem mentionsAny_eq_any
    (name : String)
    (nodes : List Node) :
    mentionsAny name nodes = (nodes.filter Node.isNamed).any (mentions name) := by
  induction nodes with
  | nil => rfl
  | cons node rest inductionHypothesis =>
      rw [mentionsAny, inductionHypothesis]
      cases named : node.isNamed <;> simp [named]

/-- The search for a name in the variables of a loop stops at identifiers and goes through all
other named nodes. -/
theorem mentions_eq (name : String) (node : Node) :
    mentions name node =
      if node.kind = .identifier then node.text == name
      else node.namedChildren.any (mentions name) := by
  obtain ⟨label, children⟩ := node
  rw [mentions, mentionsAny_eq_any]
  rfl

/-- A name is mentioned exactly if named nodes lead to an identifier with it. -/
theorem mentions_iff
    {name : String}
    (node : Node) :
    mentions name node = true ↔
      ∃ identifier, LeadsTo node identifier ∧ identifier.text = name := by
  have children : ∀ child ∈ node.namedChildren, mentions name child = true ↔
      ∃ identifier, LeadsTo child identifier ∧ identifier.text = name :=
    fun child present => mentions_iff child
  rw [mentions_eq]
  constructor
  · intro mentioned
    split at mentioned
    · rename_i bare
      exact ⟨node, .here bare, beq_iff_eq.mp mentioned⟩
    · rename_i compound
      obtain ⟨child, present, found⟩ := List.any_eq_true.mp mentioned
      obtain ⟨identifier, leads, text⟩ := (children child present).mp found
      exact ⟨identifier, .through compound present leads, text⟩
  · rintro ⟨identifier, leads, text⟩
    cases leads with
    | here bare => simp [bare, text]
    | through compound present leads =>
        rw [if_neg compound, List.any_eq_true]
        exact ⟨_, present, (children _ present).mpr ⟨identifier, leads, text⟩⟩
termination_by node.size
decreasing_by exact Node.size_lt_of_mem_children (List.mem_filter.mp present).1

/-- A loop over a sequence declares the identifiers of what stands on its left, or else before
its `in`. -/
inductive DeclaresInLoop (statement : Node) (name : String) : Prop
  | labelled
      {left identifier : Node}
      (found : statement.child? .left = some left)
      (leads : LeadsTo left identifier)
      (text : identifier.text = name)
  | unlabelled
      {child identifier : Node}
      (missing : statement.child? .left = none)
      (early : StandsBefore statement.children .inKeyword child)
      (sort : child.kind ∈ [.identifier, .tuplePattern, .declarationExpression])
      (leads : LeadsTo child identifier)
      (text : identifier.text = name)

theorem loopChildDeclares_iff
    {name : String}
    {child : Node} :
    loopChildDeclares name child = true ↔
      child.kind ∈ [.identifier, .tuplePattern, .declarationExpression] ∧
        ∃ identifier, LeadsTo child identifier ∧ identifier.text = name := by
  rw [← mentions_iff]
  unfold loopChildDeclares
  split <;> simp_all

/-- A loop over a collection declares the names in its labelled left side, or else those before
`in`. -/
theorem loopDeclares_iff
    {name : String}
    {statement : Node} :
    loopDeclares name statement = true ↔ DeclaresInLoop statement name := by
  unfold loopDeclares
  cases found : statement.child? .left with
  | some left =>
      simp only [mentions_iff]
      constructor
      · rintro ⟨identifier, leads, text⟩
        exact .labelled found leads text
      · rintro (⟨otherFound, leads, text⟩ | ⟨missing⟩)
        · obtain rfl := Option.some.inj (found.symm.trans otherFound)
          exact ⟨_, leads, text⟩
        · rw [found] at missing
          cases missing
  | none =>
      simp only [List.any_eq_true, mem_takeWhile_iff_standsBefore, loopChildDeclares_iff]
      constructor
      · rintro ⟨child, early, sort, identifier, leads, text⟩
        exact .unlabelled found early sort leads text
      · rintro (⟨otherFound⟩ | ⟨-, early, sort, leads, text⟩)
        · rw [found] at otherFound
          cases otherFound
        · exact ⟨_, early, sort, _, leads, text⟩

/-! ## Lambdas, anonymous methods, accessors and handlers -/

/-- A lambda declares what stands before its arrow. -/
inductive DeclaresBeforeArrow (lambda : Node) (name : String) : Prop
  /-- A parameter without a list. -/
  | bare
      {child : Node}
      (early : StandsBefore lambda.children .arrow child)
      (sort : child.kind ∈ [.identifier, .implicitParameter])
      (text : child.text = name)
  /-- The parameters of a list. -/
  | listed
      {child : Node}
      (early : StandsBefore lambda.children .arrow child)
      (list : child.kind = .parameterList)
      (lists : Parameter.IsNamedIn child name)

/-- A lambda declares its parameters, which all stand before the arrow. -/
theorem lambdaDeclares_iff
    {name : String}
    {lambda : Node} :
    lambdaDeclares name lambda = true ↔ DeclaresBeforeArrow lambda name := by
  simp only [lambdaDeclares, List.any_eq_true, mem_takeWhile_iff_standsBefore]
  constructor
  · rintro ⟨child, early, declared⟩
    unfold lambdaChildDeclares at declared
    split at declared
    · rename_i sort
      exact .bare early (by simp [sort]) (beq_iff_eq.mp declared)
    · rename_i sort
      exact .bare early (by simp [sort]) (beq_iff_eq.mp declared)
    · rename_i isList
      obtain ⟨list, same, lists⟩ := parametersDeclare_iff.mp declared
      obtain rfl := Option.some.inj same
      exact .listed early isList lists
    · cases declared
  · rintro (@⟨child, early, sort, text⟩ | @⟨child, early, isList, lists⟩)
    · refine ⟨child, early, ?_⟩
      simp only [List.mem_cons, List.not_mem_nil, or_false] at sort
      rcases sort with sort | sort <;> simp [lambdaChildDeclares, sort, text]
    · refine ⟨child, early, ?_⟩
      simp only [lambdaChildDeclares, isList]
      exact parametersDeclare_iff.mpr ⟨child, rfl, lists⟩

/-- The parameter list of an anonymous method, by its label or else the first one there is. -/
def HasParameterList (method list : Node) : Prop :=
  method.child? .parameters = some list ∨
    method.child? .parameters = none ∧ IsFirst method.namedChildren .parameterList list

theorem anonymousParameters?_eq_some_iff {method list : Node} :
    anonymousParameters? method = some list ↔ HasParameterList method list := by
  rw [HasParameterList, ← find?_eq_some_iff_isFirst]
  exact Option.or_eq_some_iff

/-- The only name that an accessor brings in is `value`, and only if it is given one. -/
theorem accessorBinds_iff
    {name : String}
    {accessor : Node} :
    accessorBinds name accessor = true ↔ name = "value" ∧ Accessor.TakesValue accessor := by
  rw [accessorBinds, Bool.and_eq_true, beq_iff_eq, Accessor.any_bindsValue_iff]

/-- A handler declares the exceptions that its declarations name. -/
def DeclaresException (clause : Node) (name : String) : Prop :=
  ∃ declaration ∈ clause.namedChildren, declaration.kind = .catchDeclaration ∧
    ∃ identifier, declaration.child? .name = some identifier ∧ identifier.text = name

theorem catchDeclares_iff
    {name : String}
    {clause : Node} :
    catchDeclares name clause = true ↔ DeclaresException clause name := by
  simp only [catchDeclares, List.any_eq_true, Bool.and_eq_true, beq_iff_eq, Option.any_eq_true,
    DeclaresException]

/-! ## Scopes -/

/-- The names that a node declares for what stands below it. -/
def Declares (scope : Node) (name : String) : Prop :=
  match scope.kind with
  | .methodDeclaration | .constructorDeclaration | .destructorDeclaration
  | .operatorDeclaration | .conversionOperatorDeclaration | .indexerDeclaration
  | .localFunctionStatement =>
      (∃ list, scope.child? .parameters = some list ∧ Parameter.IsNamedIn list name) ∨
        HoldsPattern scope name
  | .lambdaExpression => DeclaresBeforeArrow scope name ∨ HoldsPattern scope name
  | .anonymousMethodExpression =>
      (∃ list, HasParameterList scope list ∧ Parameter.IsNamedIn list name) ∨
        HoldsPattern scope name
  | .accessorDeclaration => name = "value" ∧ Accessor.TakesValue scope ∨ HoldsPattern scope name
  | .block | .switchSection => ∃ statement ∈ scope.namedChildren, DeclaresLocal statement name
  | .forStatement | .usingStatement | .fixedStatement => DeclaresInHeader scope name
  | .foreachStatement => DeclaresInLoop scope name
  | .catchClause => DeclaresException scope name
  | .queryExpression => HoldsRange scope name
  | _ => False

/-- A scope brings in exactly the names that it declares, whatever kind of scope it is. -/
theorem declares_iff
    {name : String}
    {scope : Site} :
    declares name scope = true ↔ Declares scope.node name := by
  unfold declares Declares Site.kind
  cases scope.node.kind <;> simp only [Bool.or_eq_true, Bool.false_eq_true, parametersDeclare_iff,
    patternsDeclare_iff, lambdaDeclares_iff, anonymousParameters?_eq_some_iff,
    accessorBinds_iff, List.any_eq_true, statementDeclares_iff, headerDeclares_iff,
    loopDeclares_iff, catchDeclares_iff, queryDeclares_iff]

/-- A node encloses a site inside the type that the site belongs to: it is an ancestor of the
site, and neither it nor any nearer ancestor is a type declaration. -/
def Encloses (scope site : Site) : Prop :=
  ∃ nearer further, site.ancestors = nearer ++ scope :: further ∧
    ∀ outer ∈ nearer ++ [scope], outer.kind.isType = false

/-- The scopes that can hide a name are the ancestors up to the type, the type excluded. -/
theorem mem_enclosing_iff {scope site : Site} :
    scope ∈ enclosing site ↔ Encloses scope site := by
  simp only [enclosing, mem_takeWhile_iff, Encloses, List.mem_append, List.mem_singleton,
    Bool.not_eq_true']
  refine exists₂_congr fun nearer further => and_congr_right fun _ => ?_
  constructor
  · rintro ⟨scopeInside, others⟩ outer (earlier | rfl)
    · exact others outer earlier
    · exact scopeInside
  · intro inside
    exact ⟨inside scope (Or.inr rfl), fun outer earlier => inside outer (Or.inl earlier)⟩

/-! ## One scope among others -/

/-- Of several things that count, a given one has a property or else another one does. -/
theorem exists_and_iff_or_exists_ne
    {α : Type}
    {counts holds : α → Prop}
    {one : α}
    (oneCounts : counts one) :
    (∃ item, counts item ∧ holds item) ↔
      holds one ∨ ∃ item, item ≠ one ∧ counts item ∧ holds item := by
  constructor
  · rintro ⟨item, itemCounts, itemHolds⟩
    by_cases same : item = one
    · exact .inl (same ▸ itemHolds)
    · exact .inr ⟨item, same, itemCounts, itemHolds⟩
  · rintro (oneHolds | ⟨item, -, itemCounts, itemHolds⟩)
    · exact ⟨one, oneCounts, oneHolds⟩
    · exact ⟨item, itemCounts, itemHolds⟩

/-- A scope around a site other than a given one declares a name. -/
def DeclaredBeyond
    (scope site : Site)
    (name : String) : Prop :=
  ∃ other, other ≠ scope ∧ Encloses other site ∧ Declares other.node name

/-- A name is hidden by one given scope or by another one around the site. -/
theorem isShadowed_iff_declares_or_declaredBeyond
    {scope site : Site}
    {name : String}
    (encloses : Encloses scope site) :
    isShadowed name site = true ↔
      Declares scope.node name ∨ DeclaredBeyond scope site name := by
  simp only [isShadowed, List.any_eq_true, mem_enclosing_iff, declares_iff]
  exact exists_and_iff_or_exists_ne encloses

/--
A name hides the members of a type at a site if and only if the name is declared
by one of the scopes that stand between the site and its type declaration.
-/
theorem isShadowed_iff_declared_in_scope
    (site : Site)
    (name : String) :
    isShadowed name site = true ↔
      ∃ scope, Encloses scope site ∧ Declares scope.node name := by
  rw [isShadowed, List.any_eq_true]
  constructor
  · rintro ⟨scope, inside, declared⟩
    exact ⟨scope, mem_enclosing_iff.mp inside, declares_iff.mp declared⟩
  · rintro ⟨scope, encloses, declared⟩
    exact ⟨scope, mem_enclosing_iff.mpr encloses, declares_iff.mpr declared⟩

end Scope
end HouseStyle
