import HouseStyle.Proofs.Syntax.Comments
import HouseStyle.Scope

/-!
# Scopes without comments

The parts of a declaration and the names that a scope declares are found under
labels and by kinds, so comments do not change them.  The one exception is the
variable of a pattern, which is found by position and only among two nodes or
more: a comment in a pattern can take its place or make up the number.
-/

namespace HouseStyle

open Syntax

namespace Declarator

/-- The list of declarators is found by its kind, with or without comments before it. -/
theorem list?_stripped (declaration : Node) :
    list? declaration.stripped = (list? declaration).map Node.stripped := by
  unfold list?
  rw [Node.kind_stripped, Node.namedChildren_stripped,
    Node.find?_kind_strippedAll (· == .variableDeclaration) rfl]
  split <;> rfl

/-- The name of a declarator is labelled, or else its first identifier. -/
theorem name?_stripped (declarator : Node) :
    name? declarator.stripped = (name? declarator).map Node.stripped := by
  rw [name?, Node.child?_stripped, Node.namedChildren_stripped,
    Node.find?_kind_strippedAll (· == .identifier) rfl, ← Option.map_or, name?]

theorem ofDeclaration_stripped (declaration : Node) :
    ofDeclaration declaration.stripped = (ofDeclaration declaration).map Node.stripped := by
  unfold ofDeclaration
  rw [list?_stripped]
  cases list? declaration with
  | none => rfl
  | some list =>
      rw [Option.map_some]
      dsimp only
      rw [Node.namedChildren_stripped]
      exact Node.filter_kind_strippedAll (· == .variableDeclarator) rfl _

/-- A declaration of variables declares the same names without comments. -/
theorem names_stripped (declaration : Node) :
    names declaration.stripped = names declaration := by
  rw [names, ofDeclaration_stripped, List.filterMap_map, names]
  refine List.filterMap_congr fun declarator _ => ?_
  simp [name?_stripped, Function.comp_def]

end Declarator

namespace Parameter

/-- Comments after the last identifier are no identifiers. -/
theorem lastIdentifier?_stripped (node : Node) :
    lastIdentifier? node.stripped = (lastIdentifier? node).map Node.stripped := by
  rw [lastIdentifier?, Node.namedChildren_stripped,
    Node.filter_kind_strippedAll (· == .identifier) rfl, List.getLast?_map,
    lastIdentifier?]

/-- The text that names a parameter. -/
def spelling? (parameter : Parameter) : Option String :=
  parameter.name?.map Node.text

theorem spelling?_plain_stripped (node : Node) :
    (plain node.stripped).spelling? = (plain node).spelling? := by
  simp [spelling?, plain, Node.child?_stripped, Function.comp_def]

theorem spelling?_array_stripped (node : Node) :
    (array node.stripped).spelling? = (array node).spelling? := by
  simp [spelling?, array, Node.child?_stripped, lastIdentifier?_stripped, ← Option.map_or,
    Function.comp_def]

theorem spelling?_loose_stripped (node : Node) :
    (loose node.stripped).spelling? = (loose node).spelling? := by
  simp [spelling?, loose]

/-- A comment after `params` does not end the wait for the identifier that names the parameter. -/
theorem filterMap_collect_strippedAll
    (awaiting : Bool)
    (nodes : List Node) :
    (collect awaiting (Node.strippedAll nodes)).filterMap spelling? =
      (collect awaiting nodes).filterMap spelling? := by
  induction nodes generalizing awaiting with
  | nil => rfl
  | cons node rest inductionHypothesis =>
      rw [Node.strippedAll]
      cases isLoose : node.isLooseComment with
      | true =>
          rw [if_pos rfl, inductionHypothesis, collect, Node.kind_of_isLooseComment isLoose]
      | false =>
          rw [if_neg Bool.false_ne_true, collect, collect, Node.kind_stripped]
          split
          · rw [List.filterMap_cons, List.filterMap_cons, spelling?_plain_stripped,
              inductionHypothesis]
          · rw [List.filterMap_cons, List.filterMap_cons, spelling?_array_stripped,
              inductionHypothesis]
          · exact inductionHypothesis true
          · split
            · rw [List.filterMap_cons, List.filterMap_cons, spelling?_loose_stripped,
                inductionHypothesis]
            · exact inductionHypothesis awaiting
          · exact inductionHypothesis awaiting

/-- A list of parameters declares the same names without comments. -/
theorem names_stripped (list : Node) :
    names list.stripped = names list := by
  rw [names, ofList, Node.children_stripped]
  exact filterMap_collect_strippedAll false list.children

end Parameter

/-- An accessor is known by its labelled name or by its keyword, and no comment is one of them. -/
theorem Accessor.ofDeclaration?_stripped (declaration : Node) :
    ofDeclaration? declaration.stripped = ofDeclaration? declaration := by
  have keywords :
      ((Node.strippedAll declaration.children).filterMap fun child => ofKind? child.kind) =
        declaration.children.filterMap fun child => ofKind? child.kind := by
    apply Node.filterMap_strippedAll
    · intro child
      rw [Node.kind_stripped]
    · intro child loose
      rw [Node.kind_of_isLooseComment loose]
      rfl
  rw [ofDeclaration?, Node.child?_stripped, Node.children_stripped, ← List.head?_filterMap,
    keywords, List.head?_filterMap, ofDeclaration?]
  cases declaration.child? .name with
  | none => rfl
  | some name => simp

namespace Scope

/-! ## Patterns -/

/-- The scopes that are searched for pattern variables: functions, and accessors among them. -/
def searchesPatterns : Kind → Bool
  | .methodDeclaration | .constructorDeclaration | .destructorDeclaration
  | .operatorDeclaration | .conversionOperatorDeclaration | .indexerDeclaration
  | .localFunctionStatement | .lambdaExpression | .anonymousMethodExpression
  | .accessorDeclaration => true
  | _ => false

/-- No pattern at or below a node has a comment among its named children. -/
def HoldsPlainPatterns (scope : Node) : Prop :=
  ∀ pattern ∈ scope.subtree, isPattern pattern.kind = true →
    ∀ child ∈ pattern.namedChildren, child.isLooseComment = false

instance (scope : Node) : Decidable (HoldsPlainPatterns scope) :=
  inferInstanceAs (Decidable (∀ pattern ∈ scope.subtree, _ → ∀ child ∈ pattern.namedChildren, _))

/-- A pattern without comments among its named children introduces the same variable when the
comments further below are gone. -/
theorem introduces_stripped
    {name : String}
    {node : Node}
    (plain : isPattern node.kind = true →
      ∀ child ∈ node.namedChildren, child.isLooseComment = false) :
    introduces name node.stripped = introduces name node := by
  cases sort : isPattern node.kind with
  | false => simp [introduces, designation?, sort]
  | true =>
      have named : node.stripped.namedChildren = node.namedChildren.map Node.stripped := by
        rw [Node.namedChildren_stripped, Node.strippedAll_of_forall_kept (plain sort)]
      have designated : designation? node.stripped = (designation? node).map Node.stripped := by
        unfold designation?
        rw [Node.kind_stripped, named, List.length_map, Node.child?_stripped, List.getLast?_map,
          ← Option.map_or]
        split <;> rfl
      rw [introduces, designated, introduces]
      cases designation? node with
      | none => rfl
      | some designation => simp

/-- This is the search that comments can mislead, and the reason for the assumption on patterns. -/
theorem patternsDeclare_stripped
    {scope : Site}
    (name : String)
    (plain : HoldsPlainPatterns scope.node) :
    patternsDeclare name scope.stripped = patternsDeclare name scope := by
  refine Site.anyBelow_stripped (fun inner below => introduces_stripped (plain inner below)) ?_
  intro inner loose
  simp [introduces, designation?, Node.kind_of_isLooseComment loose, isPattern]

/-! ## Other declarations of a scope -/

theorem any_text_stripped
    (name : String)
    (found : Option Node) :
    ((found.map Node.stripped).any fun identifier => identifier.text == name) =
      found.any fun identifier => identifier.text == name := by
  cases found with
  | none => rfl
  | some identifier => simp

theorem parametersDeclare_stripped
    (name : String)
    (list : Option Node) :
    parametersDeclare name (list.map Node.stripped) = parametersDeclare name list := by
  cases list with
  | none => rfl
  | some parameters => simp [parametersDeclare, Parameter.names_stripped]

/-- The range variables of a query are labelled in its clauses. -/
theorem queryDeclares_stripped
    (name : String)
    (query : Site) :
    queryDeclares name query.stripped = queryDeclares name query := by
  apply Site.anyBelow_stripped
  · intro inner _
    rw [ranges, Node.kind_stripped, Node.child?_stripped, any_text_stripped, ranges]
  · intro inner loose
    simp [ranges, Node.kind_of_isLooseComment loose, isRangeClause]

mutual

/-- Comments mention no name, so without them the same names are mentioned. -/
theorem mentions_stripped (name : String) : ∀ node : Node,
    mentions name node.stripped = mentions name node
  | .branch label children => by
      rw [Node.stripped, mentions, mentions, mentionsAny_strippedAll name children]

theorem mentionsAny_strippedAll (name : String) : ∀ nodes : List Node,
    mentionsAny name (Node.strippedAll nodes) = mentionsAny name nodes
  | [] => rfl
  | node :: rest => by
      have here := mentions_stripped name node
      have others := mentionsAny_strippedAll name rest
      rw [Node.strippedAll, mentionsAny]
      cases loose : node.isLooseComment with
      | true =>
          have nothing : mentions name node = false := by
            obtain ⟨label, children⟩ := node
            obtain ⟨comment, leaf, -⟩ := Node.isLooseComment_iff.mp loose
            change label.kind = .comment at comment
            change children = [] at leaf
            rw [mentions, comment, leaf]
            rfl
          rw [if_pos rfl, others, nothing, Bool.and_false, Bool.false_or]
      | false =>
          rw [if_neg Bool.false_ne_true, mentionsAny, Node.isNamed_stripped, here, others]

end

/-- The parameters of a lambda stand before the arrow, and comments do not move the arrow. -/
theorem lambdaDeclares_stripped
    (name : String)
    (lambda : Node) :
    lambdaDeclares name lambda.stripped = lambdaDeclares name lambda := by
  rw [lambdaDeclares, Node.children_stripped,
    Node.takeWhile_kind_strippedAll (· != .arrow) rfl, lambdaDeclares]
  apply Node.any_strippedAll
  · intro child _
    unfold lambdaChildDeclares
    rw [Node.kind_stripped, Node.text_stripped]
    split
    · rfl
    · rfl
    · exact parametersDeclare_stripped name (some child)
    · rfl
  · intro child loose
    rw [lambdaChildDeclares, Node.kind_of_isLooseComment loose]

theorem anonymousParameters?_stripped (method : Node) :
    anonymousParameters? method.stripped = (anonymousParameters? method).map Node.stripped := by
  rw [anonymousParameters?, Node.child?_stripped, Node.namedChildren_stripped,
    Node.find?_kind_strippedAll (· == .parameterList) rfl, ← Option.map_or,
    anonymousParameters?]

theorem declarationDeclares_stripped
    (name : String)
    (declaration : Node) :
    declarationDeclares name declaration.stripped = declarationDeclares name declaration := by
  rw [declarationDeclares, Declarator.names_stripped, declarationDeclares]

/-- A block declares the same locals and local functions without comments. -/
theorem any_statementDeclares_stripped
    (name : String)
    (block : Node) :
    block.stripped.namedChildren.any (statementDeclares name) =
      block.namedChildren.any (statementDeclares name) := by
  rw [Node.namedChildren_stripped]
  apply Node.any_strippedAll
  · intro statement _
    unfold statementDeclares
    rw [Node.kind_stripped]
    split
    · exact declarationDeclares_stripped name statement
    · rw [Node.child?_stripped, any_text_stripped]
    · rfl
  · intro statement loose
    rw [statementDeclares, Node.kind_of_isLooseComment loose]

/-- The variable of a `foreach` is labelled, or else mentioned before `in`. -/
theorem loopDeclares_stripped
    (name : String)
    (statement : Node) :
    loopDeclares name statement.stripped = loopDeclares name statement := by
  have before : ((Node.strippedAll statement.children).takeWhile fun child =>
        child.kind != .inKeyword).any (loopChildDeclares name) =
      (statement.children.takeWhile fun child =>
        child.kind != .inKeyword).any (loopChildDeclares name) := by
    rw [Node.takeWhile_kind_strippedAll (· != .inKeyword) rfl]
    apply Node.any_strippedAll
    · intro child _
      unfold loopChildDeclares
      rw [Node.kind_stripped, mentions_stripped]
    · intro child loose
      rw [loopChildDeclares, Node.kind_of_isLooseComment loose]
  rw [loopDeclares, Node.child?_stripped, Node.children_stripped, before, loopDeclares]
  cases statement.child? .left with
  | none => rfl
  | some left => exact mentions_stripped name left

/-- A `catch` clause names its exception in a declaration that is found by its kind. -/
theorem catchDeclares_stripped
    (name : String)
    (clause : Node) :
    catchDeclares name clause.stripped = catchDeclares name clause := by
  rw [catchDeclares, Node.namedChildren_stripped, catchDeclares]
  apply Node.any_strippedAll
  · intro child _
    rw [Node.kind_stripped, Node.child?_stripped, any_text_stripped]
  · intro child loose
    rw [Node.kind_of_isLooseComment loose]
    rfl

/-- The header of a `for`, `using` or `fixed` statement declares the same names without comments. -/
theorem headerDeclares_stripped
    (name : String)
    (statement : Node) :
    headerDeclares name statement.stripped = headerDeclares name statement := by
  rw [headerDeclares, Node.namedChildren_stripped, headerDeclares]
  apply Node.any_strippedAll
  · intro child _
    rw [Node.kind_stripped, declarationDeclares_stripped]
  · intro child loose
    rw [Node.kind_of_isLooseComment loose]
    rfl

/--
Comments outside of patterns do not change what a scope declares.  In a scope
that is not searched for patterns, no comment does.
-/
theorem declares_stripped
    {scope : Site}
    (name : String)
    (plain : searchesPatterns scope.kind = true → HoldsPlainPatterns scope.node) :
    declares name scope.stripped = declares name scope := by
  have patterns (searches : searchesPatterns scope.kind = true) :
      patternsDeclare name scope.stripped = patternsDeclare name scope :=
    patternsDeclare_stripped name (plain searches)
  have node : scope.stripped.node = scope.node.stripped := rfl
  unfold declares
  rw [Site.kind_stripped, node]
  -- The cases are the kinds of scopes in the order of the definition; the first seven are the
  -- functions with a list of parameters, which come last here.
  split <;> rename_i kind
  case h_8 => rw [lambdaDeclares_stripped, patterns (kind ▸ rfl)]
  case h_9 =>
      rw [anonymousParameters?_stripped, parametersDeclare_stripped, patterns (kind ▸ rfl)]
  case h_10 =>
      rw [accessorBinds, Accessor.ofDeclaration?_stripped, patterns (kind ▸ rfl), accessorBinds]
  case h_11 | h_12 => exact any_statementDeclares_stripped name scope.node
  case h_13 | h_14 | h_15 => exact headerDeclares_stripped name scope.node
  case h_16 => exact loopDeclares_stripped name scope.node
  case h_17 => exact catchDeclares_stripped name scope.node
  case h_18 => exact queryDeclares_stripped name scope
  case h_19 => rfl
  all_goals rw [Node.child?_stripped, parametersDeclare_stripped, patterns (kind ▸ rfl)]

/-- The scopes around a site are those around it in the tree with comments, in the same order. -/
theorem enclosing_stripped (site : Site) :
    enclosing site.stripped = (enclosing site).map Site.stripped := by
  have seen : (fun ancestor : Site => !ancestor.kind.isType) ∘ Site.stripped =
      fun ancestor => !ancestor.kind.isType :=
    funext fun ancestor => congrArg (fun kind : Kind => !kind.isType) ancestor.kind_stripped
  rw [enclosing, Site.ancestors_stripped, List.takeWhile_map, seen, enclosing]

/-- What hides a name is settled scope by scope, so only the patterns of the scopes that are
searched for them have to be plain. -/
theorem isShadowed_stripped
    {site : Site}
    (name : String)
    (plain : ∀ scope ∈ enclosing site, searchesPatterns scope.kind = true →
      HoldsPlainPatterns scope.node) :
    isShadowed name site.stripped = isShadowed name site := by
  rw [isShadowed, enclosing_stripped, List.any_map, isShadowed]
  rw [Bool.eq_iff_iff, List.any_eq_true, List.any_eq_true]
  refine exists_congr fun scope => and_congr_right fun encloses => ?_
  exact iff_of_eq (congrArg (· = true) (declares_stripped name (plain scope encloses)))

end Scope
end HouseStyle
