import HouseStyle.Declaration
import Mathlib.Data.List.Basic

/-!
# Names in declarations

What the nodes of a declaration name: the parameters of a list, the variables
of declarators and the keyword of an accessor.  Each is described by its place
among the children of a node, and the functions that look for it find exactly
what is described.
-/

namespace HouseStyle

open Syntax

namespace Syntax

/-- A node is the first one of its kind in a list. -/
def IsFirst (nodes : List Node) (kind : Kind) (node : Node) : Prop :=
  ∃ before after, nodes = before ++ node :: after ∧ node.kind = kind ∧
    ∀ other ∈ before, other.kind ≠ kind

/-- A node is the last one of its kind in a list. -/
def IsLast (nodes : List Node) (kind : Kind) (node : Node) : Prop :=
  ∃ before after, nodes = before ++ node :: after ∧ node.kind = kind ∧
    ∀ other ∈ after, other.kind ≠ kind

/-- A node of a list stands before all nodes of a kind. -/
def StandsBefore (nodes : List Node) (kind : Kind) (node : Node) : Prop :=
  ∃ before after, nodes = before ++ node :: after ∧ node.kind ≠ kind ∧
    ∀ other ∈ before, other.kind ≠ kind

/-- A search by kind finds the first node of that kind. -/
theorem find?_eq_some_iff_isFirst
    {nodes : List Node}
    {kind : Kind}
    {node : Node} :
    (nodes.find? fun node => node.kind == kind) = some node ↔ IsFirst nodes kind node := by
  rw [List.find?_eq_some_iff_append, IsFirst]
  constructor
  · rintro ⟨sameKind, before, after, split, others⟩
    refine ⟨before, after, split, beq_iff_eq.mp sameKind, ?_⟩
    intro other earlier
    simpa using others other earlier
  · rintro ⟨before, after, split, sameKind, others⟩
    refine ⟨beq_iff_eq.mpr sameKind, before, after, split, ?_⟩
    intro other earlier
    simpa using others other earlier

theorem getLast?_filter_eq_some_iff_isLast
    {nodes : List Node}
    {kind : Kind}
    {node : Node} :
    (nodes.filter fun node => node.kind == kind).getLast? = some node ↔
      IsLast nodes kind node := by
  rw [List.getLast?_filter, find?_eq_some_iff_isFirst]
  constructor
  · rintro ⟨before, after, split, sameKind, others⟩
    refine ⟨after.reverse, before.reverse, ?_, sameKind, ?_⟩
    · simpa using congrArg List.reverse split
    · intro other later
      exact others other (List.mem_reverse.mp later)
  · rintro ⟨before, after, rfl, sameKind, others⟩
    refine ⟨after.reverse, before.reverse, by simp, sameKind, ?_⟩
    intro other later
    exact others other (List.mem_reverse.mp later)

theorem mem_takeWhile_iff
    {α : Type}
    {keeps : α → Bool}
    {items : List α}
    {item : α} :
    item ∈ items.takeWhile keeps ↔
      ∃ before after, items = before ++ item :: after ∧ keeps item = true ∧
        ∀ other ∈ before, keeps other = true := by
  constructor
  · intro kept
    have allKept : ∀ other ∈ items.takeWhile keeps, keeps other = true :=
      List.all_eq_true.mp List.all_takeWhile
    obtain ⟨before, after, split⟩ := List.append_of_mem kept
    refine ⟨before, after ++ items.dropWhile keeps, ?_, allKept item kept, ?_⟩
    · rw [← List.cons_append, ← List.append_assoc, ← split, List.takeWhile_append_dropWhile]
    · intro other earlier
      apply allKept
      rw [split]
      exact List.mem_append_left _ earlier
  · rintro ⟨before, after, rfl, itemKept, others⟩
    rw [List.takeWhile_append_of_pos others, List.takeWhile_cons_of_pos itemKept]
    simp

/-- The nodes before the first one of a kind are those with none of that kind up to them. -/
theorem mem_takeWhile_iff_standsBefore
    {nodes : List Node}
    {kind : Kind}
    {node : Node} :
    node ∈ (nodes.takeWhile fun node => node.kind != kind) ↔ StandsBefore nodes kind node := by
  simp [mem_takeWhile_iff, StandsBefore]

theorem isFirst_cons_iff
    {first node : Node}
    {rest : List Node}
    {kind : Kind} :
    IsFirst (first :: rest) kind node ↔
      first = node ∧ first.kind = kind ∨ first.kind ≠ kind ∧ IsFirst rest kind node := by
  rw [← find?_eq_some_iff_isFirst, ← find?_eq_some_iff_isFirst, List.find?_cons]
  by_cases sameKind : first.kind = kind
  · simp [sameKind]
  · simp [sameKind, beq_false_of_ne sameKind]

end Syntax

namespace Parameter

/-- An identifier names the parameter that an entry of a parameter list stands for. -/
inductive NamesEntry (entry identifier : Node) : Prop
  /-- A parameter is found by its `name`. -/
  | plain
      (parameter : entry.kind = .parameter)
      (named : entry.child? .name = some identifier)
  /-- So is a parameter array. -/
  | array
      (parameterArray : entry.kind = .parameterArray)
      (named : entry.child? .name = some identifier)
  /-- A parameter array without a `name` has its last identifier for one. -/
  | unlabelledArray
      (parameterArray : entry.kind = .parameterArray)
      (unlabelled : entry.child? .name = none)
      (last : IsLast entry.namedChildren .identifier identifier)

/-- An identifier is the first one after a bare `params`. -/
def FollowsParams (nodes : List Node) (identifier : Node) : Prop :=
  ∃ before token after, nodes = before ++ token :: after ∧ token.kind = .paramsKeyword ∧
    IsFirst after .identifier identifier

/-- A parameter list declares the names of its entries and of its bare `params`. -/
def IsNamedIn (list : Node) (name : String) : Prop :=
  ∃ identifier : Node, identifier.text = name ∧
    ((∃ entry ∈ list.children, NamesEntry entry identifier) ∨
      FollowsParams list.children identifier)

/-- As `FollowsParams`, where a bare `params` may also stand before the nodes. -/
def Awaited
    (awaiting : Bool)
    (nodes : List Node)
    (identifier : Node) : Prop :=
  awaiting = true ∧ IsFirst nodes .identifier identifier ∨ FollowsParams nodes identifier

/-- A bare `params` is followed by the first identifier after it. -/
theorem followsParams_cons_iff
    {first identifier : Node}
    {rest : List Node} :
    FollowsParams (first :: rest) identifier ↔
      first.kind = .paramsKeyword ∧ IsFirst rest .identifier identifier ∨
        FollowsParams rest identifier := by
  constructor
  · rintro ⟨before, token, after, split, params, next⟩
    cases before with
    | nil =>
        obtain ⟨rfl, rfl⟩ := List.cons.inj split
        exact Or.inl ⟨params, next⟩
    | cons other before =>
        obtain ⟨rfl, rfl⟩ := List.cons.inj split
        exact Or.inr ⟨before, token, after, rfl, params, next⟩
  · rintro (⟨params, next⟩ | ⟨before, token, after, rfl, params, next⟩)
    · exact ⟨[], first, rest, rfl, params, next⟩
    · exact ⟨first :: before, token, after, rfl, params, next⟩

/-- From a bare `params` on, an identifier is awaited. -/
theorem awaited_cons_of_params
    {awaiting : Bool}
    {first identifier : Node}
    {rest : List Node}
    (params : first.kind = .paramsKeyword) :
    Awaited awaiting (first :: rest) identifier ↔ Awaited true rest identifier := by
  simp only [Awaited, isFirst_cons_iff, followsParams_cons_iff, params, reduceCtorEq, ne_eq,
    not_false_eq_true, and_false, false_or, true_and]
  tauto

/-- The first identifier ends the wait. -/
theorem awaited_cons_of_identifier
    {awaiting : Bool}
    {first identifier : Node}
    {rest : List Node}
    (bare : first.kind = .identifier) :
    Awaited awaiting (first :: rest) identifier ↔
      awaiting = true ∧ first = identifier ∨ Awaited false rest identifier := by
  simp [Awaited, isFirst_cons_iff, followsParams_cons_iff, bare]

/-- No other node changes whether an identifier is awaited. -/
theorem awaited_cons_of_other
    {awaiting : Bool}
    {first identifier : Node}
    {rest : List Node}
    (noParams : first.kind ≠ .paramsKeyword)
    (noIdentifier : first.kind ≠ .identifier) :
    Awaited awaiting (first :: rest) identifier ↔ Awaited awaiting rest identifier := by
  simp [Awaited, isFirst_cons_iff, followsParams_cons_iff, noParams, noIdentifier]

/-- A parameter array is named by its label or else by its last identifier, which comes after
the type. -/
theorem name?_array_eq_some_iff {entry identifier : Node} :
    (array entry).name? = some identifier ↔
      entry.child? .name = some identifier ∨
        entry.child? .name = none ∧ IsLast entry.namedChildren .identifier identifier := by
  rw [← getLast?_filter_eq_some_iff_isLast]
  exact Option.or_eq_some_iff

theorem namesEntry_iff {entry identifier : Node} :
    NamesEntry entry identifier ↔
      entry.kind = .parameter ∧ (plain entry).name? = some identifier ∨
        entry.kind = .parameterArray ∧ (array entry).name? = some identifier := by
  rw [name?_array_eq_some_iff]
  constructor
  · rintro (⟨parameter, named⟩ | ⟨parameterArray, named⟩ | ⟨parameterArray, unlabelled, last⟩)
    · exact Or.inl ⟨parameter, named⟩
    · exact Or.inr ⟨parameterArray, Or.inl named⟩
    · exact Or.inr ⟨parameterArray, Or.inr ⟨unlabelled, last⟩⟩
  · rintro (⟨parameter, named⟩ | ⟨parameterArray, named | ⟨unlabelled, last⟩⟩)
    · exact .plain parameter named
    · exact .array parameterArray named
    · exact .unlabelledArray parameterArray unlabelled last

/-- The identifiers that name the parameters among some children of a list. -/
theorem exists_mem_collect_iff
    {awaiting : Bool}
    {nodes : List Node}
    {identifier : Node} :
    (∃ parameter ∈ collect awaiting nodes, parameter.name? = some identifier) ↔
      (∃ entry ∈ nodes, NamesEntry entry identifier) ∨ Awaited awaiting nodes identifier := by
  -- The flag that the recursion carries is what `Awaited` adds to `FollowsParams`.
  induction nodes generalizing awaiting with
  | nil => simp [collect, Awaited, IsFirst, FollowsParams]
  | cons child rest inductionHypothesis =>
      rw [List.exists_mem_cons_iff, namesEntry_iff]
      unfold collect
      split
      · rename_i parameter
        rw [awaited_cons_of_other (by simp [parameter]) (by simp [parameter])]
        simp [parameter, inductionHypothesis, or_assoc]
      · rename_i parameterArray
        rw [awaited_cons_of_other (by simp [parameterArray]) (by simp [parameterArray])]
        simp [parameterArray, inductionHypothesis, or_assoc]
      · rename_i params
        rw [awaited_cons_of_params params]
        simp [params, inductionHypothesis]
      · rename_i bare
        rw [awaited_cons_of_identifier bare]
        cases awaiting with
        | false => simp [bare, inductionHypothesis]
        | true =>
            simp only [if_true, List.exists_mem_cons_iff, inductionHypothesis, loose,
              Option.some.injEq, bare, reduceCtorEq, false_and, or_false, false_or, true_and]
            exact or_left_comm
      · rename_i noParameter noArray noParams noIdentifier
        have noEntry : ¬ (child.kind = .parameter ∧ (plain child).name? = some identifier ∨
            child.kind = .parameterArray ∧ (array child).name? = some identifier) := by
          rintro (⟨parameter, -⟩ | ⟨parameterArray, -⟩)
          · exact noParameter parameter
          · exact noArray parameterArray
        rw [awaited_cons_of_other noParams noIdentifier, inductionHypothesis]
        simp [noEntry]

/-- The names of a list are those of its entries and of the identifiers that a bare `params`
awaits. -/
theorem mem_names_iff
    {list : Node}
    {name : String} :
    name ∈ names list ↔ IsNamedIn list name := by
  simp only [names, ofList, List.mem_filterMap, Option.map_eq_some_iff]
  constructor
  · rintro ⟨parameter, present, identifier, named, text⟩
    have collected := exists_mem_collect_iff.mp ⟨parameter, present, named⟩
    simp only [Awaited, Bool.false_eq_true, false_and, false_or] at collected
    exact ⟨identifier, text, collected⟩
  · rintro ⟨identifier, text, named⟩
    have awaited : (∃ entry ∈ list.children, NamesEntry entry identifier) ∨
        Awaited false list.children identifier := named.imp_right Or.inr
    obtain ⟨parameter, present, found⟩ := exists_mem_collect_iff.mpr awaited
    exact ⟨parameter, present, identifier, found, text⟩

end Parameter

namespace Declarator

/-- An identifier names a variable that a list of declarators declares. -/
def NamesVariable (list identifier : Node) : Prop :=
  ∃ declarator ∈ list.namedChildren, declarator.kind = .variableDeclarator ∧
    (declarator.child? .name = some identifier ∨
      declarator.child? .name = none ∧
        IsFirst declarator.namedChildren .identifier identifier)

/-- A declarator is named by its label or else by its first identifier. -/
theorem name?_eq_some_iff {declarator identifier : Node} :
    name? declarator = some identifier ↔
      declarator.child? .name = some identifier ∨
        declarator.child? .name = none ∧
          IsFirst declarator.namedChildren .identifier identifier := by
  rw [← find?_eq_some_iff_isFirst]
  exact Option.or_eq_some_iff

theorem mem_names_iff_of_list
    {declaration list : Node}
    {name : String}
    (found : list? declaration = some list) :
    name ∈ names declaration ↔
      ∃ identifier, NamesVariable list identifier ∧ identifier.text = name := by
  simp only [names, ofDeclaration, found, List.mem_filterMap, List.mem_filter, beq_iff_eq,
    Option.map_eq_some_iff, name?_eq_some_iff, NamesVariable]
  constructor
  · rintro ⟨declarator, ⟨present, kind⟩, identifier, named, text⟩
    exact ⟨identifier, ⟨declarator, present, kind, named⟩, text⟩
  · rintro ⟨identifier, ⟨declarator, present, kind, named⟩, text⟩
    exact ⟨declarator, ⟨present, kind⟩, identifier, named, text⟩

/-- The names of a declaration around a list of declarators are those of its first list. -/
theorem mem_names_iff_of_outer
    {declaration : Node}
    {name : String}
    (outer : declaration.kind ≠ .variableDeclaration) :
    name ∈ names declaration ↔
      ∃ list, IsFirst declaration.namedChildren .variableDeclaration list ∧
        ∃ identifier, NamesVariable list identifier ∧ identifier.text = name := by
  have listed : ∀ list, list? declaration = some list ↔
      IsFirst declaration.namedChildren .variableDeclaration list := by
    intro list
    rw [list?, beq_false_of_ne outer, ← find?_eq_some_iff_isFirst]
    rfl
  constructor
  · intro declared
    cases found : list? declaration with
    | none => simp [names, ofDeclaration, found] at declared
    | some list => exact ⟨list, (listed list).mp found, (mem_names_iff_of_list found).mp declared⟩
  · rintro ⟨list, first, declared⟩
    exact (mem_names_iff_of_list ((listed list).mpr first)).mpr declared

end Declarator

namespace Accessor

/-- The kinds of the keywords of accessors. -/
def keywordKinds : List Kind :=
  [.getKeyword, .setKeyword, .initKeyword, .addKeyword, .removeKeyword]

/-- A token is the keyword of an accessor: it has the label `name`, or else it is the first
keyword there is. -/
inductive IsKeywordOf (accessor token : Node) : Prop
  | labelled
      (found : accessor.child? .name = some token)
      (keyword : token.kind ∈ keywordKinds)
  | unlabelled
      {before after : List Node}
      (missing : ∀ name, accessor.child? .name = some name → name.kind ∉ keywordKinds)
      (split : accessor.children = before ++ token :: after)
      (keyword : token.kind ∈ keywordKinds)
      (first : ∀ other ∈ before, other.kind ∉ keywordKinds)

/-- The keyword of an accessor gives it an implicit parameter. -/
def TakesValue (accessor : Node) : Prop :=
  ∃ token, IsKeywordOf accessor token ∧
    token.kind ∈ [.setKeyword, .initKeyword, .addKeyword, .removeKeyword]

theorem ofKind?_eq_none_iff {kind : Kind} :
    ofKind? kind = none ↔ kind ∉ keywordKinds := by
  cases kind <;> simp [ofKind?, keywordKinds]

theorem mem_keywordKinds_of_ofKind?
    {kind : Kind}
    {keyword : Accessor}
    (found : ofKind? kind = some keyword) :
    kind ∈ keywordKinds := by
  by_contra missing
  rw [ofKind?_eq_none_iff.mpr missing] at found
  cases found

/-- The keyword of an accessor is its labelled name or else the first keyword among its children. -/
theorem ofDeclaration?_eq_some_iff
    {accessor : Node}
    {keyword : Accessor} :
    ofDeclaration? accessor = some keyword ↔
      ∃ token, IsKeywordOf accessor token ∧ ofKind? token.kind = some keyword := by
  unfold ofDeclaration?
  cases labelled : (accessor.child? .name).bind fun name => ofKind? name.kind with
  | some found =>
      obtain ⟨name, named, ofName⟩ := Option.bind_eq_some_iff.mp labelled
      rw [Option.some_or]
      constructor
      · intro same
        exact ⟨name, .labelled named (mem_keywordKinds_of_ofKind? ofName), ofName.trans same⟩
      · rintro ⟨token, ⟨otherNamed, -⟩ | ⟨missing⟩, ofToken⟩
        · obtain rfl := Option.some.inj (named.symm.trans otherNamed)
          exact ofName.symm.trans ofToken
        · exact absurd (mem_keywordKinds_of_ofKind? ofName) (missing name named)
  | none =>
      rw [Option.none_or, List.findSome?_eq_some_iff]
      constructor
      · rintro ⟨before, token, after, split, ofToken, others⟩
        refine ⟨token, .unlabelled ?_ split (mem_keywordKinds_of_ofKind? ofToken) ?_, ofToken⟩
        · intro name named
          rw [named, Option.bind_some] at labelled
          exact ofKind?_eq_none_iff.mp labelled
        · intro other earlier
          exact ofKind?_eq_none_iff.mp (others other earlier)
      · rintro ⟨token, ⟨named, isKeyword⟩ | ⟨missing, split, isKeyword, first⟩, ofToken⟩
        · rw [named, Option.bind_some] at labelled
          exact absurd isKeyword (ofKind?_eq_none_iff.mp labelled)
        · refine ⟨_, token, _, split, ofToken, ?_⟩
          intro other earlier
          exact ofKind?_eq_none_iff.mpr (first other earlier)

/-- Of the accessors only `get` is not given a value. -/
theorem bindsValue_iff
    {kind : Kind}
    {keyword : Accessor}
    (found : ofKind? kind = some keyword) :
    keyword.bindsValue = true ↔
      kind ∈ [.setKeyword, .initKeyword, .addKeyword, .removeKeyword] := by
  cases kind <;> simp [ofKind?] at found <;> subst found <;> simp [Accessor.bindsValue]

/-- An accessor binds a value exactly if its keyword is not that of a getter. -/
theorem any_bindsValue_iff {accessor : Node} :
    (ofDeclaration? accessor).any bindsValue = true ↔ TakesValue accessor := by
  simp only [Option.any_eq_true, ofDeclaration?_eq_some_iff]
  constructor
  · rintro ⟨keyword, ⟨token, isKeyword, ofToken⟩, binds⟩
    exact ⟨token, isKeyword, (bindsValue_iff ofToken).mp binds⟩
  · rintro ⟨token, isKeyword, setter⟩
    have isSome : ofKind? token.kind ≠ none := by
      rw [Ne, ofKind?_eq_none_iff, not_not]
      exact List.mem_cons_of_mem _ setter
    obtain ⟨keyword, ofToken⟩ := Option.ne_none_iff_exists'.mp isSome
    exact ⟨keyword, ⟨token, isKeyword, ofToken⟩, (bindsValue_iff ofToken).mpr setter⟩

end Accessor
end HouseStyle
