import HouseStyle.Proofs.Declaration.Names

/-!
# The numbers of arguments that a parameter list accepts

A parameter list accepts at least as many arguments as it has parameters without
a default value and, unless one of its parameters takes any number of arguments,
at most as many as it has parameters.  Both bounds are counted here on the
children of the list, and the arity of a method is shown to agree with them.
-/

namespace HouseStyle

open Syntax

namespace Parameter

/-- An entry of a parameter list needs an argument of its own. -/
def isRequired (entry : Node) : Bool :=
  entry.kind == .parameter && (!isMarkedOpen entry && !hasDefault entry)

/-- An entry of a parameter list takes any number of arguments. -/
def TakesAny (entry : Node) : Prop :=
  entry.kind = .parameterArray ∨ entry.kind = .parameter ∧ isMarkedOpen entry = true

/-- The entries of a parameter list take any number of arguments: one of them does, or a bare
`params` does together with the identifier after it. -/
def IsVariadic (entries : List Node) : Prop :=
  (∃ entry ∈ entries, TakesAny entry) ∨ ∃ identifier, FollowsParams entries identifier

/-- The entries of a parameter list accept a number of arguments. -/
def Accept (entries : List Node) (count : Nat) : Prop :=
  entries.countP isRequired ≤ count ∧
    (IsVariadic entries ∨ count ≤ entries.countP fun entry => entry.kind == .parameter)

/-- What counts closed parameters only counts entries of kind `parameter` only. -/
theorem countP_collect
    (counts : Bool → Bool → Bool)
    (closed : ∀ isOptional, counts true isOptional = false)
    (awaiting : Bool)
    (entries : List Node) :
    (collect awaiting entries).countP (fun parameter =>
        counts parameter.isOpen parameter.isOptional) =
      entries.countP fun entry =>
        entry.kind == .parameter && counts (isMarkedOpen entry) (hasDefault entry) := by
  induction entries generalizing awaiting with
  | nil => rfl
  | cons entry rest inductionHypothesis =>
      unfold collect
      rw [List.countP_cons]
      split
      · rename_i sort
        simp [List.countP_cons, inductionHypothesis, sort, plain]
      · rename_i sort
        simp [inductionHypothesis, sort, array, closed]
      · rename_i sort
        simp [inductionHypothesis, sort]
      · rename_i sort
        cases awaiting <;> simp [inductionHypothesis, sort, loose, closed]
      · rename_i noParameter _ _ _
        have other : (entry.kind == .parameter) = false := beq_false_of_ne noParameter
        simp [inductionHypothesis, other]

/-- Some parameter is open exactly if an entry is or a bare `params` finds its identifier. -/
theorem any_isOpen_collect_iff
    {awaiting : Bool}
    {entries : List Node} :
    (collect awaiting entries).any isOpen = true ↔
      (∃ entry ∈ entries, TakesAny entry) ∨ ∃ identifier, Awaited awaiting entries identifier := by
  induction entries generalizing awaiting with
  | nil => simp [collect, Awaited, IsFirst, FollowsParams]
  | cons entry rest inductionHypothesis =>
      rw [List.exists_mem_cons_iff]
      unfold collect
      split
      · rename_i sort
        simp only [awaited_cons_of_other (by simp [sort] : entry.kind ≠ .paramsKeyword)
          (by simp [sort]), List.any_cons, Bool.or_eq_true, inductionHypothesis, TakesAny, sort,
          plain, reduceCtorEq, false_or, true_and, or_assoc]
      · rename_i sort
        simp [TakesAny, sort, array]
      · rename_i sort
        have closed : ¬ TakesAny entry := by
          simp [TakesAny, sort]
        simp only [awaited_cons_of_params sort, inductionHypothesis, closed, false_or]
      · rename_i sort
        have closed : ¬ TakesAny entry := by
          simp [TakesAny, sort]
        simp only [awaited_cons_of_identifier sort, closed, false_or]
        cases awaiting with
        | false => simpa using inductionHypothesis
        | true => simp [loose]
      · rename_i noParameter noArray noParams noIdentifier
        have closed : ¬ TakesAny entry := by
          rintro (sort | ⟨sort, -⟩)
          · exact noArray sort
          · exact noParameter sort
        simp only [awaited_cons_of_other noParams noIdentifier, inductionHypothesis, closed,
          false_or]

theorem any_isOpen_ofList_iff {list : Node} :
    (ofList list).any isOpen = true ↔ IsVariadic list.children := by
  rw [ofList, any_isOpen_collect_iff]
  simp [Awaited, IsVariadic]

/-- Without an open entry every parameter stands for one argument. -/
theorem countP_closed_of_not_isVariadic
    {entries : List Node}
    (bounded : ¬ IsVariadic entries) :
    (entries.countP fun entry => entry.kind == .parameter && !isMarkedOpen entry) =
      entries.countP fun entry => entry.kind == .parameter := by
  apply List.countP_congr
  intro entry present
  have closed : ¬ TakesAny entry := fun takesAny => bounded (.inl ⟨entry, present, takesAny⟩)
  simp only [TakesAny, not_or, not_and, Bool.not_eq_true] at closed
  simpa using closed.2

end Parameter

namespace Arity

/-- The least number of arguments is never greater than the greatest one. -/
theorem least_le_most
    {parameters : List Parameter}
    {most : Nat}
    (bounded : (ofParameters parameters).most = some most) :
    (ofParameters parameters).least ≤ most := by
  simp only [ofParameters] at bounded ⊢
  split at bounded
  · cases bounded
  · obtain rfl := Option.some.inj bounded
    apply List.countP_mono_left
    intro parameter _ counted
    exact (Bool.and_eq_true_iff.mp counted).1

/-- A method accepts the numbers of arguments that its parameter list accepts. -/
theorem accepts_ofList_iff
    {list? : Option Node}
    {count : Nat} :
    (ofList list?).accepts count = true ↔
      Parameter.Accept (list?.elim [] Node.children) count := by
  cases list? with
  | none => simp [ofList, ofParameters, accepts, Parameter.Accept, Parameter.IsVariadic,
      Parameter.FollowsParams]
  | some list =>
      have required : (ofList (some list)).least = list.children.countP Parameter.isRequired :=
        Parameter.countP_collect (fun isOpen isOptional => !isOpen && !isOptional) (by simp) false _
      have bounded : (Parameter.ofList list).countP (fun parameter => !parameter.isOpen) =
          list.children.countP fun entry =>
            entry.kind == .parameter && !Parameter.isMarkedOpen entry :=
        Parameter.countP_collect (fun isOpen _ => !isOpen) (by simp) false _
      rw [accepts, Bool.and_eq_true, decide_eq_true_eq, required]
      refine and_congr_right fun _ => ?_
      simp only [ofList, ofParameters, Option.elim_some, bounded]
      by_cases variadic : Parameter.IsVariadic list.children
      · rw [if_pos (Parameter.any_isOpen_ofList_iff.mpr variadic)]
        simp [variadic]
      · rw [if_neg (mt Parameter.any_isOpen_ofList_iff.mp variadic),
          Parameter.countP_closed_of_not_isVariadic variadic]
        simp [variadic]

end Arity
end HouseStyle
