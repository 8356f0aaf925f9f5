import HouseStyle.Modifier

/-!
# Modifiers as they are written

A declaration has a modifier exactly if the keyword of the modifier is written
on it.  The keyword is the text of a modifier node between its blanks; only
`static` may also be a bare token.
-/

namespace HouseStyle

open Syntax

namespace Modifier

/-- The keyword of a modifier is written on a declaration. -/
inductive IsWrittenOn (keyword : String) (declaration : Node) : Prop
  /-- It is the text of a modifier. -/
  | modifier
      {child : Node}
      (present : child ∈ declaration.children)
      (isModifier : child.kind = .modifier)
      (spelled : String.ofList (Text.trim child.text.toList) = keyword)
  /-- It is the bare token `static`. -/
  | token
      {child : Node}
      (isStatic : keyword = "static")
      (present : child ∈ declaration.children)
      (isToken : child.isNamed = false)
      (isKeyword : child.kind = .staticKeyword)

theorem ofKeyword?_eq_some_iff
    {keyword : String}
    {modifier : Modifier} :
    ofKeyword? keyword = some modifier ↔ modifier.keyword = keyword := by
  constructor
  · intro found
    simpa using List.find?_some found
  · rintro rfl
    cases modifier <;> decide

/-- What a child of a declaration states, by its kind and its text. -/
theorem ofChild?_eq_some_iff
    {child : Node}
    {modifier : Modifier} :
    ofChild? child = some modifier ↔
      child.kind = .modifier ∧ String.ofList (Text.trim child.text.toList) = modifier.keyword ∨
      modifier = .static ∧ child.isNamed = false ∧ child.kind = .staticKeyword := by
  unfold ofChild?
  by_cases isModifier : child.kind = .modifier
  · rw [if_pos (beq_iff_eq.mpr isModifier), ofKeyword?_eq_some_iff, eq_comm]
    simp [isModifier]
  · rw [if_neg (by simpa using isModifier)]
    by_cases isToken : child.isNamed = false ∧ child.kind = .staticKeyword
    · rw [if_pos (by simpa using isToken), Option.some.injEq, eq_comm]
      simp [isToken]
    · rw [if_neg (by simpa using isToken)]
      simp [isModifier, isToken]

end Modifier

namespace Modifiers

/-- A declaration has a modifier exactly if its keyword is written on it. -/
theorem contains_of_iff
    {declaration : Node}
    {modifier : Modifier} :
    (of declaration).contains modifier = true ↔
      Modifier.IsWrittenOn modifier.keyword declaration := by
  rw [List.contains_iff_mem, of, List.mem_filterMap]
  simp only [Modifier.ofChild?_eq_some_iff]
  constructor
  · rintro ⟨child, present, ⟨isModifier, spelled⟩ | ⟨rfl, isToken, isKeyword⟩⟩
    · exact .modifier present isModifier spelled
    · exact .token rfl present isToken isKeyword
  · rintro (⟨present, isModifier, spelled⟩ | ⟨isStatic, present, isToken, isKeyword⟩)
    · exact ⟨_, present, .inl ⟨isModifier, spelled⟩⟩
    · have same : modifier = .static := by
        rw [← Option.some.injEq, ← Modifier.ofKeyword?_eq_some_iff.mpr rfl, isStatic]
        decide
      exact ⟨_, present, .inr ⟨same, isToken, isKeyword⟩⟩

/-- A declaration is without an instance if `static` or `const` is written on it. -/
theorem isStaticContext_of_iff {declaration : Node} :
    (of declaration).isStaticContext = true ↔
      Modifier.IsWrittenOn "static" declaration ∨ Modifier.IsWrittenOn "const" declaration := by
  rw [isStaticContext, Bool.or_eq_true, contains_of_iff, contains_of_iff]
  rfl

end Modifiers
end HouseStyle
