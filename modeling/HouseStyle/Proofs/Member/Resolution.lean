import HouseStyle.Member.Basic

/-!
# Names that mean one member

A name resolves exactly when one entry among the members of a type has the name
and fits the way it is used.  Two entries that do, wherever they stand, leave
the name without a meaning.
-/

namespace HouseStyle

open Syntax

namespace Member

/-- A member is the only entry of a list with a property. -/
def IsOnly
    (members : List Member)
    (wanted : Member → Prop)
    (member : Member) : Prop :=
  ∃ before after, members = before ++ member :: after ∧ wanted member ∧
    ∀ other ∈ before ++ after, ¬ wanted other

theorem IsOnly.mem
    {members : List Member}
    {wanted : Member → Prop}
    {member : Member}
    (only : IsOnly members wanted member) :
    member ∈ members := by
  obtain ⟨before, after, rfl, -, -⟩ := only
  exact List.mem_append_right before List.mem_cons_self

/-- Being the only one depends on what is wanted, not on how that is said. -/
theorem isOnly_congr
    {members : List Member}
    {wanted required : Member → Prop}
    {member : Member}
    (same : ∀ other, wanted other ↔ required other) :
    IsOnly members wanted member ↔ IsOnly members required member := by
  simp only [IsOnly, same]

theorem only?_eq_some_iff {members : List Member} {member : Member} :
    only? members = some member ↔ members = [member] := by
  unfold only?
  split
  · rw [Option.some.injEq, List.cons.injEq, and_iff_left rfl]
  · rename_i notSingle
    constructor
    · intro found
      cases found
    · intro single
      exact absurd single (notSingle member)

/-- One member is left after a filter exactly if it is the only one of its sort. -/
theorem only?_filter_eq_some_iff
    {members : List Member}
    {wanted : Member → Bool}
    {member : Member} :
    only? (members.filter wanted) = some member ↔
      IsOnly members (fun other => wanted other = true) member := by
  rw [only?_eq_some_iff]
  constructor
  · intro single
    obtain ⟨before, after, rfl, nothingBefore, isWanted, rest⟩ :=
      List.filter_eq_cons_iff.mp single
    refine ⟨before, after, rfl, isWanted, ?_⟩
    intro other present
    rcases List.mem_append.mp present with earlier | later
    · exact nothingBefore other earlier
    · exact List.filter_eq_nil_iff.mp rest other later
  · rintro ⟨before, after, rfl, isWanted, others⟩
    have nothingBefore : before.filter wanted = [] :=
      List.filter_eq_nil_iff.mpr fun other present =>
        others other (List.mem_append_left after present)
    have nothingAfter : after.filter wanted = [] :=
      List.filter_eq_nil_iff.mpr fun other present =>
        others other (List.mem_append_right before present)
    rw [List.filter_append, List.filter_cons_of_pos isWanted, nothingBefore, nothingAfter,
      List.nil_append]

/-- A name means the only member that has it and fits the usage. -/
theorem resolve?_eq_some_iff
    {name : String}
    {usage : Usage}
    {members : List Member}
    {member : Member} :
    resolve? name usage members = some member ↔
      IsOnly members (fun other => other.name = name ∧ other.fits usage = true) member := by
  rw [resolve?, named, List.filter_filter, only?_filter_eq_some_iff]
  apply isOnly_congr
  intro other
  rw [Bool.and_eq_true, beq_iff_eq, and_comm]

/-- All members but methods can be used as a value. -/
theorem fits_value_iff {member : Member} :
    member.fits .value = true ↔ member.kind ≠ .method := by
  rw [fits, bne_iff_ne]

/-- Only methods can be called, and only with a number of arguments that they accept. -/
theorem fits_invocation_iff {member : Member} {count : Nat} :
    member.fits (.invocation count) = true ↔
      member.kind = .method ∧ ∃ arity, member.arity = some arity ∧ arity.accepts count = true := by
  rw [fits, Bool.and_eq_true, beq_iff_eq, Option.any_eq_true]

end Member
end HouseStyle
