import HouseStyle.Proofs.Evidence
import Mathlib.Data.List.Induction

/-!
# What a tally tells of its observations

A tally is used again and again: observations are recorded, and from time to
time it is cleared.  Its verdict and its detail are kept apart, and the detail
outlives evidence against the convention.  Still, after any sequence of
operations the tally says no more and no less than the observations recorded
since it was last cleared.
-/

namespace HouseStyle
namespace Tally

variable {δ : Type}

/-- What can be done with a tally. -/
inductive Operation (δ : Type) where
  /-- One more observation is recorded. -/
  | record (observation : Observation δ)
  /-- All observations are forgotten. -/
  | clear

/-- The observation that an operation records. -/
def Operation.observation? : Operation δ → Option (Observation δ)
  | record observation => some observation
  | clear => none

/-- The tally after one operation. -/
def perform (tally : Tally δ) : Operation δ → Tally δ
  | .record observation => tally.record observation
  | .clear => tally.clear

/-- The tally after a sequence of operations on an empty one. -/
def after (operations : List (Operation δ)) : Tally δ :=
  operations.foldl perform empty

/-- The observations that a sequence of operations records after the last time it clears. -/
def sinceClear (operations : List (Operation δ)) : List (Observation δ) :=
  ((operations.reverse.takeWhile fun operation => operation.observation?.isSome).filterMap
    Operation.observation?).reverse

theorem sinceClear_record
    (operations : List (Operation δ))
    (observation : Observation δ) :
    sinceClear (operations ++ [.record observation]) = sinceClear operations ++ [observation] := by
  simp [sinceClear, Operation.observation?]

theorem sinceClear_clear (operations : List (Operation δ)) :
    sinceClear (operations ++ [.clear]) = [] := by
  simp [sinceClear, Operation.observation?]

/-- Nothing remains of what was recorded before a tally was cleared. -/
theorem after_eq_recordAll (operations : List (Operation δ)) :
    after operations = empty.recordAll (sinceClear operations) := by
  induction operations using List.reverseRecOn with
  | nil => rfl
  | append_singleton earlier operation inductionHypothesis =>
      rw [after, List.foldl_append, ← after, inductionHypothesis]
      cases operation with
      | record observation =>
          rw [sinceClear_record, recordAll_append]
          rfl
      | clear =>
          rw [sinceClear_clear]
          rfl

/-- Observations that are all positive are told by their details. -/
theorem eq_map_details
    {observations : List (Observation δ)}
    (positive : ∀ observation ∈ observations, observation.signal = .yes) :
    observations = (observations.filterMap Observation.detail?).map .yes := by
  induction observations with
  | nil => rfl
  | cons observation rest inductionHypothesis =>
      have others := inductionHypothesis fun other present =>
        positive other (List.mem_cons_of_mem _ present)
      cases observation with
      | no =>
          have opposed : Signal.no = Signal.yes := positive .no List.mem_cons_self
          cases opposed
      | yes detail =>
          rw [List.filterMap_cons, Observation.detail?, List.map_cons, ← others]

/--
A tally sums up a list of observations: its verdict is told by the signals in the
list, in whatever order and from whatever parts it is put together, and a positive
outcome carries the detail of the last observation.
-/
structure Summarizes
    (tally : Tally δ)
    (observations : List (Observation δ)) : Prop where
  /-- Nothing was observed. -/
  unknown_iff : tally.verdict = .unknown ↔ observations = []
  /-- Something was observed, and all of it was positive. -/
  yes_iff : tally.verdict = .yes ↔
    observations ≠ [] ∧ ∀ observation ∈ observations, observation.signal = .yes
  /-- Something was observed, and all of it was negative. -/
  no_iff : tally.verdict = .no ↔
    observations ≠ [] ∧ ∀ observation ∈ observations, observation.signal = .no
  /-- Something positive was observed and something negative. -/
  mixed_iff : tally.verdict = .mixed ↔
    (∃ observation ∈ observations, observation.signal = .yes) ∧
      ∃ observation ∈ observations, observation.signal = .no
  /-- The observations in another order have the same verdict. -/
  rearranged : ∀ others : List (Observation δ), others.Perm observations →
    (empty.recordAll others).verdict = tally.verdict
  /-- The verdicts of two parts of the observations merge to the verdict of the whole. -/
  merged : ∀ left right : List (Observation δ), (left ++ right).Perm observations →
    (empty.recordAll left).verdict.merge (empty.recordAll right).verdict = tally.verdict
  /-- The outcome has the verdict of the tally. -/
  verdict_outcome : tally.outcome.verdict = tally.verdict
  /-- A positive verdict is never without a detail. -/
  detailed : tally.verdict = .yes → tally.detail ≠ none
  /-- A positive outcome carries the detail of the last observation. -/
  outcome_eq_yes_iff : ∀ detail, tally.outcome = .yes detail ↔
    tally.verdict = .yes ∧ observations.getLast? = some (.yes detail)

theorem verdict_recordAll_empty (observations : List (Observation δ)) :
    (empty.recordAll observations).verdict = Verdict.join observations :=
  (verdict_recordAll empty observations).trans (Verdict.unknown_merge _)

theorem verdict_outcome_recordAll (observations : List (Observation δ)) :
    (empty.recordAll observations).outcome.verdict = (empty.recordAll observations).verdict := by
  rw [verdict_outcome_recordAll_empty, verdict_recordAll_empty]

/-- A positive verdict is never without a detail, or it would not show in the outcome. -/
theorem detail_ne_none_of_verdict_outcome
    {tally : Tally δ}
    (shown : tally.outcome.verdict = tally.verdict)
    (positive : tally.verdict = .yes) :
    tally.detail ≠ none := by
  intro missing
  have hidden : tally.outcome = .unknown := by
    rw [outcome, positive, missing]
  rw [hidden, positive] at shown
  cases shown

/-- The tally of a list of observations sums them up. -/
theorem summarizes_recordAll (observations : List (Observation δ)) :
    (empty.recordAll observations).Summarizes observations := by
  have judged := Verdict.judges_join_map observations id
  rw [List.map_id, ← verdict_recordAll_empty] at judged
  have negative (observation : Observation δ) :
      ¬ (id observation).signal = .yes ↔ observation.signal = .no := by
    cases observation <;> simp [Observation.signal]
  have nonempty : (∃ observation, observation ∈ observations) ↔ observations ≠ [] :=
    ⟨fun ⟨_, present⟩ => List.ne_nil_of_mem present, List.exists_mem_of_ne_nil observations⟩
  have shown := verdict_outcome_recordAll observations
  constructor
  case unknown_iff => exact judged.unknown_iff.trans List.eq_nil_iff_forall_not_mem.symm
  case yes_iff =>
    rw [judged.yes_iff, nonempty]
    rfl
  case no_iff =>
    rw [judged.no_iff, nonempty]
    simp only [negative]
  case mixed_iff =>
    rw [judged.mixed_iff]
    simp only [negative]
    rfl
  case rearranged =>
    intro others rearranged
    rw [verdict_recordAll_empty, verdict_recordAll_empty, Verdict.join_perm rearranged]
  case merged =>
    intro left right parts
    rw [verdict_recordAll_empty, verdict_recordAll_empty, verdict_recordAll_empty,
      ← Verdict.join_append, Verdict.join_perm parts]
  case verdict_outcome => exact shown
  case detailed => exact detail_ne_none_of_verdict_outcome shown
  case outcome_eq_yes_iff =>
    intro detail
    rw [outcome_recordAll_empty_eq_yes_iff, verdict_recordAll_empty]
    refine and_congr_right fun positive => ?_
    -- All observations are positive, so the last of them is the last that has a detail.
    rw [← verdict_recordAll_empty] at positive
    have told := eq_map_details (judged.yes_iff.mp positive).2
    have last := (congrArg List.getLast? told).trans List.getLast?_map
    rw [last]
    cases (observations.filterMap Observation.detail?).getLast? <;> simp

/--
A tally is a faithful summary of its evidence: after any sequence of operations it
sums up the observations recorded since it was last cleared.
-/
theorem after_summarizes_sinceClear (operations : List (Operation δ)) :
    (after operations).Summarizes (sinceClear operations) := by
  rw [after_eq_recordAll]
  exact summarizes_recordAll (sinceClear operations)

end Tally
end HouseStyle
