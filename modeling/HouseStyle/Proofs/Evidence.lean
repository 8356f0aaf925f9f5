import HouseStyle.Tally

/-!
# Joining evidence

Verdicts form a commutative monoid under `merge`, with `unknown` as its unit.
The verdict of a tally is therefore the join of the signals that went into it,
in whatever order, while its detail is that of the latest positive observation.
A positive verdict is never without a detail.
-/

namespace HouseStyle
namespace Verdict

@[simp] theorem merge_unknown (verdict : Verdict) :
    verdict.merge unknown = verdict := by
  cases verdict <;> rfl

@[simp] theorem unknown_merge (verdict : Verdict) :
    unknown.merge verdict = verdict := rfl

theorem merge_comm (left right : Verdict) :
    left.merge right = right.merge left := by
  cases left <;> cases right <;> rfl

theorem merge_assoc (first second third : Verdict) :
    (first.merge second).merge third = first.merge (second.merge third) := by
  cases first <;> cases second <;> cases third <;> rfl

theorem merge_right_comm (first second third : Verdict) :
    (first.merge second).merge third = (first.merge third).merge second := by
  rw [merge_assoc, merge_comm second third, ← merge_assoc]

variable {δ : Type}

/-- The verdict of a list of observations, merged one by one. -/
def join (observations : List (Observation δ)) : Verdict :=
  observations.foldl (fun verdict observation => verdict.update observation.signal) unknown

/-- Merging from any verdict on merges that verdict with the join of the list. -/
theorem foldl_update
    (observations : List (Observation δ))
    (verdict : Verdict) :
    observations.foldl (fun verdict observation => verdict.update observation.signal) verdict =
      verdict.merge (join observations) := by
  induction observations generalizing verdict with
  | nil => exact (merge_unknown verdict).symm
  | cons observation rest inductionHypothesis =>
      rw [join, List.foldl_cons, List.foldl_cons, inductionHypothesis, inductionHypothesis]
      simp only [update, unknown_merge, merge_assoc]

theorem join_cons
    (observation : Observation δ)
    (rest : List (Observation δ)) :
    join (observation :: rest) = (ofSignal observation.signal).merge (join rest) := by
  rw [join, List.foldl_cons, foldl_update, update, unknown_merge]

theorem join_append (left right : List (Observation δ)) :
    join (left ++ right) = (join left).merge (join right) := by
  rw [join, List.foldl_append, foldl_update]
  rfl

/-- The order in which observations are merged does not matter. -/
theorem join_perm
    {left right : List (Observation δ)}
    (rearranged : left.Perm right) :
    join left = join right := by
  apply rearranged.foldl_eq'
  intro first _ second _ verdict
  exact merge_right_comm verdict _ _

/-- A positive join has a positive observation in it. -/
theorem details_ne_nil_of_join_eq_yes
    {observations : List (Observation δ)}
    (positive : join observations = yes) :
    observations.filterMap Observation.detail? ≠ [] := by
  cases observations with
  | nil => cases positive
  | cons observation rest =>
      cases observation with
      | yes detail => exact List.cons_ne_nil detail _
      | no =>
          have negative (verdict : Verdict) : no.merge verdict ≠ yes := by
            cases verdict <;> decide
          exact absurd ((join_cons _ rest).symm.trans positive) (negative _)

/-! ## Verdicts as sets of signals -/

/-- The signals that a verdict stands for. -/
def holds : Verdict → Signal → Bool
  | unknown, _ => false
  | yes, signal => signal == .yes
  | no, signal => signal == .no
  | mixed, _ => true

/-- A verdict is told by its signals. -/
theorem eq_iff_holds {verdict other : Verdict} :
    verdict = other ↔
      verdict.holds .yes = other.holds .yes ∧ verdict.holds .no = other.holds .no := by
  cases verdict <;> cases other <;> decide

theorem holds_merge (left right : Verdict) (signal : Signal) :
    (left.merge right).holds signal = (left.holds signal || right.holds signal) := by
  cases left <;> cases right <;> cases signal <;> rfl

/-- A join holds a signal exactly if some observation has it. -/
theorem holds_join_iff
    {observations : List (Observation δ)}
    {signal : Signal} :
    (join observations).holds signal = true ↔
      ∃ observation ∈ observations, observation.signal = signal := by
  induction observations with
  | nil => simp [join, holds]
  | cons observation rest inductionHypothesis =>
      have first : (ofSignal observation.signal).holds signal = true ↔
          observation.signal = signal := by
        cases observation.signal <;> cases signal <;> decide
      rw [join_cons, holds_merge, Bool.or_eq_true, inductionHypothesis, first]
      simp

/--
A verdict judges the things that count by a property that they may have: it is
`unknown` if nothing counts, and else says whether all of them have the property,
none of them has it, or some have it and some do not.
-/
structure Judges
    {α : Type}
    (verdict : Verdict)
    (counts follows : α → Prop) : Prop where
  /-- Nothing counts. -/
  unknown_iff : verdict = .unknown ↔ ∀ item, ¬ counts item
  /-- All that counts has the property. -/
  yes_iff : verdict = .yes ↔ (∃ item, counts item) ∧ ∀ item, counts item → follows item
  /-- Nothing that counts has the property. -/
  no_iff : verdict = .no ↔ (∃ item, counts item) ∧ ∀ item, counts item → ¬ follows item
  /-- Some of what counts has the property and some has not. -/
  mixed_iff : verdict = .mixed ↔
    (∃ item, counts item ∧ follows item) ∧ ∃ item, counts item ∧ ¬ follows item

/-- The signals of a verdict tell how it judges. -/
theorem judges_of_holds
    {α : Type}
    {verdict : Verdict}
    {counts follows : α → Prop}
    (supported : verdict.holds .yes = true ↔ ∃ item, counts item ∧ follows item)
    (opposed : verdict.holds .no = true ↔ ∃ item, counts item ∧ ¬ follows item) :
    verdict.Judges counts follows := by
  have unsupported : verdict.holds .yes = false ↔ ∀ item, counts item → ¬ follows item := by
    rw [← Bool.not_eq_true, supported]
    simp only [not_exists, not_and]
  have unopposed : verdict.holds .no = false ↔ ∀ item, counts item → follows item := by
    rw [← Bool.not_eq_true, opposed]
    simp only [not_exists, not_and, Classical.not_not]
  constructor
  · refine eq_iff_holds.trans ((and_congr unsupported unopposed).trans ?_)
    grind
  · refine eq_iff_holds.trans ((and_congr supported unopposed).trans ?_)
    grind
  · refine eq_iff_holds.trans ((and_congr unsupported opposed).trans ?_)
    grind
  · exact eq_iff_holds.trans (and_congr supported opposed)

/-- The join of one observation for each of some items judges those items. -/
theorem judges_join_map
    {α : Type}
    (items : List α)
    (observe : α → Observation δ) :
    (join (items.map observe)).Judges (· ∈ items) fun item => (observe item).signal = .yes := by
  have opposes (item : α) : (observe item).signal = .no ↔ ¬ (observe item).signal = .yes := by
    cases (observe item).signal <;> decide
  have holds (signal : Signal) : (join (items.map observe)).holds signal = true ↔
      ∃ item ∈ items, (observe item).signal = signal := by
    rw [holds_join_iff]
    grind
  apply judges_of_holds
  · exact holds .yes
  · simp only [holds, opposes]

end Verdict

namespace Tally

variable {δ : Type}

/-- The verdict of a tally joins what was there with everything recorded since. -/
theorem verdict_recordAll
    (tally : Tally δ)
    (observations : List (Observation δ)) :
    (tally.recordAll observations).verdict = tally.verdict.merge (Verdict.join observations) := by
  induction observations generalizing tally with
  | nil => exact (Verdict.merge_unknown _).symm
  | cons observation rest inductionHypothesis =>
      rw [Verdict.join_cons, ← Verdict.merge_assoc]
      exact inductionHypothesis (tally.record observation)

/-- The detail of a tally is that of the latest positive observation. -/
theorem detail_recordAll
    (tally : Tally δ)
    (observations : List (Observation δ)) :
    (tally.recordAll observations).detail =
      (observations.filterMap Observation.detail?).getLast?.or tally.detail := by
  induction observations generalizing tally with
  | nil => rfl
  | cons observation rest inductionHypothesis =>
      have tail := inductionHypothesis (tally.record observation)
      rw [recordAll, List.foldl_cons, ← recordAll, tail]
      cases observation with
      | no => rfl
      | yes detail =>
          simp only [record, Observation.detail?, List.filterMap_cons, Option.some_or,
            List.getLast?_cons]
          cases (rest.filterMap Observation.detail?).getLast? <;> rfl

theorem recordAll_append
    (tally : Tally δ)
    (left right : List (Observation δ)) :
    tally.recordAll (left ++ right) = (tally.recordAll left).recordAll right :=
  List.foldl_append

/-- The outcome of a list of observations has their join as its verdict. -/
theorem verdict_outcome_recordAll_empty (observations : List (Observation δ)) :
    ((empty : Tally δ).recordAll observations).outcome.verdict = Verdict.join observations := by
  have verdict := verdict_recordAll (empty : Tally δ) observations
  have detail := detail_recordAll (empty : Tally δ) observations
  simp only [empty, Verdict.unknown_merge, Option.or_none] at verdict detail
  unfold outcome
  rw [empty, verdict, detail]
  cases positive : Verdict.join observations with
  | yes =>
      have present := Verdict.details_ne_nil_of_join_eq_yes positive
      cases last : (observations.filterMap Observation.detail?).getLast? with
      | none => exact absurd (List.getLast?_eq_none_iff.mp last) present
      | some detail => rfl
  | unknown => cases (observations.filterMap Observation.detail?).getLast? <;> rfl
  | no => cases (observations.filterMap Observation.detail?).getLast? <;> rfl
  | mixed => cases (observations.filterMap Observation.detail?).getLast? <;> rfl

/-- A positive outcome carries the detail of the latest positive observation. -/
theorem outcome_recordAll_empty_eq_yes_iff
    (observations : List (Observation δ))
    (detail : δ) :
    ((empty : Tally δ).recordAll observations).outcome = .yes detail ↔
      Verdict.join observations = .yes ∧
        (observations.filterMap Observation.detail?).getLast? = some detail := by
  have verdict := verdict_recordAll (empty : Tally δ) observations
  have latest := detail_recordAll (empty : Tally δ) observations
  simp only [empty, Verdict.unknown_merge, Option.or_none] at verdict latest
  unfold outcome
  rw [empty, verdict, latest]
  cases Verdict.join observations <;>
    cases (observations.filterMap Observation.detail?).getLast? <;>
    simp

end Tally
end HouseStyle
