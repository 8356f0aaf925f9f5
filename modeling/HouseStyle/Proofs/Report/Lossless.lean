import HouseStyle.Proofs.Json.Unambiguous
import HouseStyle.Report

/-!
# Reports lose nothing

The document of an answer tells the answer, and that of a failure tells its code
and its message.  Answers and failures are told apart as well.
-/

namespace HouseStyle

theorem Convention.name_inj {convention other : Convention} :
    convention.name = other.name ↔ convention = other := by
  cases convention <;> cases other <;> simp [name]

theorem Json.texts_inj {items others : List String} :
    Json.texts items = Json.texts others ↔ items = others := by
  rw [Json.texts, Json.texts, Json.list.injEq]
  exact List.map_inj_right fun _ _ => Json.text.inj

namespace Report

/-- A detail is written as a truth value, and the lack of one as null. -/
theorem detail_inj {value other : Detail} : detail value = detail other ↔ value = other := by
  cases value <;> cases other <;> simp [detail]

theorem origin_inj {left right : Origin} : origin left = origin right ↔ left = right := by
  cases left <;> cases right <;> simp [origin]

/-- The verdict tells whether a detail follows, so the entries of an outcome can be told from
those after them. -/
theorem entries_append_inj
    {outcome other : Outcome Detail}
    {rest others : List (String × Json)} :
    outcome.entries detail ++ rest = other.entries detail ++ others ↔
      outcome = other ∧ rest = others := by
  cases outcome <;> cases other <;>
    simp [Outcome.entries, Verdict.toJson, Outcome.verdict, Verdict.name, detail_inj]

/-- The entries of an inference tell its outcome, its origin and the paths that it has scanned. -/
theorem inferenceEntries_inj {inference other : Inference Detail} :
    inferenceEntries inference = inferenceEntries other ↔ inference = other := by
  rw [inferenceEntries, inferenceEntries, entries_append_inj]
  cases inference
  cases other
  simp [origin_inj, Json.texts_inj]

/-- The status has a fixed place before the entries, so both can be read back. -/
theorem withStatus_inj
    {status other : String}
    {entries others : List (String × Json)} :
    withStatus status entries = withStatus other others ↔ status = other ∧ entries = others := by
  simp [withStatus]

/-- Different answers are written as different documents. -/
theorem ofAnswer_inj {answer other : Answer} :
    ofAnswer answer = ofAnswer other ↔ answer = other := by
  constructor
  · intro same
    obtain ⟨-, entries⟩ := withStatus_inj.mp same
    simp only [List.cons_append, List.nil_append, List.cons.injEq, Prod.mk.injEq, Json.text.injEq,
      true_and] at entries
    obtain ⟨convention, -, file, inference⟩ := entries
    cases answer
    cases other
    cases Convention.name_inj.mp convention
    cases file
    cases inferenceEntries_inj.mp inference
    rfl
  · rintro rfl
    rfl

/-- Of a failure the code and the message are written, and nothing else is told apart. -/
theorem ofFailure_inj {failure other : Failure} :
    ofFailure failure = ofFailure other ↔
      failure.code = other.code ∧ failure.message = other.message := by
  simp [ofFailure, withStatus_inj]

/--
The document of an answer tells the convention, the file, the outcome with its detail, its origin
and what was read; the document of a failure tells its code and its message; and no document is
that of an answer and of a failure.
-/
theorem documents_lose_nothing :
    (∀ answer other : Answer,
      (ofAnswer answer).document = (ofAnswer other).document ↔ answer = other) ∧
    (∀ failure other : Failure,
      (ofFailure failure).document = (ofFailure other).document ↔
        failure.code = other.code ∧ failure.message = other.message) ∧
    ∀ (answer : Answer) (failure : Failure),
      (ofAnswer answer).document ≠ (ofFailure failure).document := by
  refine ⟨?_, ?_, ?_⟩
  · intro answer other
    rw [Json.document_inj, ofAnswer_inj]
  · intro failure other
    rw [Json.document_inj, ofFailure_inj]
  · intro answer failure same
    have statuses := (withStatus_inj.mp (Json.document_inj.mp same)).1
    exact absurd statuses (by decide)

end Report
end HouseStyle
