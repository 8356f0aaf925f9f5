import HouseStyle.Proofs.Trees.Fetch
import HouseStyle.Workspace

/-!
# Why there is no answer

A search fails only fatally, and a configuration file only because it cannot be
read or is malformed.  So an engine for a workspace finds fault with a request
only if the path of the artifact is empty.
-/

namespace HouseStyle

variable {α β δ σ τ ω : Type}

/-- What is done with an answer does not change a failure. -/
theorem map_eq_error_iff
    {change : α → β}
    {result : Except Failure α}
    {failure : Failure} :
    result.map change = .error failure ↔ result = .error failure := by
  cases result <;> simp [Except.map]

/-- A search that gives no answer was withdrawn, or met with a fatal failure. -/
theorem Search.isFatal_of_scan
    [Scratch σ]
    {world : World ω}
    {classifier : Classifier δ σ}
    {rules : Rules}
    {scanned : List String}
    {state : SearchState σ ω}
    {candidates : List Artifact}
    {failure : Failure}
    (failed : (scan world classifier rules scanned state candidates).1 = .error failure) :
    failure.isFatal = true := by
  induction candidates generalizing scanned state with
  | nil => cases failed
  | cons candidate rest inductionHypothesis =>
      rw [scan] at failed
      split at failed
      · cases failed
        rfl
      split at failed
      · exact inductionHypothesis failed
      dsimp only at failed
      split at failed
      · cases failed
        rfl
      · split at failed
        · cases failed
          assumption
        · exact inductionHypothesis failed
      · exact inductionHypothesis failed
      · split at failed
        · exact inductionHypothesis failed
        · split at failed
          · cases failed
          · exact inductionHypothesis failed

namespace EditorConfig
namespace Lookup

variable
  {disk : Disk}
  {failure : Failure}

/-- A folder whose configuration file is at fault does not put the fault on the request. -/
theorem ne_invalidArgument_of_inspect
    {folder : Path}
    (failed : inspect disk folder = .error failure)
    (message : String) :
    failure ≠ .invalidArgument message := by
  rw [inspect] at failed
  split at failed
  · rw [File.read] at failed
    split at failed
    · cases failed
    · rename_i line fault _
      cases failed
      cases fault <;> simp [LineFault.failure]
  · cases failed
  · cases failed
    exact nofun

/-- Consulting folders fails in one of them. -/
theorem exists_inspect_of_consult
    {findings : Findings}
    {folders : List Path}
    (failed : (consult disk findings folders).1 = .error failure) :
    ∃ folder, inspect disk folder = .error failure := by
  induction folders generalizing findings with
  | nil => cases failed
  | cons folder rest inductionHypothesis =>
      rw [consult] at failed
      split at failed
      · rename_i cause loaded
        cases failed
        rw [load] at loaded
        split at loaded
        · cases loaded
        · split at loaded
          · rename_i seen
            cases loaded
            exact ⟨folder, seen⟩
          · cases loaded
      · exact inductionHypothesis failed
      · split at failed
        · cases failed
        · exact inductionHypothesis (map_eq_error_iff.mp failed)

theorem get_ne_invalidArgument
    (lookup : Lookup)
    (disk : Disk)
    (path key message : String) :
    (lookup.get disk path key).1 ≠ .error (.invalidArgument message) := by
  intro failed
  have consulted := map_eq_error_iff.mp (map_eq_error_iff.mp failed)
  obtain ⟨folder, inspected⟩ := exists_inspect_of_consult consulted
  exact ne_invalidArgument_of_inspect inspected message rfl

end Lookup
end EditorConfig

namespace Engine

/-- An engine that gives no answer for a path was failed by its store, or fatally by a search. -/
theorem isFatal_or_exists_get_of_infer
    {engine : Engine τ ω}
    {convention : Convention}
    {group : Group}
    {current : Artifact}
    {state : EngineState τ ω}
    {failure : Failure}
    (named : current.path ≠ "")
    (failed : (engine.infer convention group current state).1 = .error failure) :
    failure.isFatal = true ∨
      ∃ key preferences, (engine.store.get current.path key preferences).1 = .error failure := by
  rw [infer, if_neg named] at failed
  dsimp only at failed
  split at failed
  · rename_i asked
    cases failed
    exact .inr ⟨_, _, asked⟩
  · split at failed
    · exact .inl (Search.isFatal_of_scan failed)
    · have undetailed := map_eq_error_iff.mp failed
      unfold configuredDetail at undetailed
      split at undetailed
      · exact .inr ⟨_, _, map_eq_error_iff.mp undetailed⟩
      · cases undetailed

end Engine

/-- The engine for a workspace finds no fault with a request for an artifact that has a path. -/
theorem Workspace.infer_engine_ne_invalidArgument
    {parser : Parser}
    {convention : Convention}
    {group : Group}
    {current : Artifact}
    {state : EngineState (Disk × EditorConfig.Lookup) DiskState}
    (named : current.path ≠ "")
    (message : String) :
    ((engine parser).infer convention group current state).1 ≠
      .error (.invalidArgument message) := by
  intro failed
  obtain fatal | ⟨key, ⟨disk, lookup⟩, failed⟩ := Engine.isFatal_or_exists_get_of_infer named failed
  · cases fatal
  · exact lookup.get_ne_invalidArgument disk current.path key message failed

end HouseStyle
