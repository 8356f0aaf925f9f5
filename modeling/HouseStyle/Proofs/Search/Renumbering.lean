import HouseStyle.Proofs.Search.Settling
import Mathlib.Data.List.Basic

/-!
# Identities do not show

Identities tell artifacts apart and do nothing else.  A copy of a group under
new identities has the copies of the candidates as its candidates, in the same
order, and a search over them gives the same result.
-/

namespace HouseStyle

open Syntax

variable {δ σ : Type}

/-- The artifact under a new identity. -/
def Artifact.renumber (rename : Nat → Nat) (artifact : Artifact) : Artifact :=
  { artifact with identity := rename artifact.identity }

/-- The group with new identities for its artifacts. -/
def Group.renumber (rename : Nat → Nat) (group : Group) : Group :=
  { group with artifacts := group.artifacts.map (Artifact.renumber rename) }

namespace Candidate

variable {rename : Nat → Nat}

/-- Under an injective renumbering the same repetitions are left out. -/
theorem distinct_map_renumber
    (injective : Function.Injective rename)
    (seen : List Nat)
    (artifacts : List Artifact) :
    distinct (seen.map rename) (artifacts.map (Artifact.renumber rename)) =
      (distinct seen artifacts).map (Artifact.renumber rename) := by
  induction artifacts generalizing seen with
  | nil => rfl
  | cons artifact rest inductionHypothesis =>
      have sameSeen : (seen.map rename).contains (artifact.renumber rename).identity =
          seen.contains artifact.identity := by
        rw [Bool.eq_iff_iff, List.contains_iff_mem, List.contains_iff_mem]
        exact List.mem_map_of_injective injective
      rw [List.map_cons, distinct, distinct, sameSeen]
      split
      · exact inductionHypothesis seen
      · rw [List.map_cons, ← inductionHypothesis, List.map_cons]
        rfl

theorem passes_renumber
    (rules : Rules)
    (group : Group)
    (current : Artifact) :
    passes rules (group.renumber rename) (current.renumber rename) =
      (passes rules group current).map (Artifact.renumber rename) := by
  unfold passes Group.renumber
  rw [List.map_cons, List.map_append, List.map_append, List.filter_map, List.filter_map,
    List.filter_map]
  rfl

/-- Identities say which candidates are the same, so an injective renumbering of them changes
neither the candidates nor their order. -/
theorem order_renumber
    (injective : Function.Injective rename)
    (rules : Rules)
    (group : Group)
    (current : Artifact) :
    order rules (group.renumber rename) (current.renumber rename) =
      (order rules group current).map (Artifact.renumber rename) := by
  rw [order, passes_renumber, order, ← distinct_map_renumber injective]
  rfl

end Candidate

namespace Search

variable
  {readings : Artifact → Except Failure (Option (Outcome δ))}
  {rename : Nat → Nat}

/-- A search that reads nothing from identities ends in the same way under other ones. -/
theorem settle_map_renumber
    (blind : ∀ artifact, readings (artifact.renumber rename) = readings artifact)
    (scanned : List String)
    (candidates : List Artifact) :
    settle readings scanned (candidates.map (Artifact.renumber rename)) =
      settle readings scanned candidates := by
  induction candidates generalizing scanned with
  | nil => rfl
  | cons candidate rest inductionHypothesis =>
      rw [List.map_cons, settle, settle, blind]
      cases readings candidate with
      | error failure => rfl
      | ok read =>
          cases read with
          | none => exact inductionHypothesis scanned
          | some outcome =>
              simp only [inductionHypothesis]
              rfl

end Search
end HouseStyle
