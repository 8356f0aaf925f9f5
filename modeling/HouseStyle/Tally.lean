import HouseStyle.Verdict

/-!
# Tallies of evidence

An observation is one piece of evidence; positive evidence carries a detail.
A tally sums up a sequence of observations, and its outcome is the verdict
together with the detail of the latest positive observation.
-/

namespace HouseStyle

/-- One piece of evidence for a convention, with a detail, or against it. -/
inductive Observation (δ : Type) where
  | yes (detail : δ)
  | no
deriving DecidableEq, Repr

/-- A verdict that carries a detail when it is positive. -/
inductive Outcome (δ : Type) where
  | unknown
  | yes (detail : δ)
  | no
  | mixed
deriving DecidableEq, Repr

/-- The running summary of a sequence of observations. -/
structure Tally (δ : Type) where
  /-- The join of the signals of all observations. -/
  verdict : Verdict
  /-- The detail of the latest positive observation. -/
  detail : Option δ
deriving DecidableEq, Repr

namespace Observation

variable {δ : Type}

/-- The signal of an observation, its detail forgotten. -/
def signal : Observation δ → Signal
  | yes _ => .yes
  | no => .no

/-- The detail of a positive observation. -/
def detail? : Observation δ → Option δ
  | yes detail => some detail
  | no => none

end Observation

namespace Outcome

variable {δ ε : Type}

/-- The verdict of an outcome, its detail forgotten. -/
def verdict : Outcome δ → Verdict
  | unknown => .unknown
  | yes _ => .yes
  | no => .no
  | mixed => .mixed

/-- The detail of a positive outcome. -/
def detail? : Outcome δ → Option δ
  | yes detail => some detail
  | _ => none

/-- Some evidence led to this outcome. -/
def isKnown (outcome : Outcome δ) : Bool :=
  outcome.verdict.isKnown

/-- Changes the detail. -/
def map (change : δ → ε) : Outcome δ → Outcome ε
  | unknown => unknown
  | yes detail => yes (change detail)
  | no => no
  | mixed => mixed

/-- The outcome with a verdict, with a detail for the positive one. -/
def ofVerdict (verdict : Verdict) (detail : δ) : Outcome δ :=
  match verdict with
  | .unknown => unknown
  | .yes => yes detail
  | .no => no
  | .mixed => mixed

end Outcome

namespace Tally

variable {δ : Type}

/-- The tally of no observations. -/
def empty : Tally δ where
  verdict := .unknown
  detail := none

/-- The tally after one more observation. -/
def record (tally : Tally δ) (observation : Observation δ) : Tally δ where
  verdict := tally.verdict.update observation.signal
  detail := observation.detail?.or tally.detail

/-- The tally after a sequence of observations. -/
def recordAll (tally : Tally δ) (observations : List (Observation δ)) : Tally δ :=
  observations.foldl record tally

/-- Forgets all observations. -/
def clear (_ : Tally δ) : Tally δ :=
  empty

/-- The tally is that of no observations. -/
def isEmpty (tally : Tally δ) : Bool :=
  tally.verdict == .unknown && tally.detail.isNone

/-- What the tally says; a positive verdict needs a detail to be reported. -/
def outcome (tally : Tally δ) : Outcome δ :=
  match tally.verdict, tally.detail with
  | .yes, some detail => .yes detail
  | .yes, none => .unknown
  | .unknown, _ => .unknown
  | .no, _ => .no
  | .mixed, _ => .mixed

end Tally
end HouseStyle
