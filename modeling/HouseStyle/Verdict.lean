/-!
# Verdicts

What is known about a convention: nothing yet, that it is followed, that it
is not, or that the evidence disagrees.  Verdicts join like sets of signals:
`unknown` is the empty set and `mixed` holds both signals.
-/

namespace HouseStyle

/-- One piece of evidence speaks for a convention or against it. -/
inductive Signal where
  | yes
  | no
deriving DecidableEq, Repr

/-- What the evidence seen so far says about a convention. -/
inductive Verdict where
  | unknown
  | yes
  | no
  | mixed
deriving DecidableEq, Repr, Inhabited

namespace Verdict

/-- All verdicts. -/
def all : List Verdict :=
  [unknown, yes, no, mixed]

/-- The verdict of a single signal. -/
def ofSignal : Signal → Verdict
  | .yes => yes
  | .no => no

/-- The verdict of two bodies of evidence taken together. -/
def merge : Verdict → Verdict → Verdict
  | unknown, other => other
  | verdict, unknown => verdict
  | yes, yes => yes
  | no, no => no
  | _, _ => mixed

/-- The verdict after one more signal. -/
def update (verdict : Verdict) (signal : Signal) : Verdict :=
  verdict.merge (ofSignal signal)

/-- Some evidence has been seen. -/
def isKnown : Verdict → Bool
  | unknown => false
  | _ => true

/-- The name under which a verdict is reported. -/
def name : Verdict → String
  | unknown => "unknown"
  | yes => "yes"
  | no => "no"
  | mixed => "mixed"

/-- The verdict with a given name. -/
def ofName? (name : String) : Option Verdict :=
  all.find? (·.name == name)

end Verdict
end HouseStyle
