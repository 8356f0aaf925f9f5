import HouseStyle.Json.Basic
import HouseStyle.Tally

/-!
# Verdicts and outcomes as JSON

A verdict is written as its name.  An outcome is written as an object with the
entry `verdict` and, for the positive verdict only, the entry `detail`.
Reading also takes a name as the only key of an object with the value `null`,
and an outcome as a list of the name of its verdict and its detail.
-/

namespace HouseStyle

namespace Verdict

/-- A verdict as JSON. -/
def toJson (verdict : Verdict) : Json :=
  .text verdict.name

/-- Reads a verdict. -/
def ofJson? : Json → Option Verdict
  | .text name => ofName? name
  | .object [(name, .null)] => ofName? name
  | _ => none

end Verdict

namespace Outcome

variable {δ : Type}

/-- The entries of an outcome, for an object that may hold more. -/
def entries (detail : δ → Json) : Outcome δ → List (String × Json)
  | yes value => [("verdict", Verdict.yes.toJson), ("detail", detail value)]
  | other => [("verdict", other.verdict.toJson)]

/-- An outcome as JSON. -/
def toJson (detail : δ → Json) (outcome : Outcome δ) : Json :=
  .object (outcome.entries detail)

/--
Puts a verdict and its detail together.  The positive verdict needs a detail
that can be read; the others take none, or `null`.
-/
def assemble?
    (readDetail? : Json → Option δ)
    (verdict : Verdict)
    (detail : Option Json) : Option (Outcome δ) :=
  match verdict, detail with
  | .yes, some value => (readDetail? value).map yes
  | .yes, none => none
  | .unknown, none | .unknown, some .null => some unknown
  | .no, none | .no, some .null => some no
  | .mixed, none | .mixed, some .null => some mixed
  | _, some _ => none

/-- Reads an outcome. -/
def ofJson? (readDetail? : Json → Option δ) : Json → Option (Outcome δ)
  | .object entries => do
      let verdict ← Verdict.ofJson? (← entries.lookup "verdict")
      assemble? readDetail? verdict (entries.lookup "detail")
  | .list [.text name, detail] => do
      assemble? readDetail? (← Verdict.ofName? name) (some detail)
  | _ => none

end Outcome

namespace Json

/-- Reads a truth value. -/
def bool? : Json → Option Bool
  | .bool value => some value
  | _ => none

end Json
end HouseStyle
