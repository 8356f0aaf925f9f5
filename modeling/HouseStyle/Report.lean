import HouseStyle.Convention.Basic
import HouseStyle.Failure
import HouseStyle.Json.Printer
import HouseStyle.Outcome.Json
import HouseStyle.Search

/-!
# Reports

Answers, failures and the list of conventions as JSON documents.  Every report
begins with a status and the version of the format.
-/

namespace HouseStyle
namespace Report

/-- The version of the format. -/
def schemaVersion : String :=
  "1"

/-- A report with a status. -/
def withStatus (status : String) (entries : List (String × Json)) : Json :=
  .object ([("status", .text status), ("schema_version", .text schemaVersion)] ++ entries)

/-- The detail of a positive outcome as JSON. -/
def detail (detail : Detail) : Json :=
  detail.elim .null .bool

/-- How an outcome was reached, as JSON. -/
def origin : Origin → Json
  | .configured key source =>
      .object [("kind", .text "configured"), ("key", .text key), ("source", .text source)]
  | .artifact path => .object [("kind", .text "artifact"), ("path", .text path)]
  | .notFound => .object [("kind", .text "not_found")]

/-- The entries of an inference, for an object that may hold more. -/
def inferenceEntries (inference : Inference Detail) : List (String × Json) :=
  inference.outcome.entries detail ++
    [("origin", origin inference.origin), ("scanned", .texts inference.scanned)]

/-- What is known about a convention for a file. -/
structure Answer where
  /-- The convention. -/
  convention : Convention
  /-- The path of the file in its workspace. -/
  file : String
  /-- What is known, and how it was reached. -/
  inference : Inference Detail
deriving DecidableEq, Repr

/-- The report of an answer. -/
def ofAnswer (answer : Answer) : Json :=
  withStatus "ok"
    ([("convention", .text answer.convention.name),
      ("option_key", .text answer.convention.optionKey),
      ("file", .text answer.file)] ++ inferenceEntries answer.inference)

/-- One entry of the list of conventions. -/
def ofConvention (convention : Convention) : Json :=
  .object
    [("name", .text convention.name),
     ("option_key", .text convention.optionKey),
     ("description", .text convention.description)]

/-- The report of all conventions. -/
def conventions : Json :=
  withStatus "ok" [("conventions", .list (Convention.all.map ofConvention))]

/-- The report of a failure. -/
def ofFailure (failure : Failure) : Json :=
  withStatus "error"
    [("error", .object [("code", .number failure.code), ("message", .text failure.message)])]

end Report
end HouseStyle
