import HouseStyle.Disk
import HouseStyle.Trees.Basic

/-!
# Sources of trees

Two worlds: one whose artifacts are read from a disk, and one that follows a
plan of what happens when the tree at a path is asked for.
-/

namespace HouseStyle

open Syntax

namespace Artifact

/-- The text of an artifact; some artifacts have none. -/
def readText (disk : Disk) (artifact : Artifact) : Except Failure (Option String) :=
  match artifact.content with
  | .inMemory text => .ok (some text)
  | .onDisk path =>
      match disk.read path with
      | .ok text => .ok (some text)
      | .error fault => .error (.ofRead artifact.path fault)
  | .unavailable => .ok none

/-- The tree of an artifact, parsed from its text. -/
def parse
    (parser : Parser)
    (disk : Disk)
    (artifact : Artifact) : Except Failure (Option Tree) :=
  match artifact.readText disk with
  | .error failure => .error failure
  | .ok none => .ok none
  | .ok (some text) => (parser artifact.path text).map some

end Artifact

/-- A disk, and whether the caller has withdrawn the request. -/
structure DiskState where
  /-- The disk. -/
  disk : Disk
  /-- The request has been withdrawn. -/
  cancelled : Bool

/-- The world in which artifacts are read from a disk and parsed. -/
def World.onDisk (parser : Parser) : World DiskState where
  poll := fun state => (state.cancelled, state)
  load := fun artifact state => (.settled (artifact.parse parser state.disk), state)

/-- What happens when the tree at a path is asked for. -/
inductive LoadPlan where
  /-- The text is parsed. -/
  | parse
  /-- There is no tree. -/
  | nothing
  /-- The same failure each time. -/
  | fail (failure : Failure)
  /-- A failure the first time; after that the text is parsed. -/
  | failOnce (failure : Failure)
  /-- The request is withdrawn and no answer comes. -/
  | withdraw
  /-- The request is withdrawn, and still the text is parsed. -/
  | withdrawAndParse
deriving DecidableEq, Repr

/-- The state of a world that follows a plan. -/
structure PlanState where
  /-- The request has been withdrawn. -/
  cancelled : Bool
  /-- The paths whose tree was asked for, latest first. -/
  asked : List String
  /-- The paths that have had their one failure. -/
  failed : List String

namespace PlanState

/-- A new request is made. -/
def begin (state : PlanState) (cancelled : Bool) : PlanState :=
  { state with cancelled := cancelled, asked := [] }

end PlanState

/-- The world that follows a plan for each path. -/
def World.planned
    (parser : Parser)
    (plan : String → LoadPlan) : World PlanState where
  poll := fun state => (state.cancelled, state)
  load := fun artifact state =>
    let state := { state with asked := artifact.path :: state.asked }
    let parsed := Reply.settled (artifact.parse parser ⟨[], []⟩)
    match plan artifact.path with
    | .parse => (parsed, state)
    | .nothing => (.settled (.ok none), state)
    | .fail failure => (.settled (.error failure), state)
    | .failOnce failure =>
        if state.failed.contains artifact.path then
          (parsed, state)
        else
          (.settled (.error failure), { state with failed := artifact.path :: state.failed })
    | .withdraw => (.withdrawn, { state with cancelled := true })
    | .withdrawAndParse => (parsed, { state with cancelled := true })

end HouseStyle
