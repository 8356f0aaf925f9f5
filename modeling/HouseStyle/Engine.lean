import HouseStyle.Convention.Rule
import HouseStyle.Preference
import HouseStyle.Search

/-!
# Inference

The engine answers what a convention is for an artifact.  A preference that
someone stated decides alone; otherwise a search for evidence does.  Between
answers the engine keeps working memory and trees.
-/

namespace HouseStyle

/-- What an engine consults. -/
structure Engine (τ ω : Type) where
  /-- The store of preferences. -/
  store : PreferenceStore τ
  /-- The artifacts that are left out. -/
  rules : Rules
  /-- The world that trees come from. -/
  world : World ω

/-- What an engine keeps between answers. -/
structure EngineState (τ ω : Type) where
  /-- The state of the store of preferences. -/
  preferences : τ
  /-- The pool of each convention. -/
  pools : Convention → Pool MemberTable
  /-- The trees kept so far. -/
  cells : Cells
  /-- The state of the world. -/
  world : ω

namespace EngineState

variable {τ ω : Type}

/-- An engine that has answered nothing yet. -/
def start
    (capacity : Nat)
    (preferences : τ)
    (world : ω) : EngineState τ ω where
  preferences := preferences
  pools := fun _ => Pool.make capacity
  cells := []
  world := world

/-- Replaces the pool of a convention. -/
def setPool
    (state : EngineState τ ω)
    (convention : Convention)
    (pool : Pool MemberTable) : EngineState τ ω :=
  { state with
    pools := fun other => if other = convention then pool else state.pools other }

end EngineState

namespace Engine

variable {τ ω : Type}

/-- Asks the store of preferences for the value of a key at a path. -/
def ask
    (engine : Engine τ ω)
    (path key : String)
    (state : EngineState τ ω) : Except Failure (Option OptionValue) × EngineState τ ω :=
  let asked := engine.store.get path key state.preferences
  (asked.1, { state with preferences := asked.2 })

/-- The verdict that a value states outright, with the source of the value. -/
def stated?
    (convention : Convention)
    (value : OptionValue) : Option (Verdict × OptionSource) :=
  if value.source.isExplicit then
    (convention.readOption? value.raw).map fun verdict => (verdict, value.source)
  else
    none

/-- The answer that configuration gives. -/
def configured
    (convention : Convention)
    (stated : Verdict × OptionSource)
    (detail : Detail) : Inference Detail where
  outcome := .ofVerdict stated.1 detail
  origin := .configured convention.optionKey stated.2.text
  scanned := []

/--
The detail of a configured answer.  For adjacent backing fields it has a key
of its own, and stands for no blank line where that key states nothing.
-/
def configuredDetail
    (engine : Engine τ ω)
    (convention : Convention)
    (path : String)
    (state : EngineState τ ω) : Except Failure Detail × EngineState τ ω :=
  match convention with
  | .backingFieldAdjacency =>
      let asked := engine.ask path Convention.blankLineKey state
      (asked.1.map fun value =>
        some ((value.bind fun value => Convention.readBool? value.raw).getD false), asked.2)
  | _ => (.ok none, state)

/-- Searches a group for evidence of a convention. -/
def searchFor
    (engine : Engine τ ω)
    (convention : Convention)
    (group : Group)
    (current : Artifact)
    (state : EngineState τ ω) : Except Failure (Inference Detail) × EngineState τ ω :=
  let searched :=
    Search.run engine.world convention.classifier engine.rules group current
      ⟨state.pools convention, state.cells, state.world⟩
  (searched.1,
    { state.setPool convention searched.2.pool with
      cells := searched.2.cells
      world := searched.2.world })

/-- What a convention is for an artifact of a group. -/
def infer
    (engine : Engine τ ω)
    (convention : Convention)
    (group : Group)
    (current : Artifact)
    (state : EngineState τ ω) : Except Failure (Inference Detail) × EngineState τ ω :=
  if current.path = "" then
    (.error (.invalidArgument "artifact path must not be empty"), state)
  else
    let asked := engine.ask current.path convention.optionKey state
    match asked.1 with
    | .error failure => (.error failure, asked.2)
    | .ok value =>
        match value.bind (stated? convention) with
        | none => engine.searchFor convention group current asked.2
        | some stated =>
            let detail := engine.configuredDetail convention current.path asked.2
            (detail.1.map (configured convention stated), detail.2)

/-- The start of a short description of an engine. -/
def describe (capacity : Nat) : String :=
  "StyleInference \x7b capacity: " ++ toString capacity

end Engine
end HouseStyle
