/-!
# JSON values

Values with objects whose entries keep the order in which they are written.
Numbers are the natural numbers; the reports hold no others.
-/

namespace HouseStyle

/-- A JSON value. -/
inductive Json where
  | null
  | bool (value : Bool)
  | number (value : Nat)
  | text (value : String)
  | list (items : List Json)
  | object (entries : List (String × Json))
deriving Inhabited

namespace Json

/-- The value stored under a key, the first one if the key is repeated. -/
def get? (key : String) : Json → Option Json
  | object entries => entries.lookup key
  | _ => none

/-- A list of texts. -/
def texts (items : List String) : Json :=
  list (items.map text)

end Json
end HouseStyle
