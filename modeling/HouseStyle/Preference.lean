import HouseStyle.Failure
import HouseStyle.Text.Blank
import HouseStyle.Text.Case
import HouseStyle.Text.Split

/-!
# Stated preferences

A preference is a value under a key, with a note of who stated it.  Keys
ignore the case of letters, and a value may end in a severity after a colon,
which is dropped.
-/

namespace HouseStyle

/-- Who stated a value. -/
inductive OptionSource where
  /-- A configuration file at a path. -/
  | editorConfig (path : String)
  /-- The hosting application. -/
  | host
  /-- Nobody: the value is a default. -/
  | builtIn
deriving DecidableEq, Repr

namespace OptionSource

/-- Someone stated the value on purpose. -/
def isExplicit : OptionSource → Bool
  | builtIn => false
  | _ => true

/-- The source as it is shown. -/
def text : OptionSource → String
  | editorConfig path => path
  | host => "host"
  | builtIn => "default"

/-- The sort of source. -/
def kind : OptionSource → String
  | editorConfig _ => "editorconfig"
  | host => "host"
  | builtIn => "default"

end OptionSource

/-- A value with a note of who stated it. -/
structure OptionValue where
  /-- The value without its severity. -/
  raw : String
  /-- Who stated it. -/
  source : OptionSource
deriving DecidableEq, Repr

/-- Drops the severity of a value, and blanks around what is left. -/
def stripSeverity (value : String) : String :=
  String.ofList (Text.trim
    (((Text.cutFirst? ':' value.toList).map Prod.fst).getD value.toList))

/-- A key with its letters in small case. -/
def plainKey (key : String) : String :=
  String.ofList (Text.lower key.toList)

/-- Values under keys; each key occurs at most once. -/
structure Properties where
  /-- The keys with their values. -/
  entries : List (String × OptionValue)
deriving DecidableEq, Repr

namespace Properties

/-- No values. -/
def empty : Properties where
  entries := []

/-- The value under a key. -/
def get? (properties : Properties) (key : String) : Option OptionValue :=
  properties.entries.lookup key

/-- Removes the value under a key. -/
def erase (properties : Properties) (key : String) : Properties where
  entries := properties.entries.filter fun entry => entry.1 != key

/-- Puts a value under a key, in the place of the one that was there. -/
def insert
    (properties : Properties)
    (key : String)
    (value : OptionValue) : Properties where
  entries := (key, value) :: (properties.erase key).entries

end Properties

/-- A store of preferences, asked for the value of a key at a path; it may keep a state. -/
structure PreferenceStore (τ : Type) where
  /-- The value under a key for the artifact at a path. -/
  get : String → String → τ → Except Failure (Option OptionValue) × τ

namespace PreferenceStore

/-- The store without any values. -/
def silent {τ : Type} : PreferenceStore τ where
  get := fun _ _ state => (.ok none, state)

/-- The store whose state is a set of values that hold at every path. -/
def inMemory : PreferenceStore Properties where
  get := fun _ key properties => (.ok (properties.get? (plainKey key)), properties)

end PreferenceStore

namespace Properties

/-- States a value under a key, whatever the case of its letters. -/
def state
    (properties : Properties)
    (source : OptionSource)
    (key value : String) : Properties :=
  properties.insert (plainKey key) ⟨stripSeverity value, source⟩

end Properties
end HouseStyle
