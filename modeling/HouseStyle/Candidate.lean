import HouseStyle.Exclusion

/-!
# The order of candidates

A search looks at the current artifact first, then at its neighbours in the
same folder, then at what lies in folders below, and then at the rest of the
group, apart from build output.
-/

namespace HouseStyle
namespace Candidate

/-- The artifact lives in a folder below the given folders. -/
def isBelow (folders : List String) (artifact : Artifact) : Bool :=
  folders.length < artifact.folders.length && folders.isPrefixOf artifact.folders

/-- Keeps the first artifact of each identity. -/
def distinct (seen : List Nat) : List Artifact → List Artifact
  | [] => []
  | artifact :: rest =>
      if seen.contains artifact.identity then
        distinct seen rest
      else
        artifact :: distinct (artifact.identity :: seen) rest

/-- The candidates with repetitions: the current artifact and then three passes over the group. -/
def passes
    (rules : Rules)
    (group : Group)
    (current : Artifact) : List Artifact :=
  current ::
    ((group.artifacts.filter fun artifact => artifact.folders == current.folders) ++
      (group.artifacts.filter fun artifact => isBelow current.folders artifact) ++
      (group.artifacts.filter fun artifact => !rules.isBuildOutput artifact.folders))

/-- The candidates in the order in which a search looks at them. -/
def order
    (rules : Rules)
    (group : Group)
    (current : Artifact) : List Artifact :=
  distinct [] (passes rules group current)

end Candidate
end HouseStyle
