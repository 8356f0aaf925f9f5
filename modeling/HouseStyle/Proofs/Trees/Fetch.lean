import HouseStyle.Trees.Source

/-!
# What is fetched and what is kept

A tree that is kept is fetched without a question.  Otherwise the answer of the
world is taken leniently, a failure that is not fatal standing for the absence
of a tree, and the answer is kept unless it is a fatal failure.
-/

namespace HouseStyle

open Syntax

/-- Takes a failure that is not fatal for the absence of a tree. -/
def lenient : Except Failure (Option Tree) → Except Failure (Option Tree)
  | .ok tree? => .ok tree?
  | .error failure => if failure.isFatal then .error failure else .ok none

theorem lenient_lenient (result : Except Failure (Option Tree)) :
    lenient (lenient result) = lenient result := by
  cases result with
  | ok tree? => rfl
  | error failure =>
      by_cases fatal : failure.isFatal = true
      · simp only [lenient, if_pos fatal]
      · simp only [lenient, if_neg fatal]

/-- Keeps an answer that is no failure. -/
def Cells.keep
    (cells : Cells)
    (identity : Nat) : Except Failure (Option Tree) → Cells
  | .ok tree? => (identity, tree?) :: cells
  | .error _ => cells

theorem Cells.lookup_keep_ok
    (cells : Cells)
    (identity other : Nat)
    (tree? : Option Tree) :
    (cells.keep identity (.ok tree?)).lookup other =
      if other = identity then some tree? else cells.lookup other := by
  rw [keep, List.lookup_cons]
  by_cases same : other = identity
  · rw [if_pos same, beq_iff_eq.mpr same]
  · rw [if_neg same, beq_false_of_ne same]

/-- Keeping the answer for an artifact that nothing is kept for adds that answer alone. -/
theorem Cells.lookup_keep_iff
    {cells : Cells}
    {identity other : Nat}
    {result : Except Failure (Option Tree)}
    {tree? : Option Tree}
    (unknown : cells.lookup identity = none) :
    (cells.keep identity result).lookup other = some tree? ↔
      cells.lookup other = some tree? ∨ other = identity ∧ result = .ok tree? := by
  cases result with
  | error failure => simp [keep]
  | ok kept =>
      rw [lookup_keep_ok]
      by_cases same : other = identity
      · simp [same, unknown]
      · simp [same]

theorem lenient_eq_error_iff
    {result : Except Failure (Option Tree)}
    {failure : Failure} :
    lenient result = .error failure ↔ result = .error failure ∧ failure.isFatal = true := by
  cases result with
  | ok tree? => simp [lenient]
  | error cause =>
      by_cases fatal : cause.isFatal = true
      · rw [lenient, if_pos fatal]
        refine ⟨fun same => ⟨same, ?_⟩, And.left⟩
        cases same
        exact fatal
      · rw [lenient, if_neg fatal]
        constructor
        · intro impossible
          cases impossible
        · rintro ⟨same, otherFatal⟩
          cases same
          exact absurd otherFatal fatal

theorem lenient_eq_some_iff
    {result : Except Failure (Option Tree)}
    {tree : Tree} :
    lenient result = .ok (some tree) ↔ result = .ok (some tree) := by
  cases result with
  | ok tree? => rfl
  | error failure =>
      rw [lenient]
      split <;> simp

namespace World

variable
  {ω : Type}
  {world : World ω}
  {artifact : Artifact}
  {cells : Cells}
  {state : ω}

/-- All that can happen when a tree is fetched: it was kept, the request is withdrawn while the
answer is out, or the answer is taken leniently and kept. -/
theorem fetch_cases
    (world : World ω)
    (artifact : Artifact)
    (cells : Cells)
    (state : ω) :
    (∃ tree?, cells.lookup artifact.identity = some tree? ∧
        world.fetch artifact cells state = (.settled (.ok tree?), cells, state)) ∨
      (∃ next, world.load artifact state = (.withdrawn, next) ∧
        world.fetch artifact cells state = (.withdrawn, cells, next)) ∨
      ∃ result next, world.load artifact state = (.settled result, next) ∧
        world.fetch artifact cells state =
          (.settled (lenient result), cells.keep artifact.identity (lenient result), next) := by
  unfold fetch
  cases cells.lookup artifact.identity with
  | some tree? => exact .inl ⟨tree?, rfl, rfl⟩
  | none =>
      right
      rcases world.load artifact state with ⟨reply, next⟩
      cases reply with
      | withdrawn => exact .inl ⟨next, rfl, rfl⟩
      | settled result =>
          refine .inr ⟨result, next, rfl, ?_⟩
          cases result with
          | ok tree? => rfl
          | error failure =>
              simp only [lenient]
              split <;> rfl

/-- Only fatal failures are passed on. -/
theorem isFatal_of_fetch
    {failure : Failure}
    (failed : (world.fetch artifact cells state).1 = .settled (.error failure)) :
    failure.isFatal = true := by
  obtain ⟨tree?, -, fetched⟩ | ⟨next, -, fetched⟩ | ⟨result, next, -, fetched⟩ :=
    world.fetch_cases artifact cells state
  · rw [fetched] at failed
    cases failed
  · rw [fetched] at failed
    cases failed
  · rw [fetched] at failed
    exact (lenient_eq_error_iff.mp (Reply.settled.inj failed)).2

end World

/-- The world in which the trees are given. -/
def World.ofTrees (trees : Artifact → Except Failure (Option Tree)) : World Unit where
  poll := fun state => (false, state)
  load := fun artifact state => (.settled (trees artifact), state)

/-! ## Artifacts whose text cannot change -/

namespace Artifact

/-- The text of the artifact is at hand, or there is none. -/
def IsOffDisk (artifact : Artifact) : Prop :=
  ∀ path, artifact.content ≠ .onDisk path

theorem parse_of_isOffDisk
    {artifact : Artifact}
    (offDisk : artifact.IsOffDisk)
    (parser : Parser)
    (disk other : Disk) :
    artifact.parse parser disk = artifact.parse parser other := by
  unfold parse readText
  cases content : artifact.content with
  | inMemory text => rfl
  | onDisk path => exact absurd content (offDisk path)
  | unavailable => rfl

/-- Identities tell the artifacts of one list apart from those of another. -/
def ToldApart (artifacts others : List Artifact) : Prop :=
  ∀ artifact ∈ artifacts, ∀ other ∈ others,
    artifact.identity = other.identity → artifact = other

theorem ToldApart.of_subset
    {artifacts others fewer : List Artifact}
    (apart : ToldApart artifacts others)
    (subset : fewer ⊆ others) :
    ToldApart artifacts fewer :=
  fun artifact inside other present => apart artifact inside other (subset present)

/-- The answer for an artifact off disk: what the parser makes of its text. -/
def answer (parser : Parser) (artifact : Artifact) : Except Failure (Option Tree) :=
  lenient (artifact.parse parser ⟨[], []⟩)

end Artifact

/-- Every answer of the world is what the parser makes of the text of the artifact. -/
def World.Parses {ω : Type} (world : World ω) (parser : Parser) : Prop :=
  ∀ artifact state result next, world.load artifact state = (.settled result, next) →
    ∃ disk, result = artifact.parse parser disk

theorem World.onDisk_parses (parser : Parser) : (World.onDisk parser).Parses parser := by
  intro artifact state result next loaded
  cases loaded
  exact ⟨state.disk, rfl⟩

/-- What is kept for the artifacts of a list is what their texts give. -/
def Cells.Faithful
    (parser : Parser)
    (artifacts : List Artifact)
    (cells : Cells) : Prop :=
  ∀ artifact ∈ artifacts, ∀ tree?, cells.lookup artifact.identity = some tree? →
    artifact.answer parser = .ok tree?

theorem Cells.Faithful.keep
    {parser : Parser}
    {artifacts : List Artifact}
    {cells : Cells}
    {identity : Nat}
    {result : Except Failure (Option Tree)}
    (faithful : cells.Faithful parser artifacts)
    (own : ∀ artifact ∈ artifacts, artifact.identity = identity →
      artifact.answer parser = result) :
    (cells.keep identity result).Faithful parser artifacts := by
  cases result with
  | error failure => exact faithful
  | ok kept =>
      intro artifact inside tree? found
      rw [Cells.lookup_keep_ok] at found
      split at found
      · rename_i same
        rw [own artifact inside same, Option.some.inj found]
      · exact faithful artifact inside tree? found

namespace World

variable
  {ω : Type}
  {world : World ω}
  {parser : Parser}
  {artifacts : List Artifact}
  {cells : Cells}
  {asked : Artifact}
  {state : ω}

theorem Parses.lenient_eq_answer
    {result : Except Failure (Option Tree)}
    {next : ω}
    (parses : world.Parses parser)
    (offDisk : asked.IsOffDisk)
    (loaded : world.load asked state = (.settled result, next)) :
    lenient result = asked.answer parser := by
  obtain ⟨disk, rfl⟩ := parses asked state result next loaded
  rw [Artifact.answer, Artifact.parse_of_isOffDisk offDisk parser disk]

/-- Keeping the answer for any artifact leaves what is kept faithful, as long as identities tell
it apart from the artifacts of the list. -/
theorem Parses.faithful_fetch
    (parses : world.Parses parser)
    (offDisk : ∀ artifact ∈ artifacts, artifact.IsOffDisk)
    (apart : ∀ artifact ∈ artifacts, artifact.identity = asked.identity → artifact = asked)
    (faithful : cells.Faithful parser artifacts) :
    (world.fetch asked cells state).2.1.Faithful parser artifacts := by
  obtain ⟨tree?, -, fetched⟩ | ⟨next, -, fetched⟩ | ⟨result, next, loaded, fetched⟩ :=
    world.fetch_cases asked cells state
  · rw [fetched]
    exact faithful
  · rw [fetched]
    exact faithful
  · rw [fetched]
    refine faithful.keep fun artifact inside same => ?_
    obtain rfl := apart artifact inside same
    exact (parses.lenient_eq_answer (offDisk artifact inside) loaded).symm

end World
end HouseStyle
