import HouseStyle.EditorConfig.File
import HouseStyle.Proofs.Text.Cutting
import Mathlib.Data.List.Forall2

/-!
# The grammar of configuration lines

What a line says, told by what stands in it once blanks are taken off its ends.
The reader of lines accepts exactly this grammar, and it reads a text line by
line.
-/

namespace HouseStyle
namespace EditorConfig

/-- What a line says. -/
inductive Tells (line : List Char) : Line → Prop where
  /-- A line of blanks says nothing. -/
  | blank
      (empty : Text.trim line = []) :
      Tells line .silent
  /-- A line that starts with `#` or `;` says nothing. -/
  | remark
      {mark : Char}
      {rest : List Char}
      (marked : Text.trim line = mark :: rest)
      (isMark : mark = '#' ∨ mark = ';') :
      Tells line .silent
  /-- A line in brackets begins a section, with a pattern that can be read and is not too deep. -/
  | header
      {pattern : List Char}
      {glob : Glob}
      (bracketed : Text.trim line = '[' :: (pattern ++ [']']))
      (compiled : readPattern (Text.trim pattern) = .ok glob)
      (shallow : glob.isTooDeep = false) :
      Tells line (.header glob)
  /-- Any other line states the value after its first equals sign under the key before it. -/
  | property
      {first : Char}
      {key value : List Char}
      (split : Text.trim line = key ++ '=' :: value)
      (isFirst : '=' ∉ key)
      (starts : (Text.trim line).head? = some first)
      (isPlain : first ≠ '#' ∧ first ≠ ';' ∧ first ≠ '[') :
      Tells line (.property (String.ofList (Text.lower (Text.trim key)))
        (String.ofList (Text.trim value)))

/-- Every fault but a deep pattern is reported, with the line and in words. -/
theorem LineFault.failure_of_ne
    {fault : LineFault}
    (reported : fault ≠ .deepPattern)
    (path : Path)
    (number : Nat) :
    fault.failure path number = .misconfigured path.text number fault.message := by
  cases fault with
  | deepPattern => exact absurd rfl reported
  | _ => rfl

theorem readProperty_eq_ok_iff
    {text : List Char}
    {line : Line} :
    readProperty text = .ok line ↔
      ∃ key value, text = key ++ '=' :: value ∧ '=' ∉ key ∧
        line = .property (String.ofList (Text.lower (Text.trim key)))
          (String.ofList (Text.trim value)) := by
  unfold readProperty
  constructor
  · intro read
    split at read
    · cases read
    · rename_i key value cut
      obtain ⟨split, isFirst⟩ := Text.cutFirst?_eq_some_iff.mp cut
      cases read
      exact ⟨key, value, split, isFirst, rfl⟩
  · rintro ⟨key, value, split, isFirst, rfl⟩
    rw [Text.cutFirst?_eq_some_iff.mpr ⟨split, isFirst⟩]

theorem readTrimmed_of_plain
    {first : Char}
    {rest : List Char}
    (isPlain : first ≠ '#' ∧ first ≠ ';' ∧ first ≠ '[') :
    readTrimmed (first :: rest) = readProperty (first :: rest) := by
  unfold readTrimmed
  split <;> simp_all

theorem readTrimmed_of_bracketed (pattern : List Char) :
    readTrimmed ('[' :: (pattern ++ [']'])) = readHeader (Text.trim pattern) := by
  rw [readTrimmed, Text.dropEnd?_eq_some_iff.mpr rfl]

theorem readHeader_of_error
    {pattern : List Char}
    {fault : LineFault}
    (wrong : readPattern pattern = .error fault) :
    readHeader pattern = .error fault := by
  rw [readHeader, wrong]
  rfl

theorem readHeader_of_ok
    {pattern : List Char}
    {glob : Glob}
    (compiled : readPattern pattern = .ok glob) :
    readHeader pattern = if glob.isTooDeep then .error .deepPattern else .ok (.header glob) := by
  rw [readHeader, compiled]
  rfl

theorem readHeader_eq_ok_iff
    {pattern : List Char}
    {line : Line} :
    readHeader pattern = .ok line ↔
      ∃ glob, readPattern pattern = .ok glob ∧ glob.isTooDeep = false ∧ line = .header glob := by
  cases compiled : readPattern pattern with
  | error fault => simp [readHeader_of_error compiled]
  | ok glob =>
      rw [readHeader_of_ok compiled]
      cases deep : glob.isTooDeep <;> simp [deep, @eq_comm _ line]

theorem readHeader_eq_error_iff
    {pattern : List Char}
    {fault : LineFault} :
    readHeader pattern = .error fault ↔
      readPattern pattern = .error fault ∨
      ∃ glob, readPattern pattern = .ok glob ∧ glob.isTooDeep = true ∧ fault = .deepPattern := by
  cases compiled : readPattern pattern with
  | error wrong => simp [readHeader_of_error compiled]
  | ok glob =>
      rw [readHeader_of_ok compiled]
      cases deep : glob.isTooDeep <;> simp [deep, @eq_comm _ fault]

/-- A line that is not empty, no remark and no header starts with a plain character. -/
theorem exists_plain_start
    {line : List Char}
    (notEmpty : line ≠ [])
    (notHash : ∀ rest, line ≠ '#' :: rest)
    (notSemicolon : ∀ rest, line ≠ ';' :: rest)
    (notBracket : ∀ rest, line ≠ '[' :: rest) :
    ∃ first, line.head? = some first ∧ first ≠ '#' ∧ first ≠ ';' ∧ first ≠ '[' := by
  obtain ⟨first, rest, rfl⟩ := List.exists_cons_of_ne_nil notEmpty
  refine ⟨first, rfl, ?_, ?_, ?_⟩
  · rintro rfl
    exact notHash rest rfl
  · rintro rfl
    exact notSemicolon rest rfl
  · rintro rfl
    exact notBracket rest rfl

/-- The reader of lines accepts exactly the grammar. -/
theorem readLine_eq_ok_iff
    {text : List Char}
    {line : Line} :
    readLine text = .ok line ↔ Tells text line := by
  unfold readLine
  constructor
  · intro read
    unfold readTrimmed at read
    split at read
    · rename_i empty
      cases read
      exact .blank empty
    · rename_i marked
      cases read
      exact .remark marked (Or.inl rfl)
    · rename_i marked
      cases read
      exact .remark marked (Or.inr rfl)
    · rename_i rest opened
      split at read
      · cases read
      · rename_i pattern closed
        rw [Text.dropEnd?_eq_some_iff] at closed
        subst closed
        obtain ⟨glob, compiled, shallow, rfl⟩ := readHeader_eq_ok_iff.mp read
        exact .header opened compiled shallow
    · rename_i notEmpty notHash notSemicolon notBracket
      obtain ⟨key, value, split, isFirst, rfl⟩ := readProperty_eq_ok_iff.mp read
      obtain ⟨first, starts, isPlain⟩ :=
        exists_plain_start notEmpty notHash notSemicolon notBracket
      exact .property split isFirst starts isPlain
  · intro tells
    cases tells with
    | blank empty => rw [empty, readTrimmed]
    | remark marked isMark =>
        rcases isMark with rfl | rfl <;> rw [marked, readTrimmed]
    | header bracketed compiled shallow =>
        rw [bracketed, readTrimmed_of_bracketed]
        exact readHeader_eq_ok_iff.mpr ⟨_, compiled, shallow, rfl⟩
    | property split isFirst starts isPlain =>
        have read := readProperty_eq_ok_iff.mpr ⟨_, _, split, isFirst, rfl⟩
        obtain ⟨rest, shape⟩ := List.head?_eq_some_iff.mp starts
        rw [shape] at read ⊢
        rw [readTrimmed_of_plain isPlain, read]

/-- The key of a stated value is in small letters. -/
theorem Tells.lower_key
    {text : List Char}
    {key value : String}
    (tells : Tells text (.property key value)) :
    Text.lower key.toList = key.toList := by
  cases tells
  simp [Text.lower_lower]

/-- Lines are read one by one. -/
theorem readLines_eq_ok_iff
    {number : Nat}
    {texts : List (List Char)}
    {lines : List Line} :
    readLines number texts = .ok lines ↔ List.Forall₂ Tells texts lines := by
  induction texts generalizing number lines with
  | nil =>
      rw [readLines, List.forall₂_nil_left_iff, Except.ok.injEq, eq_comm]
  | cons text rest inductionHypothesis =>
      rw [readLines, List.forall₂_cons_left_iff]
      constructor
      · intro read
        cases first : readLine text with
        | error fault =>
            rw [first] at read
            cases read
        | ok line =>
            rw [first] at read
            cases others : readLines (number + 1) rest with
            | error fault =>
                rw [others] at read
                cases read
            | ok further =>
                rw [others] at read
                cases read
                exact ⟨line, further, readLine_eq_ok_iff.mp first, inductionHypothesis.mp others,
                  rfl⟩
      · rintro ⟨line, further, first, others, rfl⟩
        rw [readLine_eq_ok_iff.mpr first]
        simp only [inductionHypothesis.mpr others]
        rfl

/-- Reading fails at the first line that is outside the grammar, with its number. -/
theorem readLines_eq_error_iff
    {number : Nat}
    {texts : List (List Char)}
    {wrong : Nat × LineFault} :
    readLines number texts = .error wrong ↔
      ∃ before text after lines, texts = before ++ text :: after ∧
        List.Forall₂ Tells before lines ∧ readLine text = .error wrong.2 ∧
        wrong.1 = number + before.length := by
  induction texts generalizing number with
  | nil =>
      constructor
      · intro failed
        cases failed
      · rintro ⟨before, text, after, lines, split, -⟩
        simp at split
  | cons first rest inductionHypothesis =>
      rw [readLines]
      cases read : readLine first with
      | error fault =>
          constructor
          · intro failed
            cases failed
            exact ⟨[], first, rest, [], rfl, .nil, read, rfl⟩
          · rintro ⟨before, text, after, lines, split, tells, failed, position⟩
            cases before with
            | nil =>
                obtain ⟨rfl, rfl⟩ := List.cons.inj split
                rw [read] at failed
                obtain ⟨line, fault⟩ := wrong
                cases failed
                rw [show line = number from position]
            | cons earlier others =>
                obtain ⟨rfl, -⟩ := List.cons.inj split
                obtain ⟨line, -, told, -⟩ := List.forall₂_cons_left_iff.mp tells
                rw [readLine_eq_ok_iff.mpr told] at read
                cases read
      | ok line =>
          have further : (readLines (number + 1) rest).map (line :: ·) = .error wrong ↔
              readLines (number + 1) rest = .error wrong := by
            cases readLines (number + 1) rest <;> simp [Except.map]
          dsimp only
          rw [further, inductionHypothesis]
          constructor
          · rintro ⟨before, text, after, lines, rfl, tells, failed, position⟩
            refine ⟨first :: before, text, after, line :: lines, rfl,
              .cons (readLine_eq_ok_iff.mp read) tells, failed, ?_⟩
            rw [position, List.length_cons]
            omega
          · rintro ⟨before, text, after, lines, split, tells, failed, position⟩
            cases before with
            | nil =>
                obtain ⟨rfl, rfl⟩ := List.cons.inj split
                rw [read] at failed
                cases failed
            | cons earlier others =>
                obtain ⟨rfl, rfl⟩ := List.cons.inj split
                obtain ⟨said, more, -, othersTell, rfl⟩ := List.forall₂_cons_left_iff.mp tells
                refine ⟨_, text, after, more, rfl, othersTell, failed, ?_⟩
                rw [position, List.length_cons]
                omega

end EditorConfig
end HouseStyle
