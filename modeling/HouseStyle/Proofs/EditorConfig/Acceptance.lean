import HouseStyle.Proofs.EditorConfig.Precedence
import HouseStyle.Proofs.Text.Lines

/-!
# What a configuration file may hold

Each line of a text is within the grammar, malformed, or holds a pattern that is
nested too deeply, whatever the other lines are.  Reading a text fails exactly if
it has a line of the last two sorts, and the first one decides how.  Otherwise the
lines are an opening without headers and then blocks, each of which begins with a
header and gives one section.
-/

namespace HouseStyle
namespace EditorConfig

/-! ## Patterns of headers -/

/-- Something other than blanks stands in a text. -/
def IsWritten (text : List Char) : Prop :=
  ∃ character ∈ text, Text.isBlank character = false

/-- The pattern that is compiled for the text between the brackets of a header. -/
inductive CompiledAs (pattern : List Char) : String → Prop where
  /-- A pattern without a slash is for file names at any depth. -/
  | anywhere
      (noSlash : '/' ∉ Text.trim pattern) :
      CompiledAs pattern ("**/" ++ String.ofList (Text.trim pattern))
  /-- Any other pattern starts at the folder of the file; slashes at its front are dropped. -/
  | fromFolder
      {slashes rest : List Char}
      (hasSlash : '/' ∈ Text.trim pattern)
      (split : Text.trim pattern = slashes ++ rest)
      (dropped : ∀ mark ∈ slashes, mark = '/')
      (starts : rest.head? ≠ some '/') :
      CompiledAs pattern (String.ofList rest)

theorem dropWhile_slash_of_head?_ne
    {text : List Char}
    (starts : text.head? ≠ some '/') :
    text.dropWhile (· == '/') = text := by
  cases text with
  | nil => rfl
  | cons first rest =>
      have other : ¬ (first == '/') = true := by simpa using starts
      rw [List.dropWhile_cons, if_neg other]

/-- What a pattern is compiled as is what anchoring makes of it, without the blanks around it. -/
theorem compiledAs_iff
    {pattern : List Char}
    {compiled : String} :
    CompiledAs pattern compiled ↔ compiled = String.ofList (anchored (Text.trim pattern)) := by
  rw [anchored]
  constructor
  · rintro (⟨noSlash⟩ | ⟨hasSlash, split, dropped, starts⟩)
    · rw [if_neg (by simpa using noSlash), String.ofList_append]
    · rw [if_pos (by simpa using hasSlash), split,
        List.dropWhile_append_of_pos (by simpa using dropped), dropWhile_slash_of_head?_ne starts]
  · rintro rfl
    split
    · rename_i hasSlash
      refine .fromFolder (by simpa using hasSlash) List.takeWhile_append_dropWhile.symm ?_ ?_
      · intro mark dropped
        simpa using List.all_eq_true.mp List.all_takeWhile mark dropped
      · intro starts
        have other := List.head?_dropWhile_not (· == '/') (Text.trim pattern)
        rw [starts] at other
        simp at other
    · rename_i noSlash
      rw [String.ofList_append]
      exact .anywhere (by simpa using noSlash)

theorem trim_eq_nil_iff_not_isWritten {text : List Char} :
    Text.trim text = [] ↔ ¬ IsWritten text := by
  rw [Text.trim_eq_nil_iff, IsWritten]
  simp

theorem readPattern_of_blank
    {pattern : List Char}
    (blank : ¬ IsWritten pattern) :
    readPattern (Text.trim pattern) = .error .emptyPattern := by
  rw [readPattern, trim_eq_nil_iff_not_isWritten.mpr blank]
  rfl

/-- A pattern that is written is handed to the compiler, and a fault of it is kept with the pattern
as written and as compiled. -/
theorem readPattern_of_isWritten
    {pattern : List Char}
    {compiled : String}
    (written : IsWritten pattern)
    (form : CompiledAs pattern compiled) :
    readPattern (Text.trim pattern) =
      (Glob.compile false compiled).mapError
        (.badPattern (String.ofList (Text.trim pattern)) compiled) := by
  have nonempty : ¬ (Text.trim pattern).isEmpty = true := by
    rw [List.isEmpty_iff, trim_eq_nil_iff_not_isWritten]
    exact not_not_intro written
  rw [readPattern, if_neg nonempty, ← compiledAs_iff.mp form]
  dsimp only
  cases Glob.compile false compiled <;> rfl

theorem readPattern_eq_ok_iff
    {pattern : List Char}
    {glob : Glob} :
    readPattern (Text.trim pattern) = .ok glob ↔
      IsWritten pattern ∧ ∃ compiled, CompiledAs pattern compiled ∧
        Glob.compile false compiled = .ok glob := by
  by_cases written : IsWritten pattern
  · rw [readPattern_of_isWritten written (compiledAs_iff.mpr rfl), and_iff_right written]
    simp only [compiledAs_iff, exists_eq_left]
    cases Glob.compile false (String.ofList (anchored (Text.trim pattern))) <;>
      simp [Except.mapError]
  · simp [readPattern_of_blank written, written]

/-- A pattern is refused exactly if it is blank or the compiler rejects what it is compiled as. -/
theorem readPattern_eq_error_iff
    {pattern : List Char}
    {fault : LineFault} :
    readPattern (Text.trim pattern) = .error fault ↔
      ¬ IsWritten pattern ∧ fault = .emptyPattern ∨
      IsWritten pattern ∧ ∃ compiled, CompiledAs pattern compiled ∧
        ∃ found, Glob.compile false compiled = .error found ∧
          fault = .badPattern (String.ofList (Text.trim pattern)) compiled found := by
  by_cases written : IsWritten pattern
  · rw [readPattern_of_isWritten written (compiledAs_iff.mpr rfl)]
    simp only [compiledAs_iff, exists_eq_left]
    cases Glob.compile false (String.ofList (anchored (Text.trim pattern))) <;>
      simp [Except.mapError, written, eq_comm]
  · simp [readPattern_of_blank written, written, eq_comm]

/-! ## Malformed lines -/

/-- A line is outside the grammar, with the message for it. -/
inductive Malformed (line : List Char) : String → Prop where
  /-- A line that starts with a bracket does not end in one. -/
  | unterminated
      {rest : List Char}
      (opened : Text.trim line = '[' :: rest)
      (unclosed : rest.getLast? ≠ some ']') :
      Malformed line "unterminated section header"
  /-- Nothing is written between the brackets. -/
  | emptyPattern
      {pattern : List Char}
      (bracketed : Text.trim line = '[' :: (pattern ++ [']']))
      (blank : ¬ IsWritten pattern) :
      Malformed line "empty section pattern"
  /-- The pattern between the brackets is rejected. -/
  | badPattern
      {pattern : List Char}
      {compiled : String}
      {fault : Glob.Fault}
      (bracketed : Text.trim line = '[' :: (pattern ++ [']']))
      (written : IsWritten pattern)
      (form : CompiledAs pattern compiled)
      (rejected : Glob.compile false compiled = .error fault) :
      Malformed line ("bad section pattern " ++ String.ofList (Text.trim pattern) ++ ": " ++
        fault.message compiled)
  /-- Any other line that says something has no equals sign. -/
  | missingEquals
      {first : Char}
      (starts : (Text.trim line).head? = some first)
      (isPlain : first ≠ '#' ∧ first ≠ ';' ∧ first ≠ '[')
      (missing : '=' ∉ Text.trim line) :
      Malformed line "expected \x60key = value\x60"

/-- The pattern between the brackets of a line is accepted, but nested too deeply to be used. -/
inductive Overloads (line : List Char) : Prop where
  | deepPattern
      {pattern : List Char}
      {compiled : String}
      {glob : Glob}
      (bracketed : Text.trim line = '[' :: (pattern ++ [']']))
      (written : IsWritten pattern)
      (form : CompiledAs pattern compiled)
      (accepted : Glob.compile false compiled = .ok glob)
      (deep : glob.isTooDeep = true) :
      Overloads line

/-- A text cannot be read past the line. -/
def Refused (line : List Char) : Prop :=
  (∃ message, Malformed line message) ∨ Overloads line

/-- A line begins a section exactly if a pattern stands between its brackets, is compiled and is
not nested too deeply. -/
theorem tells_header_iff
    {line : List Char}
    {glob : Glob} :
    Tells line (.header glob) ↔
      ∃ pattern compiled, Text.trim line = '[' :: (pattern ++ [']']) ∧ IsWritten pattern ∧
        CompiledAs pattern compiled ∧ Glob.compile false compiled = .ok glob ∧
        glob.isTooDeep = false := by
  constructor
  · rintro ⟨⟩
    rename_i pattern bracketed read shallow
    obtain ⟨written, compiled, form, accepted⟩ := readPattern_eq_ok_iff.mp read
    exact ⟨pattern, compiled, bracketed, written, form, accepted, shallow⟩
  · rintro ⟨pattern, compiled, bracketed, written, form, accepted, shallow⟩
    exact .header bracketed (readPattern_eq_ok_iff.mpr ⟨written, compiled, form, accepted⟩) shallow

/-- A fault of the reader is a malformed line with the fault's message, or a deep pattern. -/
theorem malformed_or_overloads_of_readLine
    {line : List Char}
    {fault : LineFault}
    (failed : readLine line = .error fault) :
    fault ≠ .deepPattern ∧ Malformed line fault.message ∨
      fault = .deepPattern ∧ Overloads line := by
  unfold readLine readTrimmed at failed
  split at failed
  · cases failed
  · cases failed
  · cases failed
  · rename_i rest opened
    split at failed
    · rename_i unclosed
      cases failed
      exact .inl ⟨by simp, .unterminated opened (Text.dropEnd?_eq_none_iff.mp unclosed)⟩
    · rename_i pattern closed
      obtain rfl := Text.dropEnd?_eq_some_iff.mp closed
      rcases readHeader_eq_error_iff.mp failed with wrong | ⟨glob, read, deep, rfl⟩
      · rcases readPattern_eq_error_iff.mp wrong with
          ⟨blank, rfl⟩ | ⟨written, compiled, form, found, rejected, rfl⟩
        · exact .inl ⟨by simp, .emptyPattern opened blank⟩
        · exact .inl ⟨by simp, .badPattern opened written form rejected⟩
      · obtain ⟨written, compiled, form, accepted⟩ := readPattern_eq_ok_iff.mp read
        exact .inr ⟨rfl, .deepPattern opened written form accepted deep⟩
  · rename_i notEmpty notHash notSemicolon notBracket
    obtain ⟨first, starts, isPlain⟩ :=
      exists_plain_start notEmpty notHash notSemicolon notBracket
    unfold readProperty at failed
    split at failed
    · rename_i missing
      cases failed
      exact .inl ⟨by simp, .missingEquals starts isPlain (Text.cutFirst?_eq_none_iff.mp missing)⟩
    · cases failed

/-- The reader fails at a malformed line, with its message. -/
theorem readLine_of_malformed
    {line : List Char}
    {message : String}
    (malformed : Malformed line message) :
    ∃ fault, readLine line = .error fault ∧ fault ≠ .deepPattern ∧ fault.message = message := by
  unfold readLine
  cases malformed with
  | unterminated opened unclosed =>
      refine ⟨.unterminatedHeader, ?_, by simp, rfl⟩
      rw [opened, readTrimmed, Text.dropEnd?_eq_none_iff.mpr unclosed]
  | emptyPattern bracketed blank =>
      refine ⟨.emptyPattern, ?_, by simp, rfl⟩
      rw [bracketed, readTrimmed_of_bracketed]
      exact readHeader_of_error (readPattern_eq_error_iff.mpr (.inl ⟨blank, rfl⟩))
  | badPattern bracketed written form rejected =>
      refine ⟨.badPattern _ _ _, ?_, by simp, rfl⟩
      rw [bracketed, readTrimmed_of_bracketed]
      exact readHeader_of_error (readPattern_eq_error_iff.mpr
        (.inr ⟨written, _, form, _, rejected, rfl⟩))
  | missingEquals starts isPlain missing =>
      obtain ⟨rest, shape⟩ := List.head?_eq_some_iff.mp starts
      refine ⟨.missingEquals, ?_, by simp, rfl⟩
      rw [shape] at missing ⊢
      rw [readTrimmed_of_plain isPlain, readProperty, Text.cutFirst?_eq_none_iff.mpr missing]

/-- The reader fails at a line whose pattern is nested too deeply. -/
theorem readLine_of_overloads
    {line : List Char}
    (overloads : Overloads line) :
    readLine line = .error .deepPattern := by
  obtain ⟨bracketed, written, form, accepted, deep⟩ := overloads
  rw [readLine, bracketed, readTrimmed_of_bracketed, readHeader_eq_error_iff]
  exact .inr ⟨_, readPattern_eq_ok_iff.mpr ⟨written, _, form, accepted⟩, deep, rfl⟩

/-- The lines that a text cannot be read past are those that the reader fails at. -/
theorem refused_iff_readLine {line : List Char} :
    Refused line ↔ ∃ fault, readLine line = .error fault := by
  constructor
  · rintro (⟨message, malformed⟩ | overloads)
    · obtain ⟨fault, failed, -⟩ := readLine_of_malformed malformed
      exact ⟨fault, failed⟩
    · exact ⟨.deepPattern, readLine_of_overloads overloads⟩
  · rintro ⟨fault, failed⟩
    rcases malformed_or_overloads_of_readLine failed with ⟨-, malformed⟩ | ⟨-, overloads⟩
    · exact .inl ⟨_, malformed⟩
    · exact .inr overloads

/-- A text cannot be read past a line exactly if it says nothing that the grammar knows. -/
theorem refused_iff {line : List Char} :
    Refused line ↔ ∀ said, ¬ Tells line said := by
  simp only [refused_iff_readLine, ← readLine_eq_ok_iff]
  cases readLine line <;> simp

/-- All lines say something exactly if a text can be read past each of them. -/
theorem exists_forall₂_tells_iff {lines : List (List Char)} :
    (∃ said, List.Forall₂ Tells lines said) ↔ ∀ line ∈ lines, ¬ Refused line := by
  induction lines with
  | nil => simp
  | cons line rest inductionHypothesis =>
      rw [List.forall_mem_cons, ← inductionHypothesis, refused_iff]
      push Not
      constructor
      · rintro ⟨_, told⟩
        cases told with
        | cons first others => exact ⟨⟨_, first⟩, _, others⟩
      · rintro ⟨⟨said, first⟩, more, others⟩
        exact ⟨said :: more, .cons first others⟩

/-! ## Opening and blocks -/

/-- The key and the value that the line states. -/
def Line.entry? : Line → Option (String × String)
  | .property key value => some (key, value)
  | _ => none

/-- A header with the lines up to the next one. -/
structure Block where
  /-- The pattern of the header. -/
  glob : Glob
  /-- The lines after the header. -/
  body : List Line
  /-- None of them is a header. -/
  isBody : ∀ line ∈ body, line.isHeader = false

namespace Block

/-- The lines of the block. -/
def lines (block : Block) : List Line :=
  .header block.glob :: block.body

/-- The section that the block gives: what its lines state, in order. -/
def part (block : Block) : Section where
  glob := block.glob
  properties := block.body.filterMap Line.entry?

end Block

/-- The last line that states a value under a key states the given one. -/
def LastStates (lines : List Line) (key value : String) : Prop :=
  ∃ before after, lines = before ++ .property key value :: after ∧
    ∀ other, .property key other ∉ after

/-- What lines say makes up a file, by an opening without headers and blocks after it. -/
structure Arranges
    (said : List Line)
    (file : File)
    (opening : List Line)
    (blocks : List Block) : Prop where
  /-- The lines are those of the opening and then of the blocks. -/
  split : said = opening ++ blocks.flatMap Block.lines
  /-- No line of the opening is a header. -/
  isOpening : ∀ line ∈ opening, line.isHeader = false
  /-- Each block gives a section, in order. -/
  sections : file.sections = blocks.map Block.part
  /-- The file is a root if the last line of the opening for `root` says `true` in any case. -/
  root : file.isRoot = true ↔
    ∃ value, LastStates opening "root" value ∧ Text.lower value.toList = "true".toList

/-- Any lines are an opening without headers and then blocks: a header turns the opening after it
into its block. -/
theorem exists_split (said : List Line) :
    ∃ (opening : List Line) (blocks : List Block),
      said = opening ++ blocks.flatMap Block.lines ∧
        ∀ line ∈ opening, line.isHeader = false := by
  induction said with
  | nil => exact ⟨[], [], rfl, by simp⟩
  | cons line rest inductionHypothesis =>
      obtain ⟨opening, blocks, rfl, isOpening⟩ := inductionHypothesis
      cases line with
      | header glob => exact ⟨[], ⟨glob, opening, isOpening⟩ :: blocks, rfl, by simp⟩
      | silent => exact ⟨.silent :: opening, blocks, rfl, by simpa [Line.isHeader] using isOpening⟩
      | property key value =>
          exact ⟨.property key value :: opening, blocks, rfl,
            by simpa [Line.isHeader] using isOpening⟩

/-- The properties of a run of lines end where the first block begins. -/
theorem propertiesOf_split
    {opening : List Line}
    (isOpening : ∀ line ∈ opening, line.isHeader = false)
    (blocks : List Block) :
    propertiesOf (opening ++ blocks.flatMap Block.lines) = opening.filterMap Line.entry? := by
  induction opening with
  | nil => cases blocks <;> rfl
  | cons line rest inductionHypothesis =>
      rw [List.forall_mem_cons] at isOpening
      have further := inductionHypothesis isOpening.2
      cases line with
      | header glob => cases isOpening.1
      | silent => exact further
      | property key value => exact congrArg ((key, value) :: ·) further

theorem sectionsOf_append
    {opening : List Line}
    (isOpening : ∀ line ∈ opening, line.isHeader = false)
    (rest : List Line) :
    sectionsOf (opening ++ rest) = sectionsOf rest := by
  induction opening with
  | nil => rfl
  | cons line others inductionHypothesis =>
      rw [List.forall_mem_cons] at isOpening
      have further := inductionHypothesis isOpening.2
      cases line with
      | header glob => cases isOpening.1
      | silent => exact further
      | property key value => exact further

/-- Every block gives one section. -/
theorem sectionsOf_flatMap_lines (blocks : List Block) :
    sectionsOf (blocks.flatMap Block.lines) = blocks.map Block.part := by
  induction blocks with
  | nil => rfl
  | cons block others inductionHypothesis =>
      rw [List.flatMap_cons, Block.lines, List.cons_append, sectionsOf,
        propertiesOf_split block.isBody, sectionsOf_append block.isBody, inductionHypothesis]
      rfl

/-- The last of the stated values under a key is the one that the last line for it states. -/
theorem getLast?_filter_entry?_eq_some_iff
    {lines : List Line}
    {key value : String} :
    ((lines.filterMap Line.entry?).filter fun stated => stated.1 == key).getLast? =
      some (key, value) ↔ LastStates lines key value := by
  have stated_iff {line : Line} {entry : String × String} :
      line.entry?.filter (fun stated => stated.1 == key) = some entry ↔
        entry.1 = key ∧ line = .property key entry.2 := by
    cases line with
    | silent => simp [Line.entry?]
    | header glob => simp [Line.entry?]
    | property stated said =>
        simp only [Line.entry?, Option.filter_eq_some_iff]
        grind
  rw [List.filter_filterMap, List.getLast?_filterMap, List.findSome?_eq_some_iff]
  constructor
  · rintro ⟨later, line, earlier, split, found, others⟩
    obtain ⟨-, rfl⟩ := stated_iff.mp found
    refine ⟨earlier.reverse, later.reverse, ?_, fun other listed => ?_⟩
    · rw [← List.reverse_reverse lines, split]
      simp
    · have missed := others _ (List.mem_reverse.mp listed)
      have found : _ = some (key, other) := stated_iff.mpr ⟨rfl, rfl⟩
      rw [found] at missed
      cases missed
  · rintro ⟨before, after, rfl, others⟩
    refine ⟨after.reverse, .property key value, before.reverse, by simp,
      stated_iff.mpr ⟨rfl, rfl⟩, ?_⟩
    intro line listed
    rw [Option.eq_none_iff_forall_ne_some]
    intro entry found
    obtain ⟨-, rfl⟩ := stated_iff.mp found
    exact others entry.2 (List.mem_reverse.mp listed)

/-- Of the lines for `root` in the opening the last one decides. -/
theorem statesRoot_split_iff
    {opening : List Line}
    (isOpening : ∀ line ∈ opening, line.isHeader = false)
    (blocks : List Block) :
    statesRoot (opening ++ blocks.flatMap Block.lines) = true ↔
      ∃ value, LastStates opening "root" value ∧ Text.lower value.toList = "true".toList := by
  rw [statesRoot, propertiesOf_preamble, propertiesOf_split isOpening]
  simp only [← getLast?_filter_entry?_eq_some_iff, Option.any_eq_true, Text.sameIgnoringCase_iff]
  have lowered : Text.lower "true".toList = "true".toList := by decide
  rw [lowered]
  constructor
  · rintro ⟨⟨key, value⟩, last, isTrue⟩
    have listed := List.mem_of_getLast? last
    obtain rfl : key = "root" := by simpa using (List.mem_filter.mp listed).2
    exact ⟨value, last, isTrue⟩
  · rintro ⟨value, last, isTrue⟩
    exact ⟨("root", value), last, isTrue⟩

/-- The arrangement of a file by blocks is what the reader makes of its lines. -/
theorem exists_arranges_iff
    {said : List Line}
    {file : File} :
    (∃ opening blocks, Arranges said file opening blocks) ↔
      file.isRoot = statesRoot said ∧ file.sections = sectionsOf said := by
  have laidOut {opening : List Line} {blocks : List Block}
      (isOpening : ∀ line ∈ opening, line.isHeader = false) :
      sectionsOf (opening ++ blocks.flatMap Block.lines) = blocks.map Block.part := by
    rw [sectionsOf_append isOpening, sectionsOf_flatMap_lines]
  constructor
  · rintro ⟨opening, blocks, rfl, isOpening, sections, root⟩
    rw [sections, laidOut isOpening, Bool.eq_iff_iff, root, statesRoot_split_iff isOpening]
    exact ⟨Iff.rfl, rfl⟩
  · rintro ⟨root, sections⟩
    obtain ⟨opening, blocks, rfl, isOpening⟩ := exists_split said
    refine ⟨opening, blocks, rfl, isOpening, ?_, ?_⟩
    · rw [sections, laidOut isOpening]
    · rw [root, statesRoot_split_iff isOpening]

/-! ## Reading a text -/

namespace File

theorem read_of_readLines_ok
    {text : String}
    {said : List Line}
    (path : Path)
    (readAll : readLines 1 (Text.lines text.toList) = .ok said) :
    read path text = .ok ⟨path, statesRoot said, sectionsOf said⟩ := by
  rw [read, parse, readAll]
  rfl

theorem read_of_readLines_error
    {text : String}
    {wrong : Nat × LineFault}
    (path : Path)
    (readAll : readLines 1 (Text.lines text.toList) = .error wrong) :
    read path text = .error (wrong.2.failure path wrong.1) := by
  rw [read, parse, readAll]
  rfl

/-- A text is read as a file exactly if all its lines say something and are arranged as the file. -/
theorem read_eq_ok_iff
    {path : Path}
    {text : String}
    {file : File} :
    read path text = .ok file ↔
      file.path = path ∧ ∃ said, List.Forall₂ Tells (Text.lines text.toList) said ∧
        ∃ opening blocks, Arranges said file opening blocks := by
  simp only [exists_arranges_iff]
  constructor
  · intro accepted
    cases readAll : readLines 1 (Text.lines text.toList) with
    | error wrong =>
        rw [read_of_readLines_error path readAll] at accepted
        cases accepted
    | ok said =>
        rw [read_of_readLines_ok path readAll] at accepted
        cases accepted
        exact ⟨rfl, said, readLines_eq_ok_iff.mp readAll, rfl, rfl⟩
  · obtain ⟨place, isRoot, sections⟩ := file
    rintro ⟨rfl, said, told, rfl, rfl⟩
    exact read_of_readLines_ok _ (readLines_eq_ok_iff.mpr told)

/-- What a text fails with at a line with a number that cannot be read past. -/
inductive FailsWith (path : Path) (number : Nat) (line : List Char) : Failure → Prop where
  /-- The number and the message of a malformed line are reported. -/
  | malformed
      {message : String}
      (malformed : Malformed line message) :
      FailsWith path number line (.misconfigured path.text number message)
  /-- A pattern that is nested too deeply breaks the program. -/
  | overloaded
      (overloads : Overloads line) :
      FailsWith path number line .crash

/-- The failure at a line is that of the fault which the reader finds in it. -/
theorem failsWith_iff
    {path : Path}
    {number : Nat}
    {line : List Char}
    {failure : Failure} :
    FailsWith path number line failure ↔
      ∃ fault, readLine line = .error fault ∧ failure = fault.failure path number := by
  constructor
  · rintro (malformed | overloads)
    · obtain ⟨fault, failed, reported, rfl⟩ := readLine_of_malformed malformed
      exact ⟨fault, failed, (LineFault.failure_of_ne reported path number).symm⟩
    · exact ⟨.deepPattern, readLine_of_overloads overloads, rfl⟩
  · rintro ⟨fault, failed, rfl⟩
    rcases malformed_or_overloads_of_readLine failed with
      ⟨reported, malformed⟩ | ⟨rfl, overloads⟩
    · rw [LineFault.failure_of_ne reported]
      exact .malformed malformed
    · exact .overloaded overloads

/-- Reading fails as it does at the first line that it cannot be read past. -/
theorem read_eq_error_iff
    {path : Path}
    {text : String}
    {failure : Failure} :
    read path text = .error failure ↔
      ∃ before line after, Text.lines text.toList = before ++ line :: after ∧
        (∀ earlier ∈ before, ¬ Refused earlier) ∧
        FailsWith path (before.length + 1) line failure := by
  simp only [failsWith_iff, ← exists_forall₂_tells_iff]
  constructor
  · intro failed
    cases readAll : readLines 1 (Text.lines text.toList) with
    | ok said =>
        rw [read_of_readLines_ok path readAll] at failed
        cases failed
    | error wrong =>
        rw [read_of_readLines_error path readAll] at failed
        cases failed
        obtain ⟨before, line, after, said, split, told, wrongLine, position⟩ :=
          readLines_eq_error_iff.mp readAll
        refine ⟨before, line, after, split, ⟨said, told⟩, wrong.2, wrongLine, ?_⟩
        rw [position, Nat.add_comm]
  · rintro ⟨before, line, after, split, ⟨said, told⟩, fault, wrongLine, rfl⟩
    have readAll : readLines 1 (Text.lines text.toList) = .error (before.length + 1, fault) :=
      readLines_eq_error_iff.mpr
        ⟨before, line, after, said, split, told, wrongLine, Nat.add_comm _ _⟩
    exact read_of_readLines_error path readAll

/-- Reading fails exactly if there is a line that it cannot be read past. -/
theorem exists_read_eq_error_iff
    {path : Path}
    {text : String} :
    (∃ failure, read path text = .error failure) ↔
      ∃ line ∈ Text.lines text.toList, Refused line := by
  cases answer : read path text with
  | ok file =>
      obtain ⟨-, said, told, -⟩ := read_eq_ok_iff.mp answer
      simpa using exists_forall₂_tells_iff.mp ⟨said, told⟩
  | error failure =>
      obtain ⟨before, line, after, split, -, fails⟩ := read_eq_error_iff.mp answer
      obtain ⟨fault, failed, -⟩ := failsWith_iff.mp fails
      simpa using ⟨line, by simp [split], refused_iff_readLine.mpr ⟨fault, failed⟩⟩

/-- A text cannot be read past a line exactly if it fails as a text of its own. -/
theorem refused_iff_read_alone
    {path : Path}
    {line : List Char}
    (noFeed : '\n' ∉ line) :
    Refused line ↔ ∃ failure, read path (String.ofList line) = .error failure := by
  rw [exists_read_eq_error_iff, String.toList_ofList, Text.lines_of_notMem noFeed]
  cases line with
  | nil =>
      have silent : ¬ Refused [] := fun refused => refused_iff.mp refused .silent (.blank rfl)
      simp [silent]
  | cons character rest => simp

/--
Reading a text fails exactly if one of its lines is malformed or holds a pattern
that is nested too deeply.  If the first such line is malformed, its number and
its message are reported; a deep pattern breaks the program.  Otherwise the lines
are an opening without headers and then blocks, each with a header: the blocks
give the sections in order, with the patterns between the brackets, and the
opening decides whether the file is a root.  Whether a line can be read is told by
itself, whatever text it stands in.
-/
theorem read_accepts_exactly_line_grammar (path : Path) (text : String) :
    let lines := Text.lines text.toList
    Text.HasLines text.toList lines ∧
      ((∃ failure, read path text = .error failure) ↔ ∃ line ∈ lines, Refused line) ∧
      (∀ failure, read path text = .error failure ↔
        ∃ before line after, lines = before ++ line :: after ∧
          (∀ earlier ∈ before, ¬ Refused earlier) ∧
          FailsWith path (before.length + 1) line failure) ∧
      (∀ file, read path text = .ok file ↔
        file.path = path ∧ ∃ said, List.Forall₂ Tells lines said ∧
          ∃ opening blocks, Arranges said file opening blocks) ∧
      (∀ line glob, Tells line (.header glob) ↔
        ∃ pattern compiled, Text.trim line = '[' :: (pattern ++ [']']) ∧ IsWritten pattern ∧
          CompiledAs pattern compiled ∧ Glob.compile false compiled = .ok glob ∧
          glob.isTooDeep = false) ∧
      ∀ line ∈ lines, ∀ elsewhere,
        Refused line ↔ ∃ failure, read elsewhere (String.ofList line) = .error failure := by
  intro lines
  have cut : Text.HasLines text.toList lines := Text.hasLines_lines text.toList
  refine ⟨cut, exists_read_eq_error_iff, fun _ => read_eq_error_iff, fun _ => read_eq_ok_iff,
    fun _ _ => tells_header_iff, ?_⟩
  intro line listed elsewhere
  exact refused_iff_read_alone (cut.feed_notMem listed)

/-- A text with a malformed header after three other lines, and a malformed line after it. -/
def brokenText : String :=
  "Root = TRUE\r\n[ //*.cs ]\n\tkey = a = b\n[*.\x7bcs]\r\n["

/-- The pattern of the first header, read from the folder of the file. -/
def anchoredGlob : Glob :=
  ⟨"*.cs", [.anyRun, .literal '.', .literal 'c', .literal 's'], false⟩

theorem read_accepts_exactly_line_grammar_sample :
    Tells "[ //*.cs ]".toList (.header anchoredGlob) ∧
      read (Path.ofText "/w/.editorconfig") brokenText =
        .error (.misconfigured "/w/.editorconfig" 4
          ("bad section pattern *.\x7bcs: error parsing glob '**/*.\x7bcs': " ++
            Glob.Fault.unclosedGroup.reason)) ∧
      ∃ failure, read (Path.ofText "A") "[*.\x7bcs]" = .error failure := by
  have cut : Text.lines brokenText.toList =
      ["Root = TRUE", "[ //*.cs ]", "\tkey = a = b"].map String.toList ++
        "[*.\x7bcs]".toList :: ["[".toList] := by
    decide +kernel
  have listed : "[*.\x7bcs]".toList ∈ Text.lines brokenText.toList := by simp [cut]
  obtain ⟨said, -, told⟩ := forall₂_tells_said?
    (show (said? ["Root = TRUE", "[ //*.cs ]", "\tkey = a = b"]).isSome = true by decide +kernel)
  have refusal : (Glob.compile false "**/*.\x7bcs").map (fun _ => ()) = .error .unclosedGroup := by
    decide +kernel
  have rejected : Glob.compile false "**/*.\x7bcs" = .error .unclosedGroup := by
    cases compiled : Glob.compile false "**/*.\x7bcs" <;> rw [compiled] at refusal <;> cases refusal
    rfl
  have malformed : Malformed "[*.\x7bcs]".toList
      ("bad section pattern *.\x7bcs: error parsing glob '**/*.\x7bcs': " ++
        Glob.Fault.unclosedGroup.reason) := by
    have trimmed : Text.trim "*.\x7bcs".toList = "*.\x7bcs".toList := by decide +kernel
    have message := Malformed.badPattern
      (show Text.trim "[*.\x7bcs]".toList = '[' :: ("*.\x7bcs".toList ++ [']']) by decide +kernel)
      ⟨'*', by decide, by decide⟩ (compiledAs_iff.mpr (by decide +kernel)) rejected
    rwa [trimmed] at message
  have place : (Path.ofText "/w/.editorconfig").text = "/w/.editorconfig" := by decide +kernel
  obtain ⟨-, -, fails, -, headers, alone⟩ :=
    read_accepts_exactly_line_grammar (Path.ofText "/w/.editorconfig") brokenText
  refine ⟨(headers _ _).mpr ⟨" //*.cs ".toList, "*.cs", by decide +kernel,
    ⟨'*', by decide, by decide⟩, compiledAs_iff.mpr (by decide +kernel), by rfl,
    by decide +kernel⟩, ?_, (alone _ listed _).mp (.inl ⟨_, malformed⟩)⟩
  rw [fails, ← place]
  exact ⟨_, _, _, cut, exists_forall₂_tells_iff.mp ⟨said, told⟩, .malformed malformed⟩

end File
end EditorConfig
end HouseStyle
