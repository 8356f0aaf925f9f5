import HouseStyle.Proofs.Text.BlankLines
import HouseStyle.Proofs.Text.Slices

/-!
# Blank lines between two offsets

A blank line stands between two offsets of a text exactly if the offsets enclose
two line feeds with only blanks between them.  So what stands before the first and
after the last line feed of the gap plays no part, and neither does a
carriage return before a line feed.
-/

namespace HouseStyle

namespace Text

/-- Two line feeds between two offsets of a text have only blanks between them. -/
def EncloseBlankLine
    (text : List Char)
    (start stop : Nat) : Prop :=
  ∃ before blank after, text = before ++ ('\n' :: blank ++ ['\n']) ++ after ∧
    start ≤ byteLength before ∧ byteLength (before ++ ('\n' :: blank ++ ['\n'])) ≤ stop ∧
    ∀ character ∈ blank, isBlank character = true

/-- Texts that differ at most before their first and after their last line feed. -/
inductive SameButMargins : List Char → List Char → Prop where
  | intro
      (middle front back otherFront otherBack : List Char)
      (frontNoFeed : '\n' ∉ front)
      (backNoFeed : '\n' ∉ back)
      (otherFrontNoFeed : '\n' ∉ otherFront)
      (otherBackNoFeed : '\n' ∉ otherBack) :
      SameButMargins (front ++ middle ++ back) (otherFront ++ middle ++ otherBack)

/-- Texts that differ at most in carriage returns right before line feeds. -/
inductive SameButReturns : List Char → List Char → Prop where
  /-- The empty text is the same as itself. -/
  | nil : SameButReturns [] []
  /-- The same character may stand in front of both texts. -/
  | cons
      (character : Char)
      {left right : List Char}
      (further : SameButReturns left right) :
      SameButReturns (character :: left) (character :: right)
  /-- Only the first text has a carriage return before a line feed. -/
  | returnLeft
      {left right : List Char}
      (further : SameButReturns left right) :
      SameButReturns ('\r' :: '\n' :: left) ('\n' :: right)
  /-- Only the second text has a carriage return before a line feed. -/
  | returnRight
      {left right : List Char}
      (further : SameButReturns left right) :
      SameButReturns ('\n' :: left) ('\r' :: '\n' :: right)

/-! ## Line feeds -/

/-- A blank line is two line feeds with only blanks between them, anywhere in the text. -/
theorem holdsBlankLine_iff_exists_isInfix {text : List Char} :
    HoldsBlankLine text ↔
      ∃ blank, '\n' :: blank ++ ['\n'] <:+: text ∧ ∀ character ∈ blank, isBlank character = true := by
  constructor
  · rintro ⟨before, blank, after, rfl, blanks⟩
    exact ⟨blank, ⟨before, after, by simp⟩, blanks⟩
  · rintro ⟨blank, ⟨before, after, rfl⟩, blanks⟩
    exact ⟨before, blank, after, by simp, blanks⟩

/-- A gap with a single line feed holds no blank line, however many blanks it has. -/
theorem HoldsBlankLine.two_le_count
    {text : List Char}
    (holds : HoldsBlankLine text) :
    2 ≤ text.count '\n' := by
  obtain ⟨before, blank, after, rfl, -⟩ := holds
  simp only [List.count_append, List.count_cons_self]
  omega

theorem beginsBlank_cons_congr
    {left right : List Char}
    (character : Char)
    (begins : BeginsBlank left ↔ BeginsBlank right) :
    BeginsBlank (character :: left) ↔ BeginsBlank (character :: right) := by
  by_cases feed : character = '\n'
  · subst feed
    exact iff_of_true (beginsBlank_feed left) (beginsBlank_feed right)
  · rw [beginsBlank_cons_iff feed, beginsBlank_cons_iff feed, begins]

/-- One more character in front of two texts keeps them alike, if they also begin alike. -/
theorem holdsBlankLine_cons_congr
    {left right : List Char}
    (character : Char)
    (begins : BeginsBlank left ↔ BeginsBlank right)
    (holds : HoldsBlankLine left ↔ HoldsBlankLine right) :
    HoldsBlankLine (character :: left) ↔ HoldsBlankLine (character :: right) := by
  rw [holdsBlankLine_cons_iff, holdsBlankLine_cons_iff, begins, holds]

/-! ## Margins -/

/-- What stands before the first line feed is the end of a line and plays no part. -/
theorem holdsBlankLine_append_left_iff
    {front text : List Char}
    (noFeed : '\n' ∉ front) :
    HoldsBlankLine (front ++ text) ↔ HoldsBlankLine text := by
  induction front with
  | nil => rfl
  | cons character rest inductionHypothesis =>
      obtain ⟨different, further⟩ := List.ne_and_not_mem_of_not_mem_cons noFeed
      rw [List.cons_append, holdsBlankLine_cons_iff, inductionHypothesis further]
      simp [different.symm]

theorem beginsBlank_append_right_iff
    {text back : List Char}
    (noFeed : '\n' ∉ back) :
    BeginsBlank (text ++ back) ↔ BeginsBlank text := by
  induction text with
  | nil =>
      rw [List.nil_append]
      constructor
      · rintro ⟨blank, after, rfl, -⟩
        exact absurd (by simp) noFeed
      · rintro ⟨blank, after, split, -⟩
        simp at split
  | cons character rest inductionHypothesis =>
      exact beginsBlank_cons_congr character inductionHypothesis

/-- What stands after the last line feed is the start of a line and plays no part. -/
theorem holdsBlankLine_append_right_iff
    {text back : List Char}
    (noFeed : '\n' ∉ back) :
    HoldsBlankLine (text ++ back) ↔ HoldsBlankLine text := by
  induction text with
  | nil =>
      rw [List.nil_append, ← List.append_nil back]
      exact holdsBlankLine_append_left_iff noFeed
  | cons character rest inductionHypothesis =>
      exact holdsBlankLine_cons_congr character (beginsBlank_append_right_iff noFeed)
        inductionHypothesis

/-- The margins of a gap do not decide whether a blank line stands in it. -/
theorem SameButMargins.holdsBlankLine_iff
    {left right : List Char}
    (same : SameButMargins left right) :
    HoldsBlankLine left ↔ HoldsBlankLine right := by
  obtain ⟨_, _, _, _, _, frontNoFeed, backNoFeed, otherFrontNoFeed, otherBackNoFeed⟩ := same
  rw [holdsBlankLine_append_right_iff backNoFeed, holdsBlankLine_append_left_iff frontNoFeed,
    holdsBlankLine_append_right_iff otherBackNoFeed,
    holdsBlankLine_append_left_iff otherFrontNoFeed]

/-! ## Carriage returns -/

theorem beginsBlank_return_feed (rest : List Char) : BeginsBlank ('\r' :: '\n' :: rest) :=
  (beginsBlank_cons_iff (by decide)).mpr ⟨rfl, beginsBlank_feed rest⟩

/-- A carriage return is a blank, so it neither makes nor breaks a blank line. -/
theorem holdsBlankLine_return_iff {rest : List Char} :
    HoldsBlankLine ('\r' :: rest) ↔ HoldsBlankLine rest := by
  simp [holdsBlankLine_cons_iff]

theorem SameButReturns.beginsBlank_iff
    {left right : List Char}
    (same : SameButReturns left right) :
    BeginsBlank left ↔ BeginsBlank right := by
  -- Where only one text has a carriage return, both begin with a blank line.
  induction same with
  | nil => rfl
  | cons character _ inductionHypothesis =>
      exact beginsBlank_cons_congr character inductionHypothesis
  | returnLeft => exact iff_of_true (beginsBlank_return_feed _) (beginsBlank_feed _)
  | returnRight => exact iff_of_true (beginsBlank_feed _) (beginsBlank_return_feed _)

/-- Both ways to end a line agree on where the blank lines are. -/
theorem SameButReturns.holdsBlankLine_iff
    {left right : List Char}
    (same : SameButReturns left right) :
    HoldsBlankLine left ↔ HoldsBlankLine right := by
  induction same with
  | nil => rfl
  | cons character further inductionHypothesis =>
      exact holdsBlankLine_cons_congr character further.beginsBlank_iff inductionHypothesis
  | returnLeft further inductionHypothesis =>
      rw [holdsBlankLine_return_iff]
      exact holdsBlankLine_cons_congr '\n' further.beginsBlank_iff inductionHypothesis
  | returnRight further inductionHypothesis =>
      rw [holdsBlankLine_return_iff]
      exact holdsBlankLine_cons_congr '\n' further.beginsBlank_iff inductionHypothesis

/-! ## Offsets -/

/-- What lies between two offsets holds a blank line exactly if they enclose one. -/
theorem LiesBetween.holdsBlankLine_iff
    {text gap : List Char}
    {start stop : Nat}
    (lies : LiesBetween text start stop gap) :
    HoldsBlankLine gap ↔ EncloseBlankLine text start stop := by
  simp only [holdsBlankLine_iff_exists_isInfix, lies.isInfix_iff, EncloseBlankLine]
  constructor
  · rintro ⟨blank, ⟨before, after, split, early, late⟩, blanks⟩
    exact ⟨before, blank, after, split, early, late, blanks⟩
  · rintro ⟨before, blank, after, split, early, late, blanks⟩
    exact ⟨blank, ⟨before, after, split, early, late⟩, blanks⟩

end Text

namespace BackingField

open Text

/-- The search looks at exactly the text between the two offsets. -/
theorem blankLineBetween_eq_true_iff_of_liesBetween
    {source : String}
    {stop start : Nat}
    {gap : List Char}
    (lies : LiesBetween source.toList stop start gap) :
    blankLineBetween source stop start = true ↔ HoldsBlankLine gap := by
  rw [blankLineBetween_iff]
  constructor
  · rintro ⟨found, sliced, holds⟩
    rw [slice?_eq_some_iff.mpr lies] at sliced
    exact Option.some.inj sliced ▸ holds
  · intro holds
    exact ⟨gap, slice?_eq_some_iff.mpr lies, holds⟩

/-- Offsets that cut no piece out of the text enclose no blank line for the search. -/
theorem blankLineBetween_iff_encloseBlankLine
    {source : String}
    {stop start : Nat} :
    blankLineBetween source stop start = true ↔
      (∃ gap, LiesBetween source.toList stop start gap) ∧
        EncloseBlankLine source.toList stop start := by
  rw [blankLineBetween_iff]
  constructor
  · rintro ⟨gap, sliced, holds⟩
    have lies := slice?_eq_some_iff.mp sliced
    exact ⟨⟨gap, lies⟩, lies.holdsBlankLine_iff.mp holds⟩
  · rintro ⟨⟨gap, lies⟩, encloses⟩
    exact ⟨gap, slice?_eq_some_iff.mpr lies, lies.holdsBlankLine_iff.mpr encloses⟩

/--
A blank line is found between two offsets exactly if they come in order, lie between characters
and enclose two line feeds with only blanks between them.  None is found in a gap with fewer
line feeds.  The answer is the same for gaps that differ in their margins or in their carriage
returns, wherever they stand.
-/
theorem blank_line_lies_between_line_feeds
    (source : String)
    (stop start : Nat) :
    (blankLineBetween source stop start = true ↔
      stop ≤ start ∧ String.Pos.Raw.IsValid source ⟨stop⟩ ∧
        String.Pos.Raw.IsValid source ⟨start⟩ ∧ EncloseBlankLine source.toList stop start) ∧
    ∀ gap, LiesBetween source.toList stop start gap →
      (gap.count '\n' < 2 → blankLineBetween source stop start = false) ∧
      ∀ (other : String) (otherStop otherStart : Nat) (otherGap : List Char),
        LiesBetween other.toList otherStop otherStart otherGap →
        SameButMargins gap otherGap ∨ SameButReturns gap otherGap →
        blankLineBetween source stop start = blankLineBetween other otherStop otherStart := by
  refine ⟨?_, fun gap lies => ⟨fun few => ?_, ?_⟩⟩
  · rw [blankLineBetween_iff_encloseBlankLine, exists_liesBetween_iff, and_assoc, and_assoc]
  · rw [Bool.eq_false_iff, Ne, blankLineBetween_eq_true_iff_of_liesBetween lies]
    intro holds
    exact absurd holds.two_le_count (Nat.not_le.mpr few)
  · intro other otherStop otherStart otherGap otherLies same
    rw [Bool.eq_iff_iff, blankLineBetween_eq_true_iff_of_liesBetween lies,
      blankLineBetween_eq_true_iff_of_liesBetween otherLies]
    rcases same with margins | returns
    · exact margins.holdsBlankLine_iff
    · exact returns.holdsBlankLine_iff

theorem blank_line_lies_between_line_feeds_sample :
    blankLineBetween "é;\r\n\u3000\r\nb" 3 10 = true ∧
      blankLineBetween "é;\r\n\u3000\r\nb" 3 10 = blankLineBetween "\n\u3000\n" 0 5 ∧
      blankLineBetween "\n\u3000\n" 0 5 = blankLineBetween "x \n\u3000\n\t" 1 8 ∧
      blankLineBetween "a; \n b" 2 5 = false := by
  have returned : LiesBetween "é;\r\n\u3000\r\nb".toList 3 10 ['\r', '\n', '\u3000', '\r', '\n'] :=
    ⟨['é', ';'], ['b'], by decide +kernel⟩
  have plain : LiesBetween "\n\u3000\n".toList 0 5 ['\n', '\u3000', '\n'] :=
    ⟨[], [], by decide +kernel⟩
  have indented : LiesBetween "x \n\u3000\n\t".toList 1 8 [' ', '\n', '\u3000', '\n', '\t'] :=
    ⟨['x'], [], by decide +kernel⟩
  have single : LiesBetween "a; \n b".toList 2 5 [' ', '\n', ' '] :=
    ⟨['a', ';'], ['b'], by decide +kernel⟩
  have exactly := blank_line_lies_between_line_feeds "é;\r\n\u3000\r\nb" 3 10
  refine ⟨exactly.1.mpr ?_, ?_, ?_, ?_⟩
  · obtain ⟨ordered, first, last⟩ := exists_liesBetween_iff.mp ⟨_, returned⟩
    have blanks : ['\u3000', '\r'].all isBlank = true := by decide
    exact ⟨ordered, first, last, ['é', ';', '\r'], ['\u3000', '\r'], ['b'],
      by decide +kernel, by decide +kernel, by decide +kernel, List.all_eq_true.mp blanks⟩
  · exact (exactly.2 _ returned).2 _ _ _ _ plain
      (.inr (.returnLeft (.cons '\u3000' (.returnLeft .nil))))
  · exact ((blank_line_lies_between_line_feeds "\n\u3000\n" 0 5).2 _ plain).2 _ _ _ _ indented
      (.inl (.intro ['\n', '\u3000', '\n'] [] [] [' '] ['\t']
        (by decide) (by decide) (by decide) (by decide)))
  · exact ((blank_line_lies_between_line_feeds "a; \n b" 2 5).2 _ single).1 (by decide +kernel)

end BackingField
end HouseStyle
