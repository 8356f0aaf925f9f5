import HouseStyle.Convention.BackingField
import HouseStyle.Proofs.Text.Cutting

/-!
# Blank lines inside a text

A line stands strictly inside a text if line feeds bound it on both sides.  The
lines between the first and the last piece of a text are those lines, so one of
them is blank exactly if the text has two line feeds with nothing but blanks
between them.
-/

namespace HouseStyle

namespace Text

/-- A text begins with a line of blanks that a line feed ends. -/
def BeginsBlank (text : List Char) : Prop :=
  ∃ blank after, text = blank ++ '\n' :: after ∧ ∀ character ∈ blank, isBlank character = true

/-- Two line feeds of a text have only blanks between them. -/
def HoldsBlankLine (text : List Char) : Prop :=
  ∃ before blank after, text = before ++ '\n' :: (blank ++ '\n' :: after) ∧
    ∀ character ∈ blank, isBlank character = true

theorem beginsBlank_feed (rest : List Char) : BeginsBlank ('\n' :: rest) :=
  ⟨[], rest, rfl, by simp⟩

theorem beginsBlank_cons_iff
    {character : Char}
    {rest : List Char}
    (noFeed : character ≠ '\n') :
    BeginsBlank (character :: rest) ↔ isBlank character = true ∧ BeginsBlank rest := by
  constructor
  · rintro ⟨blank, after, split, blanks⟩
    cases blank with
    | nil =>
        injection split with same
        exact absurd same noFeed
    | cons first others =>
        obtain ⟨rfl, rfl⟩ := List.cons.inj split
        exact ⟨blanks _ List.mem_cons_self, others, after, rfl,
          fun other present => blanks other (List.mem_cons_of_mem _ present)⟩
  · rintro ⟨isBlankHere, blank, after, rfl, blanks⟩
    refine ⟨character :: blank, after, rfl, ?_⟩
    intro other present
    rcases List.mem_cons.mp present with rfl | further
    · exact isBlankHere
    · exact blanks other further

theorem holdsBlankLine_cons_iff
    {character : Char}
    {rest : List Char} :
    HoldsBlankLine (character :: rest) ↔
      character = '\n' ∧ BeginsBlank rest ∨ HoldsBlankLine rest := by
  constructor
  · rintro ⟨before, blank, after, split, blanks⟩
    cases before with
    | nil =>
        obtain ⟨rfl, rfl⟩ := List.cons.inj split
        exact .inl ⟨rfl, blank, after, rfl, blanks⟩
    | cons first others =>
        obtain ⟨rfl, rfl⟩ := List.cons.inj split
        exact .inr ⟨others, blank, after, rfl, blanks⟩
  · rintro (⟨rfl, blank, after, rfl, blanks⟩ | ⟨before, blank, after, rfl, blanks⟩)
    · exact ⟨[], blank, after, rfl, blanks⟩
    · exact ⟨character :: before, blank, after, rfl, blanks⟩

/-- The first piece ends at a line feed and is blank exactly if the text begins so. -/
theorem beginsBlank_iff {text : List Char} :
    BeginsBlank text ↔
      ∃ first next others, pieces '\n' text = first :: next :: others ∧ allBlank first = true := by
  induction text with
  | nil => simp [BeginsBlank, pieces]
  | cons character rest inductionHypothesis =>
      obtain ⟨piece, more, found⟩ := List.exists_cons_of_ne_nil (pieces_ne_nil '\n' rest)
      by_cases feed : character = '\n'
      · subst feed
        simp [beginsBlank_feed, pieces, found, allBlank]
      · rw [beginsBlank_cons_iff feed, inductionHypothesis]
        simp only [pieces, if_neg feed, found, consToFirst, List.cons.injEq, allBlank]
        constructor
        · rintro ⟨isBlankHere, first, next, others, ⟨rfl, rest⟩, blanks⟩
          exact ⟨character :: piece, next, others, ⟨rfl, rest⟩, by simp [isBlankHere, blanks]⟩
        · rintro ⟨first, next, others, ⟨rfl, rest⟩, blanks⟩
          simp only [List.all_cons, Bool.and_eq_true] at blanks
          exact ⟨blanks.1, piece, next, others, ⟨rfl, rest⟩, blanks.2⟩

end Text

namespace BackingField

open Text

theorem any_allBlank_dropLast_iff
    {first : List Char}
    {others : List (List Char)} :
    (first :: others).dropLast.any allBlank = true ↔
      others ≠ [] ∧ allBlank first = true ∨ others.dropLast.any allBlank = true := by
  cases others with
  | nil => simp
  | cons next more => simp [List.dropLast_cons_cons]

/-- A line strictly inside a text is blank exactly if two line feeds have only blanks between
them. -/
theorem any_innerLines_iff {gap : List Char} :
    (innerLines gap).any allBlank = true ↔ HoldsBlankLine gap := by
  induction gap with
  | nil => simp [innerLines, pieces, HoldsBlankLine]
  | cons character rest inductionHypothesis =>
      obtain ⟨first, others, found⟩ := List.exists_cons_of_ne_nil (pieces_ne_nil '\n' rest)
      rw [holdsBlankLine_cons_iff, ← inductionHypothesis, beginsBlank_iff, found]
      by_cases feed : character = '\n'
      · subst feed
        simp only [innerLines, pieces, if_true, found, List.tail_cons, true_and,
          any_allBlank_dropLast_iff]
        refine or_congr_left ?_
        cases others with
        | nil => simp
        | cons next more => simp
      · simp [innerLines, pieces, feed, found, consToFirst]

/-- A blank line stands between two offsets exactly if the text between them exists and holds
one. -/
theorem blankLineBetween_iff
    {source : String}
    {stop start : Nat} :
    blankLineBetween source stop start = true ↔
      ∃ gap, slice? source.toList stop start = some gap ∧ HoldsBlankLine gap := by
  unfold blankLineBetween
  cases slice? source.toList stop start with
  | none => simp
  | some gap => simp [any_innerLines_iff, -List.any_eq_true]

end BackingField
end HouseStyle
