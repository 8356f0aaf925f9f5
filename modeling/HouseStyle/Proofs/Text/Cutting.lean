import HouseStyle.Text.Case
import HouseStyle.Text.Split

/-!
# Where texts are cut

A cut at the first or the last separator, or before a last character, is told
by how the parts make up the text.  Comparison up to letter case is comparison of the
texts in small letters, which do not change when written small again.
-/

namespace HouseStyle
namespace Text

/-! ## Parts -/

/-- A text is cut at the first separator: none stands before the cut. -/
theorem cutFirst?_eq_some_iff
    {separator : Char}
    {text before after : List Char} :
    cutFirst? separator text = some (before, after) ↔
      text = before ++ separator :: after ∧ separator ∉ before := by
  induction text generalizing before with
  | nil => simp [cutFirst?]
  | cons character rest inductionHypothesis =>
      rw [cutFirst?]
      by_cases found : character = separator
      · subst found
        cases before with
        | nil => simp
        | cons first others =>
            simp only [if_true, Option.some.injEq, Prod.mk.injEq, List.cons_append]
            grind
      · rw [if_neg found]
        cases before with
        | nil => simp [found]
        | cons first others =>
            simp only [Option.map_eq_some_iff, Prod.exists]
            grind

theorem cutFirst?_eq_none_iff
    {separator : Char}
    {text : List Char} :
    cutFirst? separator text = none ↔ separator ∉ text := by
  induction text with
  | nil => simp [cutFirst?]
  | cons character rest inductionHypothesis =>
      rw [cutFirst?, List.mem_cons, not_or, ← inductionHypothesis]
      by_cases found : character = separator
      · simp [found]
      · simp [found, Ne.symm found]

/-- What stands before the first separator is all of a text without one. -/
theorem fst_cutFirst?_getD (separator : Char) (text : List Char) :
    ((cutFirst? separator text).map Prod.fst).getD text = text.takeWhile (· ≠ separator) := by
  induction text with
  | nil => rfl
  | cons character rest inductionHypothesis =>
      rw [cutFirst?]
      by_cases found : character = separator
      · simp [found]
      · rw [if_neg found, List.takeWhile_cons_of_pos (by simpa using found), ← inductionHypothesis]
        cases cutFirst? separator rest <;> rfl

/-- A last character is dropped only from a text that ends in it. -/
theorem dropEnd?_eq_some_iff
    {last : Char}
    {text front : List Char} :
    dropEnd? last text = some front ↔ text = front ++ [last] := by
  induction text generalizing front with
  | nil => simp [dropEnd?]
  | cons character rest inductionHypothesis =>
      cases rest with
      | nil =>
          rw [dropEnd?]
          cases front <;> simp
      | cons next others =>
          rw [dropEnd?, Option.map_eq_some_iff]
          simp only [inductionHypothesis]
          cases front with
          | nil => simp
          | cons first more =>
              simp only [List.cons.injEq, List.cons_append]
              grind

theorem dropEnd?_eq_none_iff
    {last : Char}
    {text : List Char} :
    dropEnd? last text = none ↔ text.getLast? ≠ some last := by
  rw [Option.eq_none_iff_forall_ne_some, Ne, List.getLast?_eq_some_iff, not_exists]
  exact forall_congr' fun front => not_congr dropEnd?_eq_some_iff

theorem afterLast?_eq_none_iff
    {separator : Char}
    {text : List Char} :
    afterLast? separator text = none ↔ separator ∉ text := by
  induction text with
  | nil => simp [afterLast?]
  | cons character rest inductionHypothesis =>
      rw [afterLast?, List.mem_cons, not_or, ← inductionHypothesis]
      cases afterLast? separator rest with
      | none => simp [eq_comm]
      | some found => simp

theorem afterLast?_append
    {separator : Char}
    {after : List Char}
    (absent : separator ∉ after)
    (before : List Char) :
    afterLast? separator (before ++ separator :: after) = some after := by
  induction before with
  | nil => simp [afterLast?, afterLast?_eq_none_iff.mpr absent]
  | cons character rest inductionHypothesis =>
      rw [List.cons_append, afterLast?, inductionHypothesis]

/-- What follows the last separator holds none. -/
theorem afterLast?_eq_some_iff
    {separator : Char}
    {text after : List Char} :
    afterLast? separator text = some after ↔
      ∃ before, text = before ++ separator :: after ∧ separator ∉ after := by
  constructor
  · intro found
    induction text with
    | nil => cases found
    | cons character rest inductionHypothesis =>
        rw [afterLast?] at found
        cases further : afterLast? separator rest with
        | some ending =>
            rw [further] at found inductionHypothesis
            obtain ⟨before, same, absent⟩ := inductionHypothesis found
            exact ⟨character :: before, congrArg (character :: ·) same, absent⟩
        | none =>
            rw [further] at found
            obtain ⟨rfl, rfl⟩ : character = separator ∧ rest = after := by simpa using found
            exact ⟨[], rfl, afterLast?_eq_none_iff.mp further⟩
  · rintro ⟨before, rfl, absent⟩
    exact afterLast?_append absent before

/-- What stands at the end of a text, from the start of one of its pieces on. -/
def IsTail (separator : Char) (text tail : List Char) : Prop :=
  ∃ front, text = front ++ tail ∧ (front = [] ∨ front.getLast? = some separator)

/-- What stands after the last separator, or all of a text without one. -/
def IsLastPiece (separator : Char) (text last : List Char) : Prop :=
  separator ∉ last ∧ IsTail separator text last

theorem isTail_self (separator : Char) (text : List Char) : IsTail separator text text :=
  ⟨[], rfl, Or.inl rfl⟩

theorem IsTail.trans
    {separator : Char}
    {text middle tail : List Char}
    (first : IsTail separator text middle)
    (second : IsTail separator middle tail) :
    IsTail separator text tail := by
  obtain ⟨front, rfl, border⟩ := first
  obtain ⟨more, rfl, rfl | ends⟩ := second
  · exact ⟨front, rfl, border⟩
  · refine ⟨front ++ more, (List.append_assoc ..).symm, Or.inr ?_⟩
    rw [List.getLast?_append, ends, Option.some_or]

/-- The last piece is what follows the last separator, or the whole text if there is none. -/
theorem isLastPiece_iff
    {separator : Char}
    {text last : List Char} :
    IsLastPiece separator text last ↔ (afterLast? separator text).getD text = last := by
  constructor
  · rintro ⟨absent, front, rfl, rfl | ends⟩
    · rw [List.nil_append, afterLast?_eq_none_iff.mpr absent, Option.getD_none]
    · obtain ⟨before, rfl⟩ := List.getLast?_eq_some_iff.mp ends
      rw [List.append_assoc, List.singleton_append, afterLast?_append absent, Option.getD_some]
  · intro same
    cases cut : afterLast? separator text with
    | none =>
        rw [cut, Option.getD_none] at same
        exact same ▸ ⟨afterLast?_eq_none_iff.mp cut, [], rfl, Or.inl rfl⟩
    | some after =>
        rw [cut, Option.getD_some] at same
        obtain ⟨before, split, absent⟩ := afterLast?_eq_some_iff.mp cut
        refine same ▸ ⟨absent, before ++ [separator], ?_, Or.inr List.getLast?_concat⟩
        rw [split, List.append_assoc, List.singleton_append]

/-- An ending without a separator lies in every tail. -/
theorem IsTail.isSuffix_iff
    {separator : Char}
    {text tail ending : List Char}
    (isTail : IsTail separator text tail)
    (absent : separator ∉ ending) :
    ending <:+ text ↔ ending <:+ tail := by
  obtain ⟨front, rfl, border⟩ := isTail
  constructor
  · rintro ⟨before, same⟩
    rcases List.append_eq_append_iff.mp same with ⟨middle, rfl, rfl⟩ | ⟨middle, rfl, rfl⟩
    · -- the ending would reach back over the border
      rcases border with empty | ends
      · rw [(List.append_eq_nil_iff.mp empty).2]
        exact List.suffix_rfl
      · rcases List.eq_nil_or_concat middle with rfl | ⟨others, last, rfl⟩
        · exact List.suffix_rfl
        · rw [List.concat_eq_append, ← List.append_assoc, List.getLast?_concat,
            Option.some.injEq] at ends
          exact absurd (by simp [ends]) absent
    · exact List.suffix_append _ _
  · intro ends
    exact ends.trans (List.suffix_append _ _)

/-- A tail that begins after a separator has the same last piece as the whole text. -/
theorem IsTail.isLastPiece
    {separator : Char}
    {text tail last : List Char}
    (isTail : IsTail separator text tail)
    (isLast : IsLastPiece separator text last) :
    IsLastPiece separator tail last := by
  obtain ⟨absent, further⟩ :
      IsLastPiece separator tail ((afterLast? separator tail).getD tail) :=
    isLastPiece_iff.mpr rfl
  have same := isLastPiece_iff.mp ⟨absent, isTail.trans further⟩
  rw [isLastPiece_iff.mp isLast] at same
  exact isLastPiece_iff.mpr same.symm

/-- Every text has a piece, the empty text included. -/
theorem pieces_ne_nil (separator : Char) (text : List Char) :
    pieces separator text ≠ [] := by
  cases text with
  | nil => simp [pieces]
  | cons character rest =>
      rw [pieces]
      split
      · simp
      · cases pieces separator rest <;> simp [consToFirst]

/-- The search for a text in another one finds exactly its infixes. -/
theorem occursIn_iff {sought text : List Char} :
    occursIn sought text = true ↔ sought <:+: text := by
  induction text with
  | nil => simp [occursIn]
  | cons character rest inductionHypothesis =>
      rw [occursIn, Bool.or_eq_true, List.isPrefixOf_iff_prefix, inductionHypothesis,
        List.infix_cons_iff]

/-! ## Letter case -/

theorem lower_lower (text : List Char) :
    lower (lower text) = lower text := by
  rw [lower, lower, List.map_map]
  apply List.map_congr_left
  intro character _
  rw [Function.comp_apply]
  delta Char.toLower
  grind

theorem sameIgnoringCase_iff {left right : List Char} :
    sameIgnoringCase left right = true ↔ lower left = lower right :=
  beq_iff_eq

/-- A character that is no letter comes from no other one when letters are made small. -/
theorem toLower_eq_iff
    {character separator : Char}
    (noLetter : separator.isAlpha = false) :
    character.toLower = separator ↔ character = separator := by
  delta Char.isAlpha Char.isUpper Char.isLower at noLetter
  simp only [Bool.or_eq_false_iff, Bool.and_eq_false_iff, decide_eq_false_iff_not] at noLetter
  delta Char.toLower
  grind

/-- Making letters small neither adds nor removes a separator that is no letter. -/
theorem mem_lower_iff
    {separator : Char}
    {text : List Char}
    (noLetter : separator.isAlpha = false) :
    separator ∈ lower text ↔ separator ∈ text := by
  simp only [lower, List.mem_map, toLower_eq_iff noLetter, exists_eq_right]

/-- Whether letters are made small before or after the cut makes no difference. -/
theorem afterLast?_lower
    {separator : Char}
    (noLetter : separator.isAlpha = false)
    (text : List Char) :
    afterLast? separator (lower text) = (afterLast? separator text).map lower := by
  induction text with
  | nil => rfl
  | cons character rest inductionHypothesis =>
      change afterLast? separator (character.toLower :: lower rest) = _
      rw [afterLast?, afterLast?, inductionHypothesis]
      cases afterLast? separator rest with
      | some found => rfl
      | none => simp [toLower_eq_iff noLetter, apply_ite]

end Text
end HouseStyle
