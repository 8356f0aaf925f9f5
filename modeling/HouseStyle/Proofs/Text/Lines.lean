import HouseStyle.Text.Blank
import HouseStyle.Proofs.Text.Cutting

/-!
# The lines of a text

A line feed ends a line, together with a carriage return right before it.  What
follows the last line feed is a line unless it is empty.  A line is left empty by
trimming exactly if it holds nothing but blanks.
-/

namespace HouseStyle
namespace Text

/-- The lines of a text, told by where they end. -/
inductive HasLines : List Char → List (List Char) → Prop where
  /-- There is no line in the empty text. -/
  | none : HasLines [] []
  /-- A text without a line feed is one line. -/
  | unended
      {line : List Char}
      (written : line ≠ [])
      (noFeed : '\n' ∉ line) :
      HasLines line [line]
  /-- A line feed ends a line. -/
  | feed
      {line rest : List Char}
      {lines : List (List Char)}
      (noFeed : '\n' ∉ line)
      (noReturn : line.getLast? ≠ some '\r')
      (further : HasLines rest lines) :
      HasLines (line ++ '\n' :: rest) (line :: lines)
  /-- A carriage return before the line feed does not belong to the line. -/
  | returnFeed
      {line rest : List Char}
      {lines : List (List Char)}
      (noFeed : '\n' ∉ line)
      (further : HasLines rest lines) :
      HasLines (line ++ '\r' :: '\n' :: rest) (line :: lines)

theorem HasLines.feed_notMem
    {text line : List Char}
    {lines : List (List Char)}
    (cut : HasLines text lines)
    (listed : line ∈ lines) :
    '\n' ∉ line := by
  induction cut with
  | none => cases listed
  | unended _ noFeed => exact List.mem_singleton.mp listed ▸ noFeed
  | feed noFeed _ _ inductionHypothesis =>
      rcases List.mem_cons.mp listed with rfl | later
      · exact noFeed
      · exact inductionHypothesis later
  | returnFeed noFeed _ inductionHypothesis =>
      rcases List.mem_cons.mp listed with rfl | later
      · exact noFeed
      · exact inductionHypothesis later

/-! ## Pieces -/

theorem pieces_of_notMem
    {separator : Char}
    {text : List Char}
    (absent : separator ∉ text) :
    pieces separator text = [text] := by
  induction text with
  | nil => rfl
  | cons character rest inductionHypothesis =>
      obtain ⟨different, further⟩ := List.ne_and_not_mem_of_not_mem_cons absent
      rw [pieces, if_neg different.symm, inductionHypothesis further, consToFirst]

theorem pieces_append_separator
    {separator : Char}
    {line : List Char}
    (absent : separator ∉ line)
    (rest : List Char) :
    pieces separator (line ++ separator :: rest) = line :: pieces separator rest := by
  induction line with
  | nil => rw [List.nil_append, pieces, if_pos rfl]
  | cons character others inductionHypothesis =>
      obtain ⟨different, further⟩ := List.ne_and_not_mem_of_not_mem_cons absent
      rw [List.cons_append, pieces, if_neg different.symm, inductionHypothesis further, consToFirst]

/-- Texts without a separator are the pieces of what they make up with separators between them. -/
theorem pieces_intercalate
    {separator : Char}
    {texts : List (List Char)}
    (written : texts ≠ [])
    (absent : ∀ text ∈ texts, separator ∉ text) :
    pieces separator ([separator].intercalate texts) = texts := by
  induction texts with
  | nil => exact absurd rfl written
  | cons text rest inductionHypothesis =>
      rw [List.forall_mem_cons] at absent
      cases rest with
      | nil => rw [List.intercalate_singleton, pieces_of_notMem absent.1]
      | cons next others =>
          rw [List.intercalate_cons_cons, List.append_assoc, List.singleton_append,
            pieces_append_separator absent.1,
            inductionHypothesis (List.cons_ne_nil _ _) absent.2]

/-- No separator stands in a piece, and the pieces make up the text with separators between. -/
theorem intercalate_pieces (separator : Char) (text : List Char) :
    (∀ piece ∈ pieces separator text, separator ∉ piece) ∧
      [separator].intercalate (pieces separator text) = text := by
  induction text with
  | nil => simp [pieces]
  | cons character rest inductionHypothesis =>
      obtain ⟨piece, more, found⟩ := List.exists_cons_of_ne_nil (pieces_ne_nil separator rest)
      rw [found, List.forall_mem_cons] at inductionHypothesis
      obtain ⟨⟨absent, further⟩, whole⟩ := inductionHypothesis
      rw [pieces, found]
      by_cases same : character = separator
      · rw [if_pos same, List.intercalate_cons_cons, whole, same]
        simpa using ⟨absent, further⟩
      · rw [if_neg same, consToFirst, List.forall_mem_cons]
        refine ⟨⟨List.not_mem_cons_of_ne_of_not_mem (Ne.symm same) absent, further⟩, ?_⟩
        cases more with
        | nil =>
            rw [List.intercalate_singleton] at whole ⊢
            rw [whole]
        | cons next others =>
            rw [List.intercalate_cons_cons] at whole ⊢
            rw [← whole]
            rfl

/-- The last of several texts ends what they make up with separators between them. -/
theorem isTail_intercalate
    {separator : Char}
    {texts : List (List Char)}
    {last : List Char}
    (ends : texts.getLast? = some last) :
    IsTail separator ([separator].intercalate texts) last := by
  induction texts with
  | nil => cases ends
  | cons text rest inductionHypothesis =>
      cases rest with
      | nil =>
          cases ends
          rw [List.intercalate_singleton]
          exact isTail_self separator text
      | cons next others =>
          rw [List.getLast?_cons_cons] at ends
          have later : IsTail separator ([separator].intercalate (text :: next :: others))
              ([separator].intercalate (next :: others)) :=
            ⟨text ++ [separator], List.intercalate_cons_cons, Or.inr List.getLast?_concat⟩
          exact later.trans (inductionHypothesis ends)

theorem lines_of_notMem
    {text : List Char}
    (noFeed : '\n' ∉ text) :
    lines text = if text.isEmpty then [] else [text] := by
  rw [lines, pieces_of_notMem noFeed, linesOfPieces]

theorem lines_append_feed
    {line : List Char}
    (noFeed : '\n' ∉ line)
    (rest : List Char) :
    lines (line ++ '\n' :: rest) = dropReturn line :: lines rest := by
  obtain ⟨piece, more, found⟩ := List.exists_cons_of_ne_nil (pieces_ne_nil '\n' rest)
  rw [lines, pieces_append_separator noFeed, lines, found, linesOfPieces]

/-- What holds of texts without a line feed, and of a text when it holds of what follows its
first line, holds of all texts. -/
theorem induction_on_lines
    {motive : List Char → Prop}
    (last : ∀ line, '\n' ∉ line → motive line)
    (feed : ∀ line rest, '\n' ∉ line → motive rest → motive (line ++ '\n' :: rest))
    (text : List Char) :
    motive text := by
  cases cut : cutFirst? '\n' text with
  | none => exact last text (cutFirst?_eq_none_iff.mp cut)
  | some parts =>
      obtain ⟨line, rest⟩ := parts
      obtain ⟨split, noFeed⟩ := cutFirst?_eq_some_iff.mp cut
      have shorter : rest.length < text.length := by
        rw [split, List.length_append, List.length_cons]
        omega
      rw [split]
      exact feed line rest noFeed (induction_on_lines last feed rest)
termination_by text.length

/-- A text is cut into its lines. -/
theorem hasLines_lines (text : List Char) : HasLines text (lines text) := by
  induction text using induction_on_lines with
  | last line noFeed =>
      rw [lines_of_notMem noFeed]
      cases line with
      | nil => exact .none
      | cons character rest => exact .unended (List.cons_ne_nil _ _) noFeed
  | feed line rest noFeed further =>
      rw [lines_append_feed noFeed, dropReturn]
      cases returned : dropEnd? '\r' line with
      | none => exact .feed noFeed (dropEnd?_eq_none_iff.mp returned) further
      | some front =>
          obtain rfl := dropEnd?_eq_some_iff.mp returned
          rw [List.append_assoc]
          exact .returnFeed (fun found => noFeed (List.mem_append_left _ found)) further

/-! ## Blanks -/

theorem trimEnd_eq_nil_iff {text : List Char} :
    trimEnd text = [] ↔ ∀ character ∈ text, isBlank character = true := by
  induction text with
  | nil => simp [trimEnd]
  | cons character rest inductionHypothesis =>
      rw [List.forall_mem_cons, ← inductionHypothesis, trimEnd]
      cases trimEnd rest with
      | nil => simp
      | cons next kept => simp

theorem trim_eq_nil_iff {text : List Char} :
    trim text = [] ↔ ∀ character ∈ text, isBlank character = true := by
  rw [trim, trimEnd_eq_nil_iff, trimStart]
  induction text with
  | nil => simp
  | cons character rest inductionHypothesis =>
      by_cases blank : isBlank character = true
      · rw [List.dropWhile_cons_of_pos blank, inductionHypothesis, List.forall_mem_cons]
        exact (and_iff_right blank).symm
      · rw [List.dropWhile_cons_of_neg blank]

theorem trimEnd_concat_of_isBlank
    {character : Char}
    (blank : isBlank character = true)
    (text : List Char) :
    trimEnd (text ++ [character]) = trimEnd text := by
  induction text with
  | nil => simp [trimEnd, blank]
  | cons first rest inductionHypothesis =>
      rw [List.cons_append, trimEnd, inductionHypothesis, trimEnd]

theorem trim_concat_of_isBlank
    {character : Char}
    (blank : isBlank character = true)
    (text : List Char) :
    trim (text ++ [character]) = trim text := by
  rw [trim, trim, trimStart, trimStart, List.dropWhile_append]
  by_cases empty : (text.dropWhile isBlank).isEmpty = true
  · rw [if_pos empty, List.isEmpty_iff.mp empty, List.dropWhile_cons_of_pos blank,
      List.dropWhile_nil]
  · rw [if_neg empty, trimEnd_concat_of_isBlank blank]

/-- A carriage return before a line feed is blank anyway. -/
theorem trim_dropReturn (line : List Char) : trim (dropReturn line) = trim line := by
  rw [dropReturn]
  cases returned : dropEnd? '\r' line with
  | none => rfl
  | some front =>
      obtain rfl := dropEnd?_eq_some_iff.mp returned
      exact (trim_concat_of_isBlank rfl front).symm

theorem exists_eq_trimEnd_append (text : List Char) :
    ∃ after, text = trimEnd text ++ after ∧ ∀ character ∈ after, isBlank character = true := by
  induction text with
  | nil => exact ⟨[], rfl, by simp⟩
  | cons character rest inductionHypothesis =>
      obtain ⟨after, split, blank⟩ := inductionHypothesis
      rw [trimEnd]
      cases kept : trimEnd rest with
      | nil =>
          rw [kept, List.nil_append] at split
          subst split
          by_cases isBlank : isBlank character = true
          · exact ⟨character :: rest, by simp [isBlank], by simpa [isBlank] using blank⟩
          · exact ⟨rest, by simp [isBlank], blank⟩
      | cons next others =>
          rw [kept] at split
          exact ⟨after, congrArg (character :: ·) split, blank⟩

/-- A text is what is left of it by trimming, between blanks. -/
theorem exists_eq_append_trim_append (text : List Char) :
    ∃ before after, text = before ++ trim text ++ after ∧
      (∀ character ∈ before, isBlank character = true) ∧
      (∀ character ∈ after, isBlank character = true) := by
  obtain ⟨after, split, blank⟩ := exists_eq_trimEnd_append (trimStart text)
  refine ⟨text.takeWhile isBlank, after, ?_, List.all_eq_true.mp List.all_takeWhile, blank⟩
  calc
    text = text.takeWhile isBlank ++ trimStart text := List.takeWhile_append_dropWhile.symm
    _ = text.takeWhile isBlank ++ (trim text ++ after) := congrArg _ split
    _ = text.takeWhile isBlank ++ trim text ++ after := (List.append_assoc _ _ _).symm

end Text
end HouseStyle
