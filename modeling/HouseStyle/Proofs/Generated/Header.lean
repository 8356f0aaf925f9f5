import HouseStyle.Generated
import HouseStyle.Proofs.Text.Lines
import Mathlib.Data.List.Induction

/-!
# What stands before the code

Blanks, comments and preprocessor lines stand before the code of a text.  A
reader that goes from left to right, one character at a time, can tell at every
place whether it is between them, inside one of them, or in the code.
-/

namespace HouseStyle
namespace Generated

/-! ## The top of a text -/

/-- Nothing but blanks stands after the last line feed of a text. -/
def StartsLine (text : List Char) : Prop :=
  ∃ lines blanks, text = lines ++ blanks ∧
    (∀ character ∈ blanks, Text.isBlank character = true) ∧
    (lines = [] ∨ lines.getLast? = some '\n')

/-- The end of a block comment stands in a text. -/
def Closes (text : List Char) : Prop :=
  ['*', '/'] <:+: text

/-- A text holds nothing but blanks, finished comments and preprocessor lines. -/
inductive IsLeading : List Char → Prop where
  | nil : IsLeading []
  | blank
      {before : List Char}
      {character : Char}
      (leading : IsLeading before)
      (isBlank : Text.isBlank character = true) :
      IsLeading (before ++ [character])
  | lineComment
      {before body : List Char}
      (leading : IsLeading before)
      (inLine : '\n' ∉ body) :
      IsLeading (before ++ '/' :: '/' :: (body ++ ['\n']))
  | blockComment
      {before body : List Char}
      (leading : IsLeading before)
      (unclosed : ¬ Closes body) :
      IsLeading (before ++ '/' :: '*' :: (body ++ ['*', '/']))
  /-- A preprocessor line may be indented, but no comment stands before it on its line. -/
  | directive
      {before body : List Char}
      (leading : IsLeading before)
      (startsLine : StartsLine before)
      (inLine : '\n' ∉ body) :
      IsLeading (before ++ '#' :: (body ++ ['\n']))

/-- The mark stands in a comment before the code. -/
inductive MarksLeadingComment (text : List Char) : Prop where
  | line
      {before body after : List Char}
      (leading : IsLeading before)
      (split : text = before ++ '/' :: '/' :: (body ++ mark ++ after))
      (inLine : '\n' ∉ body ++ mark)
  | block
      {before body after : List Char}
      (leading : IsLeading before)
      (split : text = before ++ '/' :: '*' :: (body ++ mark ++ after))
      (unclosed : ¬ Closes (body ++ mark))

/-- A text begins with neither a blank nor a comment. -/
def BeginsCode (text : List Char) : Prop :=
  (∃ character rest, text = character :: rest ∧ Text.isBlank character = false) ∧
    ¬ ['/', '/'] <+: text ∧ ¬ ['/', '*'] <+: text

/-- Code begins on a line on which a block comment at the top ends. -/
def CodeSharesLine (text : List Char) : Prop :=
  ∃ before code, text = before ++ code ∧ IsLeading before ∧ ¬ StartsLine before ∧ BeginsCode code

theorem startsLine_nil : StartsLine [] :=
  ⟨[], [], rfl, by simp, Or.inl rfl⟩

theorem startsLine_concat_iff
    {text : List Char}
    {character : Char} :
    StartsLine (text ++ [character]) ↔
      character = '\n' ∨ Text.isBlank character = true ∧ StartsLine text := by
  constructor
  · rintro ⟨lines, blanks, split, blank, ended⟩
    rcases List.eq_nil_or_concat blanks with rfl | ⟨fewer, last, rfl⟩
    · rw [List.append_nil] at split
      subst split
      refine Or.inl ?_
      simpa using ended
    · rw [List.concat_eq_append, ← List.append_assoc] at split
      obtain ⟨rfl, same⟩ := List.append_inj' split rfl
      obtain rfl := List.singleton_inj.mp same
      refine Or.inr ⟨blank character (by simp), lines, fewer, rfl, ?_, ended⟩
      intro other found
      exact blank other (by simp [found])
  · rintro (rfl | ⟨isBlank, lines, blanks, rfl, blank, ended⟩)
    · exact ⟨text ++ ['\n'], [], by simp, by simp, Or.inr (by simp)⟩
    · refine ⟨lines, blanks ++ [character], by simp, ?_, ended⟩
      intro other found
      rcases List.mem_append.mp found with earlier | last
      · exact blank other earlier
      · exact List.mem_singleton.mp last ▸ isBlank

theorem closes_concat_iff
    {text : List Char}
    {character : Char} :
    Closes (text ++ [character]) ↔
      Closes text ∨ text.getLast? = some '*' ∧ character = '/' := by
  rw [Closes, List.infix_concat_iff, or_comm, ← Closes]
  refine or_congr_right ?_
  rw [List.suffix_concat_iff]
  constructor
  · rintro (impossible | ⟨front, split, isSuffix⟩)
    · cases impossible
    · obtain ⟨rfl, same⟩ :=
        List.append_inj' (show ['*'] ++ ['/'] = front ++ [character] from split) rfl
      obtain rfl := List.singleton_inj.mp same
      obtain ⟨earlier, rfl⟩ := isSuffix
      simp
  · rintro ⟨last, rfl⟩
    obtain ⟨earlier, rfl⟩ := List.getLast?_eq_some_iff.mp last
    exact Or.inr ⟨['*'], rfl, earlier, rfl⟩

/-- No block comment ends in further characters without a slash. -/
theorem closes_append_iff
    {text more : List Char}
    (noSlash : '/' ∉ more) :
    Closes (text ++ more) ↔ Closes text := by
  induction more using List.reverseRecOn with
  | nil => rw [List.append_nil]
  | append_singleton fewer character inductionHypothesis =>
      rw [List.mem_append, not_or, List.mem_singleton] at noSlash
      rw [← List.append_assoc, closes_concat_iff, inductionHypothesis noSlash.1]
      simp [Ne.symm noSlash.2]

/-! ## Places -/

/-- Where a reader is; `startsLine` tells that only blanks stand before it on its line. -/
inductive Place where
  /-- Between comments. -/
  | top (startsLine : Bool)
  /-- After a slash that may begin a comment. -/
  | slash (startsLine : Bool)
  | lineComment
  | blockComment
  /-- In a block comment, after a star that may begin its end. -/
  | star
  | directive
  /-- In the code; `startsLine` tells where it began. -/
  | code (startsLine : Bool)
deriving DecidableEq, Repr

namespace Place

/-- The place after one more character. -/
def next : Place → Char → Place
  | top startsLine, character =>
      if character = '\n' then top true
      else if Text.isBlank character then top startsLine
      else if character = '/' then slash startsLine
      else if character = '#' ∧ startsLine then directive
      else code startsLine
  | slash startsLine, character =>
      if character = '/' then lineComment
      else if character = '*' then blockComment
      else code startsLine
  | lineComment, character => if character = '\n' then top true else lineComment
  | blockComment, character => if character = '*' then star else blockComment
  | star, character =>
      if character = '/' then top false
      else if character = '*' then star
      else blockComment
  | directive, character => if character = '\n' then top true else directive
  | code startsLine, _ => code startsLine

/-- The place after a text. -/
def after (place : Place) (text : List Char) : Place :=
  text.foldl next place

/-- The place is inside a comment. -/
def isComment : Place → Bool
  | lineComment | blockComment | star => true
  | _ => false

@[simp] theorem after_nil (place : Place) : place.after [] = place :=
  rfl

@[simp] theorem after_cons (place : Place) (character : Char) (rest : List Char) :
    place.after (character :: rest) = (place.next character).after rest :=
  rfl

theorem after_append (place : Place) (text more : List Char) :
    place.after (text ++ more) = (place.after text).after more :=
  List.foldl_append

/-- The code goes on to the end. -/
theorem after_code (startsLine : Bool) (text : List Char) :
    (code startsLine).after text = code startsLine := by
  induction text with
  | nil => rfl
  | cons character rest inductionHypothesis => exact inductionHypothesis

/-- A place describes the text before it. -/
def Describes : Place → List Char → Prop
  | top startsLine, text => IsLeading text ∧ (StartsLine text ↔ startsLine = true)
  | slash startsLine, text =>
      ∃ before, text = before ++ ['/'] ∧ IsLeading before ∧
        (StartsLine before ↔ startsLine = true)
  | lineComment, text =>
      ∃ before body, text = before ++ '/' :: '/' :: body ∧ IsLeading before ∧ '\n' ∉ body
  | blockComment, text =>
      ∃ before body, text = before ++ '/' :: '*' :: body ∧ IsLeading before ∧ ¬ Closes body ∧
        body.getLast? ≠ some '*'
  | star, text =>
      ∃ before body, text = before ++ '/' :: '*' :: (body ++ ['*']) ∧ IsLeading before ∧
        ¬ Closes body
  | directive, text =>
      ∃ before body, text = before ++ '#' :: body ∧ IsLeading before ∧ StartsLine before ∧
        '\n' ∉ body
  | code startsLine, text =>
      ∃ before body, text = before ++ body ∧ IsLeading before ∧
        (StartsLine before ↔ startsLine = true) ∧ ∀ rest, BeginsCode (body ++ rest)

theorem beginsCode_cons
    {character : Char}
    (written : Text.isBlank character = false)
    (noSlash : character ≠ '/')
    (rest : List Char) :
    BeginsCode (character :: rest) :=
  ⟨⟨character, rest, rfl, written⟩, by simp [Ne.symm noSlash], by simp [Ne.symm noSlash]⟩

theorem beginsCode_slash_cons
    {character : Char}
    (noSlash : character ≠ '/')
    (noStar : character ≠ '*')
    (rest : List Char) :
    BeginsCode ('/' :: character :: rest) :=
  ⟨⟨'/', _, rfl, rfl⟩, by simp [Ne.symm noSlash], by simp [Ne.symm noStar]⟩

/-- One more character is described by the place after it. -/
theorem describes_next
    {place : Place}
    {text : List Char}
    (described : place.Describes text)
    (character : Char) :
    (place.next character).Describes (text ++ [character]) := by
  cases place with
  | top startsLine =>
      obtain ⟨leading, starts⟩ := described
      simp only [next]
      split_ifs with isFeed blank isSlash isHash
      · subst isFeed
        exact ⟨.blank leading rfl, by simp [startsLine_concat_iff]⟩
      · exact ⟨.blank leading blank, by simp [startsLine_concat_iff, isFeed, blank, starts]⟩
      · subst isSlash
        exact ⟨text, rfl, leading, starts⟩
      · obtain ⟨rfl, isStart⟩ := isHash
        exact ⟨text, [], rfl, leading, starts.mpr isStart, List.not_mem_nil⟩
      · have written : Text.isBlank character = false := by simpa using blank
        exact ⟨text, [character], rfl, leading, starts, beginsCode_cons written isSlash⟩
  | slash startsLine =>
      obtain ⟨before, rfl, leading, starts⟩ := described
      simp only [next]
      split_ifs with isSlash isStar
      · subst isSlash
        exact ⟨before, [], by simp, leading, List.not_mem_nil⟩
      · subst isStar
        exact ⟨before, [], by simp, leading, by simp [Closes], by simp⟩
      · exact ⟨before, ['/', character], by simp, leading, starts,
          beginsCode_slash_cons isSlash isStar⟩
  | lineComment =>
      obtain ⟨before, body, rfl, leading, inLine⟩ := described
      simp only [next]
      split_ifs with isFeed
      · subst isFeed
        refine ⟨?_, iff_of_true (startsLine_concat_iff.mpr (Or.inl rfl)) rfl⟩
        simpa using IsLeading.lineComment leading inLine
      · exact ⟨before, body ++ [character], by simp, leading, by simp [inLine, Ne.symm isFeed]⟩
  | blockComment =>
      obtain ⟨before, body, rfl, leading, unclosed, noStar⟩ := described
      simp only [next]
      split_ifs with isStar
      · subst isStar
        exact ⟨before, body, by simp, leading, unclosed⟩
      · exact ⟨before, body ++ [character], by simp, leading,
          by simp [closes_concat_iff, unclosed, noStar], by simpa using isStar⟩
  | star =>
      obtain ⟨before, body, rfl, leading, unclosed⟩ := described
      simp only [next]
      split_ifs with isSlash isStar
      · subst isSlash
        refine ⟨?_, ?_⟩
        · simpa using IsLeading.blockComment leading unclosed
        · rw [startsLine_concat_iff]
          simp [show Text.isBlank '/' = false from rfl]
      · subst isStar
        exact ⟨before, body ++ ['*'], by simp, leading, by simp [closes_concat_iff, unclosed]⟩
      · exact ⟨before, body ++ ['*'] ++ [character], by simp, leading,
          by simp only [closes_concat_iff, unclosed, isSlash]; simp, by simpa using isStar⟩
  | directive =>
      obtain ⟨before, body, rfl, leading, starts, inLine⟩ := described
      simp only [next]
      split_ifs with isFeed
      · subst isFeed
        refine ⟨?_, iff_of_true (startsLine_concat_iff.mpr (Or.inl rfl)) rfl⟩
        simpa using IsLeading.directive leading starts inLine
      · exact ⟨before, body ++ [character], by simp, leading, starts,
          by simp [inLine, Ne.symm isFeed]⟩
  | code startsLine =>
      obtain ⟨before, body, rfl, leading, starts, begins⟩ := described
      refine ⟨before, body ++ [character], by simp, leading, starts, ?_⟩
      intro rest
      simpa using begins (character :: rest)

/-- The place after a text describes it. -/
theorem describes_after (text : List Char) : ((top true).after text).Describes text := by
  induction text using List.reverseRecOn with
  | nil => exact ⟨.nil, by simp [startsLine_nil]⟩
  | append_singleton text character inductionHypothesis =>
      rw [after_append]
      exact describes_next inductionHypothesis character

theorem after_lineComment
    {text : List Char}
    (inLine : '\n' ∉ text) :
    lineComment.after text = lineComment := by
  induction text with
  | nil => rfl
  | cons character rest inductionHypothesis =>
      obtain ⟨different, further⟩ := List.ne_and_not_mem_of_not_mem_cons inLine
      rw [after_cons, next, if_neg different.symm, inductionHypothesis further]

theorem after_directive
    {text : List Char}
    (inLine : '\n' ∉ text) :
    directive.after text = directive := by
  induction text with
  | nil => rfl
  | cons character rest inductionHypothesis =>
      obtain ⟨different, further⟩ := List.ne_and_not_mem_of_not_mem_cons inLine
      rw [after_cons, next, if_neg different.symm, inductionHypothesis further]

/-- A block comment that does not end leaves its reader inside. -/
theorem after_blockComment
    {text : List Char}
    (unclosed : ¬ Closes text) :
    blockComment.after text = if text.getLast? = some '*' then star else blockComment := by
  induction text using List.reverseRecOn with
  | nil => rfl
  | append_singleton text character inductionHypothesis =>
      rw [closes_concat_iff, not_or, not_and] at unclosed
      rw [after_append, inductionHypothesis unclosed.1]
      by_cases last : text.getLast? = some '*'
      · simp [last, next, unclosed.2 last]
      · simp [last, next]

theorem after_lineComment_start (startsLine : Bool) (rest : List Char) :
    (top startsLine).after ('/' :: '/' :: rest) = lineComment.after rest :=
  rfl

theorem after_blockComment_start (startsLine : Bool) (rest : List Char) :
    (top startsLine).after ('/' :: '*' :: rest) = blockComment.after rest :=
  rfl

theorem after_blockComment_end
    {text : List Char}
    (unclosed : ¬ Closes text) :
    blockComment.after (text ++ ['*', '/']) = top false := by
  rw [after_append, after_blockComment unclosed]
  split_ifs <;> rfl

theorem exists_after_of_isLeading
    {text : List Char}
    (leading : IsLeading text) :
    ∃ startsLine, (top true).after text = top startsLine := by
  induction leading with
  | nil => exact ⟨true, rfl⟩
  | blank leading blank inductionHypothesis =>
      obtain ⟨startsLine, reached⟩ := inductionHypothesis
      rw [after_append, reached, after_cons, after_nil, next, if_pos blank]
      split_ifs
      · exact ⟨true, rfl⟩
      · exact ⟨startsLine, rfl⟩
  | lineComment leading inLine inductionHypothesis =>
      obtain ⟨startsLine, reached⟩ := inductionHypothesis
      refine ⟨true, ?_⟩
      rw [after_append, reached, after_lineComment_start, after_append, after_lineComment inLine]
      rfl
  | blockComment leading unclosed inductionHypothesis =>
      obtain ⟨startsLine, reached⟩ := inductionHypothesis
      refine ⟨false, ?_⟩
      rw [after_append, reached, after_blockComment_start, after_blockComment_end unclosed]
  | @directive before body leading startsHere inLine inductionHypothesis =>
      obtain ⟨startsLine, reached⟩ := inductionHypothesis
      have described := describes_after before
      rw [reached] at described
      obtain rfl := described.2.mp startsHere
      refine ⟨true, ?_⟩
      rw [after_append, reached, after_cons, show (top true).next '#' = directive from rfl,
        after_append, after_directive inLine]
      rfl

/-- The reader stands between comments, at the start of a line, after exactly the texts that
are all leading and end so. -/
theorem after_eq_top_true_iff {text : List Char} :
    (top true).after text = top true ↔ IsLeading text ∧ StartsLine text := by
  have described := describes_after text
  constructor
  · intro reached
    rw [reached] at described
    exact ⟨described.1, described.2.mpr rfl⟩
  · rintro ⟨leading, startsHere⟩
    obtain ⟨startsLine, reached⟩ := exists_after_of_isLeading leading
    rw [reached] at described ⊢
    rw [described.2.mp startsHere]

theorem codeSharesLine_of_after
    {text : List Char}
    (reached : (top true).after text = code false) :
    CodeSharesLine text := by
  have described := describes_after text
  rw [reached] at described
  obtain ⟨before, body, rfl, leading, starts, begins⟩ := described
  exact ⟨before, body, rfl, leading, by simp [starts], by simpa using begins []⟩

theorem slash_notMem_mark : '/' ∉ mark := by
  decide

theorem mark_ne_nil : mark ≠ [] := by
  decide

theorem feed_notMem_mark : '\n' ∉ mark := by
  decide

/-- The mark stands in a comment before the code exactly if a reader that comes to it is inside
a comment. -/
theorem marksLeadingComment_iff {text : List Char} :
    MarksLeadingComment text ↔
      ∃ before after, text = before ++ mark ++ after ∧
        ((top true).after before).isComment = true := by
  constructor
  · intro marked
    cases marked with
    | @line before body after leading split inLine =>
        obtain ⟨startsLine, reached⟩ := exists_after_of_isLeading leading
        refine ⟨before ++ '/' :: '/' :: body, after, by simp [split], ?_⟩
        rw [after_append, reached, after_lineComment_start,
          after_lineComment fun found => inLine (List.mem_append_left _ found)]
        rfl
    | @block before body after leading split unclosed =>
        obtain ⟨startsLine, reached⟩ := exists_after_of_isLeading leading
        rw [closes_append_iff slash_notMem_mark] at unclosed
        refine ⟨before ++ '/' :: '*' :: body, after, by simp [split], ?_⟩
        rw [after_append, reached, after_blockComment_start, after_blockComment unclosed]
        split_ifs <;> rfl
  · rintro ⟨before, after, rfl, inComment⟩
    have described := describes_after before
    cases reached : (top true).after before with
    | lineComment =>
        rw [reached] at described
        obtain ⟨before, body, rfl, leading, inLine⟩ := described
        have split : before ++ '/' :: '/' :: body ++ mark ++ after =
            before ++ '/' :: '/' :: (body ++ mark ++ after) := by simp
        exact .line leading split (by simpa [inLine] using feed_notMem_mark)
    | blockComment =>
        rw [reached] at described
        obtain ⟨before, body, rfl, leading, unclosed, _⟩ := described
        have split : before ++ '/' :: '*' :: body ++ mark ++ after =
            before ++ '/' :: '*' :: (body ++ mark ++ after) := by simp
        exact .block leading split (by rwa [closes_append_iff slash_notMem_mark])
    | star =>
        rw [reached] at described
        obtain ⟨before, body, rfl, leading, unclosed⟩ := described
        have split : before ++ '/' :: '*' :: (body ++ ['*']) ++ mark ++ after =
            before ++ '/' :: '*' :: (body ++ ['*'] ++ mark ++ after) := by simp
        refine .block leading split ?_
        rw [closes_append_iff slash_notMem_mark, closes_append_iff (by simp)]
        exact unclosed
    | top _ | slash _ | directive | code _ => simp [reached, isComment] at inComment

/-- A reader at a place comes to the mark inside a comment. -/
def findsMark (place : Place) : List Char → Bool
  | [] => false
  | character :: rest =>
      place.isComment && mark.isPrefixOf (character :: rest) ||
        (place.next character).findsMark rest

theorem findsMark_iff
    {place : Place}
    {text : List Char} :
    place.findsMark text = true ↔
      ∃ before after, text = before ++ mark ++ after ∧ (place.after before).isComment = true := by
  induction text generalizing place with
  | nil => simp [findsMark, mark_ne_nil]
  | cons character rest inductionHypothesis =>
      rw [findsMark, Bool.or_eq_true, Bool.and_eq_true, List.isPrefixOf_iff_prefix,
        inductionHypothesis]
      constructor
      · rintro (⟨inside, after, split⟩ | ⟨before, after, rfl, inside⟩)
        · exact ⟨[], after, split.symm, inside⟩
        · exact ⟨character :: before, after, rfl, inside⟩
      · rintro ⟨before, after, split, inside⟩
        cases before with
        | nil => exact Or.inl ⟨inside, after, split.symm⟩
        | cons first others =>
            obtain ⟨rfl, rfl⟩ := List.cons.inj split
            exact Or.inr ⟨others, after, rfl, inside⟩

end Place

instance (text : List Char) : Decidable (MarksLeadingComment text) :=
  decidable_of_iff ((Place.top true).findsMark text = true)
    (Place.findsMark_iff.trans Place.marksLeadingComment_iff.symm)

end Generated
end HouseStyle
