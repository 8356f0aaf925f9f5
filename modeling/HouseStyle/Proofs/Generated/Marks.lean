import HouseStyle.Proofs.Generated.Header

/-!
# Where the mark counts

The search for the mark goes line by line and takes a line that begins with a
comment, or inside one, for comment as a whole.  So a mark that counts stands in
a comment before the code, unless code begins on a line on which a block comment
ends.  Where the code begins on a line of its own, it does not count.
-/

namespace HouseStyle
namespace Generated

/-! ## One line -/

/-- What one line does to the search for the mark. -/
inductive Progress where
  /-- The search ends with an answer. -/
  | ends (answer : Bool)
  /-- The search goes on, inside a block comment or not. -/
  | goesOn (inBlock : Bool)
deriving DecidableEq, Repr

/-- What a line without blanks at its ends does to the search. -/
def progress (inBlock : Bool) (line : List Char) : Progress :=
  if inBlock then
    if isMarked line then .ends true else .goesOn (!endsBlock line)
  else
    match topLine line with
    | .silent => .goesOn false
    | .opensBlock => .goesOn true
    | .marked => .ends true
    | .code => .ends false

/-- The answer of a search, given what it says when it goes on. -/
def Progress.answer (further : Bool → Bool) : Progress → Bool
  | ends answer => answer
  | goesOn inBlock => further inBlock

theorem linesMarked_cons
    (inBlock : Bool)
    (line : List Char)
    (rest : List (List Char)) :
    linesMarked inBlock (line :: rest) =
      (progress inBlock (Text.trim line)).answer (linesMarked · rest) := by
  rw [linesMarked, progress]
  cases inBlock with
  | true => cases isMarked (Text.trim line) <;> simp [Progress.answer]
  | false => cases topLine (Text.trim line) <;> rfl

theorem linesMarked_lines_append_feed
    {line : List Char}
    (noFeed : '\n' ∉ line)
    (inBlock : Bool)
    (rest : List Char) :
    linesMarked inBlock (Text.lines (line ++ '\n' :: rest)) =
      (progress inBlock (Text.trim line)).answer (linesMarked · (Text.lines rest)) := by
  rw [Text.lines_append_feed noFeed, linesMarked_cons, Text.trim_dropReturn]

theorem linesMarked_lines_of_notMem
    {line : List Char}
    (noFeed : '\n' ∉ line)
    (inBlock : Bool) :
    linesMarked inBlock (Text.lines line) =
      (progress inBlock (Text.trim line)).answer fun _ => false := by
  rw [Text.lines_of_notMem noFeed]
  cases line with
  | nil => cases inBlock <;> rfl
  | cons character rest =>
      rw [if_neg (by simp), linesMarked_cons]
      rfl

theorem endsBlock_eq_false_iff {line : List Char} :
    endsBlock line = false ↔ ¬ Closes line := by
  rw [← Bool.not_eq_true, endsBlock, Text.occursIn_iff, Closes]

theorem isMarked_iff {line : List Char} :
    isMarked line = true ↔ mark <:+: line :=
  Text.occursIn_iff

theorem exists_mark_eq : ∃ rest, mark = '<' :: rest :=
  ⟨_, rfl⟩

theorem mark_infix_of_cons
    {character : Char}
    {text : List Char}
    (different : character ≠ '<')
    (marked : mark <:+: character :: text) :
    mark <:+: text := by
  rcases List.infix_cons_iff.mp marked with isPrefix | isInfix
  · obtain ⟨rest, begins⟩ := exists_mark_eq
    rw [begins, List.cons_prefix_cons] at isPrefix
    exact absurd isPrefix.1.symm different
  · exact isInfix

/-- What a line begins with, by what it says outside block comments. -/
inductive Opens : List Char → TopLine → Prop where
  | nothing : Opens [] .silent
  | directive (rest : List Char) : Opens ('#' :: rest) .silent
  | lineComment (body : List Char) : Opens ('/' :: '/' :: body) .silent
  | markedLine {body : List Char} (marked : mark <:+: body) : Opens ('/' :: '/' :: body) .marked
  | blockComment (body : List Char) : Opens ('/' :: '*' :: body) .silent
  | unclosed
      {body : List Char}
      (unclosed : ¬ Closes ('/' :: '*' :: body)) :
      Opens ('/' :: '*' :: body) .opensBlock
  | markedBlock {body : List Char} (marked : mark <:+: body) : Opens ('/' :: '*' :: body) .marked
  | code (line : List Char) : Opens line .code

theorem opens_topLine (line : List Char) : Opens line (topLine line) := by
  unfold topLine
  split
  · exact .nothing
  · exact .directive _
  · split_ifs with marked
    · exact .markedLine (isMarked_iff.mp marked)
    · exact .lineComment _
  · rename_i body
    split_ifs with marked closed
    · refine .markedBlock ?_
      rw [isMarked_iff] at marked
      exact mark_infix_of_cons (by decide) (mark_infix_of_cons (by decide) marked)
    · exact .blockComment _
    · exact .unclosed (endsBlock_eq_false_iff.mp (by simpa using closed))
  · exact .code _

/-! ## Along a line -/

namespace Place

/-- On the line of the place, a comment stands before it or around it. -/
def isInline : Place → Bool
  | top false | slash false | lineComment | blockComment | star | code false => true
  | _ => false

theorem isInline_next
    {place : Place}
    {character : Char}
    (inline : place.isInline = true)
    (noFeed : character ≠ '\n') :
    (place.next character).isInline = true := by
  cases place with
  | top startsLine | slash startsLine | code startsLine =>
      cases startsLine with
      | true => cases inline
      | false => grind [next, isInline]
  | lineComment | blockComment | star => grind [next, isInline]
  | directive => cases inline

theorem isInline_after
    {place : Place}
    {text : List Char}
    (inline : place.isInline = true)
    (noFeed : '\n' ∉ text) :
    (place.after text).isInline = true := by
  induction text generalizing place with
  | nil => exact inline
  | cons character rest inductionHypothesis =>
      obtain ⟨different, further⟩ := List.ne_and_not_mem_of_not_mem_cons noFeed
      exact inductionHypothesis (isInline_next inline different.symm) further

/-- A line that begins in or after a comment ends between comments, in one, or in the code. -/
theorem next_feed_of_isInline
    {place : Place}
    (inline : place.isInline = true) :
    place.next '\n' = top true ∨ place.next '\n' = blockComment ∨
      place.next '\n' = code false := by
  cases place with
  | top startsLine | slash startsLine | code startsLine =>
      cases startsLine with
      | true => cases inline
      | false => decide
  | lineComment | blockComment | star => decide
  | directive => cases inline

/-- A mark on the line stands in a comment, unless the code begins on the line. -/
theorem isComment_after_of_isInline
    {place : Place}
    {text rest : List Char}
    (inline : place.isInline = true)
    (noFeed : '\n' ∉ text)
    (noCode : place.after (text ++ mark ++ rest) ≠ code false) :
    (place.after text).isComment = true := by
  have reached := isInline_after inline noFeed
  obtain ⟨others, begins⟩ := exists_mark_eq
  rw [begins, List.append_assoc, after_append, List.cons_append, after_cons] at noCode
  cases found : place.after text with
  | top startsLine | slash startsLine | code startsLine =>
      cases startsLine with
      | true => rw [found] at reached; cases reached
      | false => rw [found] at noCode; exact absurd (after_code false _) noCode
  | lineComment | blockComment | star => rfl
  | directive => rw [found] at reached; cases reached

/-- Blanks on one line do not lead away from a place between comments. -/
theorem after_top_of_blank
    {startsLine : Bool}
    {text : List Char}
    (blank : ∀ character ∈ text, Text.isBlank character = true)
    (noFeed : '\n' ∉ text) :
    (top startsLine).after text = top startsLine := by
  induction text with
  | nil => rfl
  | cons character rest inductionHypothesis =>
      obtain ⟨different, further⟩ := List.ne_and_not_mem_of_not_mem_cons noFeed
      rw [List.forall_mem_cons] at blank
      rw [after_cons, next, if_neg different.symm, if_pos blank.1,
        inductionHypothesis blank.2 further]

theorem slash_notMem_of_blank
    {text : List Char}
    (blank : ∀ character ∈ text, Text.isBlank character = true) :
    '/' ∉ text :=
  fun found => absurd (blank '/' found) (by decide)

/-- Without a line feed, only blanks keep a reader at the start of a line. -/
theorem of_after_eq_top_true
    {place : Place}
    {text : List Char}
    (noFeed : '\n' ∉ text)
    (reached : place.after text = top true) :
    place = top true ∧ ∀ character ∈ text, Text.isBlank character = true := by
  induction text using List.reverseRecOn with
  | nil => exact ⟨reached, by simp⟩
  | append_singleton text character inductionHypothesis =>
      rw [List.mem_append, not_or, List.mem_singleton] at noFeed
      rw [after_append, after_cons, after_nil] at reached
      obtain ⟨before, blank⟩ :
          place.after text = top true ∧ Text.isBlank character = true := by
        cases found : place.after text <;> grind [next]
      obtain ⟨start, blanks⟩ := inductionHypothesis noFeed.1 before
      exact ⟨start, by grind⟩

end Place

/-! ## Line by line -/

/-- The search agrees with the place at the start of a line: inside a block comment for the
search is inside one. -/
inductive Stands : Bool → Place → Prop where
  | top : Stands false (.top true)
  | block (inBlock : Bool) : Stands inBlock .blockComment

theorem progress_false_eq_iff
    {line : List Char}
    {said : Progress} :
    progress false line = said ↔
      (topLine line = .silent ∧ said = .goesOn false) ∨
      (topLine line = .opensBlock ∧ said = .goesOn true) ∨
      (topLine line = .marked ∧ said = .ends true) ∨
      (topLine line = .code ∧ said = .ends false) := by
  rw [progress, if_neg (by decide)]
  cases topLine line <;> simp [eq_comm]

theorem mark_infix_of_progress
    {inBlock : Bool}
    {line : List Char}
    (found : progress inBlock line = .ends true) :
    mark <:+: line := by
  cases inBlock with
  | true =>
      rw [progress, if_pos rfl] at found
      split_ifs at found with marked
      exact isMarked_iff.mp marked
  | false =>
      have opens := opens_topLine line
      rw [show topLine line = .marked by simpa [progress_false_eq_iff] using found] at opens
      cases opens with
      | markedLine marked | markedBlock marked => exact List.infix_cons (List.infix_cons marked)

theorem not_closes_of_progress
    {inBlock : Bool}
    {line : List Char}
    (goesOn : progress inBlock line = .goesOn true) :
    ¬ Closes line := by
  cases inBlock with
  | true =>
      rw [progress, if_pos rfl] at goesOn
      split_ifs at goesOn
      rw [← endsBlock_eq_false_iff]
      simpa using goesOn
  | false =>
      have opens := opens_topLine line
      rw [show topLine line = .opensBlock by simpa [progress_false_eq_iff] using goesOn] at opens
      cases opens with
      | unclosed unclosed => exact unclosed

/-- A mark inside or after a comment on its line stands in a comment, unless the code begins on
the line. -/
theorem exists_marked_of_isInline
    {place : Place}
    {opening body : List Char}
    (inline : (place.after opening).isInline = true)
    (noFeed : '\n' ∉ body)
    (marked : mark <:+: body) :
    place.after (opening ++ body) = .code false ∨
      ∃ before after, opening ++ body = before ++ mark ++ after ∧
        (place.after before).isComment = true := by
  obtain ⟨before, after, rfl⟩ := marked
  refine or_iff_not_imp_left.mpr fun noCode => ⟨opening ++ before, after, by simp, ?_⟩
  rw [Place.after_append] at noCode ⊢
  refine Place.isComment_after_of_isInline inline ?_ noCode
  exact fun found => noFeed (List.mem_append_left _ (List.mem_append_left _ found))

/-- A line on which the search finds the mark has it in a comment, or has code after one. -/
theorem exists_marked_of_progress
    {inBlock : Bool}
    {place : Place}
    {line : List Char}
    (stands : Stands inBlock place)
    (noFeed : '\n' ∉ line)
    (found : progress inBlock (Text.trim line) = .ends true) :
    place.after line = .code false ∨
      ∃ before after, line = before ++ mark ++ after ∧ (place.after before).isComment = true := by
  obtain ⟨leading, trailing, split, blank, _⟩ := Text.exists_eq_append_trim_append line
  have occurs := mark_infix_of_progress found
  generalize Text.trim line = core at split found occurs
  cases stands with
  | block =>
      rw [← List.nil_append line]
      refine exists_marked_of_isInline rfl noFeed ?_
      rw [split]
      exact occurs.trans ⟨leading, trailing, rfl⟩
  | top =>
      have opens := opens_topLine core
      rw [show topLine core = .marked by simpa [progress_false_eq_iff] using found] at opens
      have start : (Place.top true).after leading = .top true :=
        Place.after_top_of_blank blank fun feed => noFeed (by simp [split, feed])
      cases opens with
      | @markedLine body marked =>
          rw [show line = leading ++ ['/', '/'] ++ (body ++ trailing) by simp [split]] at noFeed ⊢
          refine exists_marked_of_isInline ?_ (fun feed => noFeed (List.mem_append_right _ feed))
            (marked.trans (List.infix_append' [] body trailing))
          rw [Place.after_append, start]
          rfl
      | @markedBlock body marked =>
          rw [show line = leading ++ ['/', '*'] ++ (body ++ trailing) by simp [split]] at noFeed ⊢
          refine exists_marked_of_isInline ?_ (fun feed => noFeed (List.mem_append_right _ feed))
            (marked.trans (List.infix_append' [] body trailing))
          rw [Place.after_append, start]
          rfl

theorem closes_append_iff_of_blank
    {blanks text : List Char}
    (blank : ∀ character ∈ blanks, Text.isBlank character = true) :
    Closes (blanks ++ text) ↔ Closes text := by
  induction blanks with
  | nil => rfl
  | cons character rest inductionHypothesis =>
      rw [List.forall_mem_cons] at blank
      have noStar : character ≠ '*' := by
        rintro rfl
        exact absurd blank.1 (by decide)
      rw [← inductionHypothesis blank.2, Closes, List.cons_append, List.infix_cons_iff,
        List.cons_prefix_cons]
      simp [Ne.symm noStar, Closes]

theorem next_feed_after_blockComment
    {text : List Char}
    (unclosed : ¬ Closes text) :
    (Place.blockComment.after text).next '\n' = .blockComment := by
  rw [Place.after_blockComment unclosed]
  split_ifs <;> rfl

theorem stands_of_isInline
    {place : Place}
    (inline : place.isInline = true) :
    place.next '\n' = .code false ∨ Stands false (place.next '\n') := by
  rcases Place.next_feed_of_isInline inline with ended | ended | ended
  · exact Or.inr (ended ▸ .top)
  · exact Or.inr (ended ▸ .block false)
  · exact Or.inl ended

/-- After a line with which the search goes on, search and place agree again, or code follows a
comment on the line. -/
theorem stands_of_progress
    {inBlock inNext : Bool}
    {place : Place}
    {line : List Char}
    (stands : Stands inBlock place)
    (noFeed : '\n' ∉ line)
    (goesOn : progress inBlock (Text.trim line) = .goesOn inNext) :
    (place.after line).next '\n' = .code false ∨ Stands inNext ((place.after line).next '\n') := by
  obtain ⟨leading, trailing, split, blank, blankEnd⟩ := Text.exists_eq_append_trim_append line
  generalize Text.trim line = core at split goesOn
  have noSlash := Place.slash_notMem_of_blank blankEnd
  cases stands with
  | block =>
      cases inNext with
      | false => exact stands_of_isInline (Place.isInline_after rfl noFeed)
      | true =>
          have unclosed : ¬ Closes line := by
            rw [split, closes_append_iff noSlash, closes_append_iff_of_blank blank]
            exact not_closes_of_progress goesOn
          rw [next_feed_after_blockComment unclosed]
          exact Or.inr (.block true)
  | top =>
      have start : (Place.top true).after leading = .top true :=
        Place.after_top_of_blank blank fun feed => noFeed (by simp [split, feed])
      rw [split, List.append_assoc, Place.after_append, start]
      have inLine : '\n' ∉ core ++ trailing := fun feed => noFeed (by grind)
      have opens := opens_topLine core
      cases inNext with
      | false =>
          rw [show topLine core = .silent by simpa [progress_false_eq_iff] using goesOn] at opens
          cases opens with
          | nothing =>
              rw [List.nil_append, Place.after_top_of_blank blankEnd (by simpa using inLine)]
              exact Or.inr .top
          | directive rest =>
              have body : '\n' ∉ rest ++ trailing := by simpa using inLine
              rw [List.cons_append, Place.after_cons,
                show (Place.top true).next '#' = .directive from rfl, Place.after_directive body]
              exact Or.inr .top
          | lineComment body =>
              rw [List.cons_append, List.cons_append, Place.after_lineComment_start]
              exact stands_of_isInline (Place.isInline_after rfl (by simpa using inLine))
          | blockComment body =>
              rw [List.cons_append, List.cons_append, Place.after_blockComment_start]
              exact stands_of_isInline (Place.isInline_after rfl (by simpa using inLine))
      | true =>
          rw [show topLine core = .opensBlock by simpa [progress_false_eq_iff] using goesOn]
            at opens
          cases opens with
          | @unclosed body unclosed =>
              have bodyUnclosed : ¬ Closes (body ++ trailing) := by
                rw [closes_append_iff noSlash]
                exact fun closes => unclosed (List.infix_cons (List.infix_cons closes))
              rw [List.cons_append, List.cons_append, Place.after_blockComment_start,
                next_feed_after_blockComment bodyUnclosed]
              exact Or.inr (.block true)

/-! ## The whole text -/

/-- The search finds only marks in comments before the code, or has come past code that follows
a comment on its line. -/
theorem exists_marked_of_linesMarked
    {inBlock : Bool}
    {place : Place}
    {text : List Char}
    (stands : Stands inBlock place)
    (found : linesMarked inBlock (Text.lines text) = true) :
    place.after text = .code false ∨
      ∃ before after, text = before ++ mark ++ after ∧ (place.after before).isComment = true := by
  induction text using Text.induction_on_lines generalizing inBlock place with
  | last line noFeed =>
      rw [linesMarked_lines_of_notMem noFeed] at found
      cases said : progress inBlock (Text.trim line) with
      | ends answer =>
          rw [said] at found
          obtain rfl : answer = true := found
          exact exists_marked_of_progress stands noFeed said
      | goesOn inNext => simp [said, Progress.answer] at found
  | feed line rest noFeed inductionHypothesis =>
      rw [linesMarked_lines_append_feed noFeed] at found
      rw [Place.after_append, Place.after_cons]
      cases said : progress inBlock (Text.trim line) with
      | ends answer =>
          rw [said] at found
          obtain rfl : answer = true := found
          rcases exists_marked_of_progress stands noFeed said with
            shared | ⟨before, after, rfl, inside⟩
          · exact Or.inl (by rw [shared]; exact Place.after_code false rest)
          · exact Or.inr ⟨before, after ++ '\n' :: rest, by simp, inside⟩
      | goesOn inNext =>
          rw [said] at found
          rcases stands_of_progress stands noFeed said with shared | further
          · exact Or.inl (by rw [shared, Place.after_code])
          · rcases inductionHypothesis further found with shared | ⟨before, after, rfl, inside⟩
            · exact Or.inl shared
            · refine Or.inr ⟨line ++ '\n' :: before, after, by simp, ?_⟩
              rw [Place.after_append, Place.after_cons]
              exact inside

theorem topLine_eq_code
    {line : List Char}
    (begins : BeginsCode line)
    (noHash : line.head? ≠ some '#') :
    topLine line = .code := by
  obtain ⟨⟨first, others, written, _⟩, noLine, noBlock⟩ := begins
  have opens := opens_topLine line
  generalize topLine line = said at opens ⊢
  cases opens with
  | nothing => cases written
  | directive rest => exact absurd rfl noHash
  | lineComment body | markedLine marked => exact absurd ⟨_, rfl⟩ noLine
  | blockComment body | unclosed unclosed | markedBlock marked => exact absurd ⟨_, rfl⟩ noBlock
  | code line => rfl

theorem BeginsCode.of_prefix
    {text front : List Char}
    (begins : BeginsCode text)
    (isPrefix : front <+: text)
    (nonempty : front ≠ []) :
    BeginsCode front ∧ front.head? = text.head? := by
  obtain ⟨⟨character, rest, rfl, written⟩, noLine, noBlock⟩ := begins
  obtain ⟨first, others, rfl⟩ := List.exists_cons_of_ne_nil nonempty
  obtain ⟨rfl, further⟩ := List.cons_prefix_cons.mp isPrefix
  exact ⟨⟨⟨first, others, rfl, written⟩, fun starts => noLine (starts.trans isPrefix),
    fun starts => noBlock (starts.trans isPrefix)⟩, rfl⟩

/-- The search ends at a line that begins with code. -/
theorem progress_of_beginsCode
    {blanks line : List Char}
    (blank : ∀ character ∈ blanks, Text.isBlank character = true)
    (begins : BeginsCode line)
    (noHash : line.head? ≠ some '#') :
    progress false (Text.trim (blanks ++ line)) = .ends false := by
  obtain ⟨first, others, rfl, written⟩ := begins.1
  have start : Text.trimStart (blanks ++ first :: others) = first :: others := by
    rw [Text.trimStart, List.dropWhile_append_of_pos blank,
      List.dropWhile_cons_of_neg (by simp [written])]
  obtain ⟨after, split, _⟩ := Text.exists_eq_trimEnd_append (first :: others)
  have nonempty : Text.trimEnd (first :: others) ≠ [] := by
    rw [Ne, Text.trimEnd_eq_nil_iff]
    intro allBlank
    simp [written] at allBlank
  obtain ⟨kept, sameHead⟩ := begins.of_prefix ⟨after, split.symm⟩ nonempty
  rw [Text.trim, start, progress_false_eq_iff, topLine_eq_code kept (sameHead ▸ noHash)]
  simp

/-- What follows the start of the code on a line of its own does not count. -/
theorem linesMarked_lines_append_code
    {inBlock : Bool}
    {place : Place}
    {text code : List Char}
    (stands : Stands inBlock place)
    (reached : place.after text = .top true)
    (begins : BeginsCode code)
    (noHash : code.head? ≠ some '#') :
    linesMarked inBlock (Text.lines (text ++ code)) = linesMarked inBlock (Text.lines text) := by
  induction text using Text.induction_on_lines generalizing inBlock place with
  | last line noFeed =>
      obtain ⟨rfl, blank⟩ := Place.of_after_eq_top_true noFeed reached
      cases stands
      have ended : linesMarked false (Text.lines line) = false := by
        rw [linesMarked_lines_of_notMem noFeed, Text.trim_eq_nil_iff.mpr blank]
        rfl
      rw [ended]
      cases cut : Text.cutFirst? '\n' code with
      | none =>
          have noFeedCode := Text.cutFirst?_eq_none_iff.mp cut
          rw [linesMarked_lines_of_notMem (by simp [noFeed, noFeedCode]),
            progress_of_beginsCode blank begins noHash]
          rfl
      | some parts =>
          obtain ⟨first, rest⟩ := parts
          obtain ⟨rfl, noFeedFirst⟩ := Text.cutFirst?_eq_some_iff.mp cut
          have nonempty : first ≠ [] := by
            rintro rfl
            obtain ⟨character, others, same, written⟩ := begins.1
            obtain ⟨rfl, _⟩ := List.cons.inj same
            exact absurd written (by decide)
          obtain ⟨beginsFirst, sameHead⟩ := begins.of_prefix ⟨_, rfl⟩ nonempty
          rw [← List.append_assoc, linesMarked_lines_append_feed (by simp [noFeed, noFeedFirst]),
            progress_of_beginsCode blank beginsFirst (sameHead ▸ noHash)]
          rfl
  | feed line rest noFeed inductionHypothesis =>
      rw [Place.after_append, Place.after_cons] at reached
      rw [List.append_assoc, List.cons_append, linesMarked_lines_append_feed noFeed,
        linesMarked_lines_append_feed noFeed]
      cases said : progress inBlock (Text.trim line) with
      | ends answer => rfl
      | goesOn inNext =>
          rcases stands_of_progress stands noFeed said with shared | further
          · rw [shared, Place.after_code] at reached
            cases reached
          · exact inductionHypothesis further reached

/-- A text that counts as generated bears the mark in a comment before its code, unless code
begins on a line on which a block comment ends; and the code counts for nothing where it begins
on a line of its own. -/
theorem marked_in_leading_comment_unless_code_shares_line (source : String) :
    (isGenerated source = true →
      MarksLeadingComment source.toList ∨ CodeSharesLine source.toList) ∧
    ∀ header code,
      source.toList = header ++ code → IsLeading header → StartsLine header →
      BeginsCode code → code.head? ≠ some '#' →
      isGenerated source = isGenerated (String.ofList header) := by
  constructor
  · intro generated
    rcases exists_marked_of_linesMarked .top generated with shared | ⟨before, after, split, inside⟩
    · exact Or.inr (Place.codeSharesLine_of_after shared)
    · exact Or.inl (Place.marksLeadingComment_iff.mpr ⟨before, after, split, inside⟩)
  · intro header code split leading startsLine begins noHash
    have reached := Place.after_eq_top_true_iff.mpr ⟨leading, startsLine⟩
    rw [isGenerated, isGenerated, split, String.toList_ofList]
    exact linesMarked_lines_append_code .top reached begins noHash

/-- A marked comment and a preprocessor line. -/
def sampleHeader : List Char :=
  "/* a\n <auto-generated> */\n#if X\n".toList

/-- Code with a comment that bears the mark as well. -/
def sampleCode : List Char :=
  "class A { } // <auto-generated>".toList

theorem marked_in_leading_comment_unless_code_shares_line_sample :
    isGenerated (String.ofList (sampleHeader ++ sampleCode)) = true ∧
    (MarksLeadingComment (sampleHeader ++ sampleCode) ∨
      CodeSharesLine (sampleHeader ++ sampleCode)) ∧
    IsLeading sampleHeader ∧ StartsLine sampleHeader ∧ BeginsCode sampleCode ∧
    isGenerated (String.ofList (sampleHeader ++ sampleCode)) =
      isGenerated (String.ofList sampleHeader) := by
  have generated : isGenerated (String.ofList (sampleHeader ++ sampleCode)) = true := by
    rw [isGenerated, String.toList_ofList]
    decide +kernel
  have header : IsLeading sampleHeader ∧ StartsLine sampleHeader :=
    Place.after_eq_top_true_iff.mp (by decide +kernel)
  have code : BeginsCode sampleCode :=
    Place.beginsCode_cons (by decide) (by decide) _
  have told := marked_in_leading_comment_unless_code_shares_line
    (String.ofList (sampleHeader ++ sampleCode))
  rw [String.toList_ofList] at told
  exact ⟨generated, told.1 generated, header.1, header.2, code,
    told.2 sampleHeader sampleCode rfl header.1 header.2 code (by decide)⟩

/-- A comment and code on one line, and then the mark. -/
def sharedLineSource : List Char :=
  "/* c */ class A { }\n// <auto-generated>".toList

/-- Code that follows a comment on its line does not end the search. -/
theorem mark_after_code_counts :
    isGenerated (String.ofList sharedLineSource) = true ∧
      ¬ MarksLeadingComment sharedLineSource := by
  rw [isGenerated, String.toList_ofList]
  exact ⟨by decide +kernel, by decide +kernel⟩

end Generated
end HouseStyle
