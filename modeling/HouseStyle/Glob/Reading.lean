import HouseStyle.Glob.Token

/-!
# Reading glob patterns

A pattern is read from left to right.  `?` is any byte, `*` any run, `**` at
the border of a folder any folders, `[…]` a class, braces hold alternatives
between commas, and a backslash makes the next character stand for itself.
-/

namespace HouseStyle
namespace Glob

/-- What has been read of a pattern: the branch at hand inside the open groups. -/
structure Draft where
  /-- The tokens of the branch at hand, latest first. -/
  current : List Token
  /-- The finished branches of the innermost open group, latest first. -/
  finished : List (List Token)
  /-- The branches around the open groups, innermost first, each with the branches finished
  before it. -/
  outer : List (List Token × List (List Token))

namespace Draft

/-- Nothing has been read. -/
def empty : Draft where
  current := []
  finished := []
  outer := []

/-- Some group is open. -/
def isInsideGroup (draft : Draft) : Bool :=
  !draft.outer.isEmpty

/-- Adds a token to the branch at hand. -/
def push (draft : Draft) (token : Token) : Draft :=
  { draft with current := token :: draft.current }

/-- Adds two runs, which a double star is when it stands for no folders. -/
def pushRuns (draft : Draft) : Draft :=
  (draft.push .anyRun).push .anyRun

/-- Puts a token in the place of the latest one, unless that one already spans folders. -/
def spanFolders (draft : Draft) (token : Token) : Draft :=
  match draft.current with
  | .leadingFolders :: _ | .trailingFolders :: _ => draft
  | _ :: before => { draft with current := token :: before }
  | [] => draft

/-- Opens a group. -/
def openGroup (draft : Draft) : Draft where
  current := []
  finished := []
  outer := (draft.current, draft.finished) :: draft.outer

/-- Ends the branch at hand at a comma; outside groups a comma stands for itself. -/
def comma (draft : Draft) : Draft :=
  if draft.isInsideGroup then
    { draft with current := [], finished := draft.current.reverse :: draft.finished }
  else
    draft.push (.literal ',')

/-- Closes the innermost open group. -/
def closeGroup (draft : Draft) : Except Fault Draft :=
  match draft.outer with
  | [] => .error .unopenedGroup
  | (current, finished) :: outer =>
      let branches := (draft.current.reverse :: draft.finished).reverse
      .ok ⟨.alternatives branches :: current, finished, outer⟩

/-- The tokens of the whole pattern. -/
def finish (draft : Draft) : Except Fault (List Token) :=
  if draft.isInsideGroup then .error .unclosedGroup else .ok draft.current.reverse

end Draft

/-- What has been read of a class. -/
structure ClassDraft where
  /-- The class is negated. -/
  negated : Bool
  /-- The ranges, latest first. -/
  ranges : List (Char × Char)
  /-- No member has been read. -/
  isFirst : Bool
  /-- A hyphen waits for the end of its range. -/
  awaitsEnd : Bool

namespace ClassDraft

/-- No member has been read. -/
def empty (negated : Bool) : ClassDraft where
  negated := negated
  ranges := []
  isFirst := true
  awaitsEnd := false

/-- Adds a character, as the end of a range if one waits for it. -/
def add (draft : ClassDraft) (character : Char) : Except Fault ClassDraft :=
  if draft.awaitsEnd then
    match draft.ranges with
    | (first, _) :: before =>
        if character < first then
          .error (.invalidRange first character)
        else
          .ok ⟨draft.negated, (first, character) :: before, false, false⟩
    | [] => .ok draft
  else
    .ok ⟨draft.negated, (character, character) :: draft.ranges, false, false⟩

/-- Takes in a hyphen, which begins the second half of a range unless it comes first or ends
one. -/
def hyphen (draft : ClassDraft) : Except Fault ClassDraft :=
  if draft.isFirst || draft.awaitsEnd then
    draft.add '-'
  else
    .ok { draft with awaitsEnd := true }

/-- The finished class; a hyphen that still waits stands for itself. -/
def finish (draft : ClassDraft) : CharacterClass where
  negated := draft.negated
  ranges :=
    (if draft.awaitsEnd then ('-', '-') :: draft.ranges else draft.ranges).reverse

end ClassDraft

/-- A double star after the given character stands at the border of a folder. -/
def atFolderBorder (draft : Draft) (previous : Option Char) : Bool :=
  previous == some '/' ||
    (draft.isInsideGroup && (previous == some ',' || previous == some '\x7b'))

/-- A branch of a group ends before the given character. -/
def endsBranch (draft : Draft) (character : Char) : Bool :=
  draft.isInsideGroup && (character == ',' || character == '\x7d')

mutual

/-- Reads on after a given character. -/
def readFrom
    (draft : Draft)
    (previous : Option Char) : List Char → Except Fault Draft
  | [] => .ok draft
  | '?' :: rest => readFrom (draft.push .anyByte) (some '?') rest
  | '*' :: '*' :: rest =>
      if draft.current.isEmpty then
        match rest with
        | [] => .ok (draft.push .leadingFolders)
        | '/' :: more => readFrom (draft.push .leadingFolders) (some '/') more
        | next :: more => readFrom draft.pushRuns (some '*') (next :: more)
      else if atFolderBorder draft previous then
        match rest with
        | [] => .ok (draft.spanFolders .trailingFolders)
        | '/' :: more => readFrom (draft.spanFolders .innerFolders) (some '/') more
        | next :: more =>
            if endsBranch draft next then
              readFrom (draft.spanFolders .trailingFolders) (some '*') (next :: more)
            else
              readFrom draft.pushRuns (some '*') (next :: more)
      else
        readFrom draft.pushRuns (some '*') rest
  | '*' :: rest => readFrom (draft.push .anyRun) (some '*') rest
  | '[' :: '!' :: rest => readClass draft (.empty true) rest
  | '[' :: '^' :: rest => readClass draft (.empty true) rest
  | '[' :: rest => readClass draft (.empty false) rest
  | '\x7b' :: rest => readFrom draft.openGroup (some '\x7b') rest
  | '\x7d' :: rest => do
      readFrom (← draft.closeGroup) (some '\x7d') rest
  | ',' :: rest => readFrom draft.comma (some ',') rest
  | ['\\'] => .error .danglingEscape
  | '\\' :: character :: rest =>
      readFrom (draft.push (.literal character)) (some character) rest
  | character :: rest => readFrom (draft.push (.literal character)) (some character) rest

/-- Reads the members of a class, and then on after its end. -/
def readClass
    (draft : Draft)
    (members : ClassDraft) : List Char → Except Fault Draft
  | [] => .error .unclosedClass
  | ']' :: rest =>
      if members.isFirst then do
        readClass draft (← members.add ']') rest
      else
        readFrom (draft.push (.oneOf members.finish)) (some ']') rest
  | '-' :: rest => do
      readClass draft (← members.hyphen) rest
  | character :: rest => do
      readClass draft (← members.add character) rest

end

/-- The tokens of a pattern. -/
def readTokens (pattern : List Char) : Except Fault (List Token) := do
  (← readFrom .empty none pattern).finish

end Glob
end HouseStyle
