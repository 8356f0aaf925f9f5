import HouseStyle.Proofs.Trees.Fetch

/-!
# How often a tree is loaded

The tree of an artifact is asked for again and again, and each time that the
question goes out to the world the answer may be another one.  Fatal failures are
passed on, and the next call asks anew.  The first other answer is the last one
that is asked for: its tree, or the absence of one, is what all later calls get.
-/

namespace HouseStyle

open Syntax

/-- The world that answers by a script: the questions for trees are numbered as they come, and
the state is the number of questions so far. -/
def World.scripted (script : Nat → Except Failure (Option Tree)) : World Nat where
  poll := fun loads => (false, loads)
  load := fun _ loads => (.settled (script loads), loads + 1)

/-- An answer is a fatal failure. -/
def isFatalAnswer : Except Failure (Option Tree) → Bool
  | .ok _ => false
  | .error failure => failure.isFatal

/-- The tree in an answer; a failure has none. -/
def answeredTree? : Except Failure (Option Tree) → Option Tree
  | .ok tree? => tree?
  | .error _ => none

theorem lenient_of_isFatalAnswer
    {result : Except Failure (Option Tree)}
    (fatal : isFatalAnswer result = true) :
    lenient result = result := by
  cases result with
  | ok tree? => rfl
  | error failure => exact if_pos fatal

theorem lenient_of_not_isFatalAnswer
    {result : Except Failure (Option Tree)}
    (settled : isFatalAnswer result = false) :
    lenient result = .ok (answeredTree? result) := by
  cases result with
  | ok tree? => rfl
  | error failure => exact if_neg (Bool.eq_false_iff.mp settled)

theorem isFatalAnswer_iff {result : Except Failure (Option Tree)} :
    isFatalAnswer result = true ↔
      ∃ failure, result = .error failure ∧ failure.isFatal = true := by
  cases result with
  | ok tree? => simp [isFatalAnswer]
  | error failure => simp [isFatalAnswer]

/-- The number of fatal failures that come first among the answers to as many questions as there
are calls. -/
def leadingFatal
    (script : Nat → Except Failure (Option Tree))
    (calls : Nat) : Nat :=
  ((List.range calls).map script).findIdx fun result => !isFatalAnswer result

section Leading

variable
  {script : Nat → Except Failure (Option Tree)}
  {calls : Nat}

theorem leadingFatal_le : leadingFatal script calls ≤ calls := by
  have bound : leadingFatal script calls ≤ ((List.range calls).map script).length :=
    List.findIdx_le_length
  rw [List.length_map, List.length_range] at bound
  exact bound

theorem isFatalAnswer_of_lt_leadingFatal
    {load : Nat}
    (leading : load < leadingFatal script calls) :
    isFatalAnswer (script load) = true := by
  have fatal := List.not_of_lt_findIdx leading
  simpa using fatal

theorem not_isFatalAnswer_leadingFatal
    (within : leadingFatal script calls < calls) :
    isFatalAnswer (script (leadingFatal script calls)) = false := by
  have bound : leadingFatal script calls < ((List.range calls).map script).length := by
    rw [List.length_map, List.length_range]
    exact within
  have settled := ((List.findIdx_eq bound).mp rfl).1
  rw [List.getElem_map, List.getElem_range, Bool.not_eq_true'] at settled
  exact settled

end Leading

namespace World

variable {ω : Type}

/-- The kept trees and the state of the world after the tree of an artifact has been asked for a
number of times. -/
def afterCalls
    (world : World ω)
    (artifact : Artifact)
    (cells : Cells)
    (state : ω) : Nat → Cells × ω
  | 0 => (cells, state)
  | calls + 1 =>
      let before := afterCalls world artifact cells state calls
      (world.fetch artifact before.1 before.2).2

/-- The reply to a call for the tree of an artifact, after as many calls as its number says. -/
def replyTo
    (world : World ω)
    (artifact : Artifact)
    (cells : Cells)
    (state : ω)
    (call : Nat) : Reply :=
  let before := world.afterCalls artifact cells state call
  (world.fetch artifact before.1 before.2).1

/-! ## One call -/

/-- A tree that has been kept is not asked for. -/
theorem fetch_kept
    (world : World ω)
    (artifact : Artifact)
    (tree? : Option Tree)
    (cells : Cells)
    (state : ω) :
    world.fetch artifact ((artifact.identity, tree?) :: cells) state =
      (.settled (.ok tree?), (artifact.identity, tree?) :: cells, state) := by
  rw [fetch, List.lookup_cons, beq_self_eq_true]

variable
  {script : Nat → Except Failure (Option Tree)}
  {artifact : Artifact}
  {cells : Cells}

/-- A call for a tree that is not kept takes the next answer of the script. -/
theorem fetch_scripted
    (empty : cells.lookup artifact.identity = none)
    (loads : Nat) :
    (scripted script).fetch artifact cells loads =
      (.settled (lenient (script loads)),
        cells.keep artifact.identity (lenient (script loads)), loads + 1) := by
  obtain ⟨tree?, kept, -⟩ | ⟨next, withdrawn, -⟩ | ⟨result, next, loaded, fetched⟩ :=
    (scripted script).fetch_cases artifact cells loads
  · rw [empty] at kept
    cases kept
  · cases withdrawn
  · cases loaded
    exact fetched

/-! ## All calls -/

/-- As long as all answers are fatal failures, every call asks and nothing is kept. -/
theorem afterCalls_of_fatal
    (empty : cells.lookup artifact.identity = none)
    {calls : Nat}
    (fatal : ∀ load < calls, isFatalAnswer (script load) = true) :
    (scripted script).afterCalls artifact cells 0 calls = (cells, calls) := by
  induction calls with
  | zero => rfl
  | succ calls inductionHypothesis =>
      obtain ⟨failure, failed, -⟩ := isFatalAnswer_iff.mp (fatal calls (Nat.lt_succ_self calls))
      have before := inductionHypothesis fun load earlier => fatal load (Nat.lt_succ_of_lt earlier)
      rw [afterCalls, before, fetch_scripted empty,
        lenient_of_isFatalAnswer (fatal calls (Nat.lt_succ_self calls)), failed]
      rfl

/-- After the first answer that is no fatal failure, no call asks. -/
theorem afterCalls_of_settled
    (empty : cells.lookup artifact.identity = none)
    {first : Nat}
    (fatal : ∀ load < first, isFatalAnswer (script load) = true)
    (settled : isFatalAnswer (script first) = false)
    {calls : Nat}
    (later : first < calls) :
    (scripted script).afterCalls artifact cells 0 calls =
      ((artifact.identity, answeredTree? (script first)) :: cells, first + 1) := by
  induction later with
  | refl =>
      rw [afterCalls, afterCalls_of_fatal empty fatal, fetch_scripted empty,
        lenient_of_not_isFatalAnswer settled]
      rfl
  | step _ inductionHypothesis =>
      rw [afterCalls, inductionHypothesis, fetch_kept]

theorem replyTo_of_fatal
    (empty : cells.lookup artifact.identity = none)
    {call : Nat}
    (fatal : ∀ load ≤ call, isFatalAnswer (script load) = true) :
    (scripted script).replyTo artifact cells 0 call = .settled (script call) := by
  have before : (scripted script).afterCalls artifact cells 0 call = (cells, call) :=
    afterCalls_of_fatal empty fun load earlier => fatal load (Nat.le_of_lt earlier)
  rw [replyTo, before, fetch_scripted empty, lenient_of_isFatalAnswer (fatal call (Nat.le_refl _))]

theorem replyTo_of_settled
    (empty : cells.lookup artifact.identity = none)
    {first call : Nat}
    (fatal : ∀ load < first, isFatalAnswer (script load) = true)
    (settled : isFatalAnswer (script first) = false)
    (later : first ≤ call) :
    (scripted script).replyTo artifact cells 0 call =
      .settled (.ok (answeredTree? (script first))) := by
  rcases Nat.lt_or_eq_of_le later with after | rfl
  · rw [replyTo, afterCalls_of_settled empty fatal settled after, fetch_kept]
  · rw [replyTo, afterCalls_of_fatal empty fatal, fetch_scripted empty,
      lenient_of_not_isFatalAnswer settled]

/--
The tree of an artifact that nothing is kept for is loaded until the answer is no
fatal failure, and never again.  Each call before that gets the fatal failure of its
own load, and nothing is kept.  From then on the tree of that answer, or the absence
of one, is kept; every call gets it, and nothing is loaded.  So the number of loads is
one more than that of the leading fatal failures, or that of the calls if there is
nothing else.
-/
theorem tree_is_loaded_until_not_fatal
    (script : Nat → Except Failure (Option Tree))
    (artifact : Artifact)
    {cells : Cells}
    (empty : cells.lookup artifact.identity = none)
    (calls : Nat) :
    let world := scripted script
    let leading := leadingFatal script calls
    (∀ call < leading, ∃ failure, script call = .error failure ∧ failure.isFatal = true ∧
        world.replyTo artifact cells 0 call = .settled (.error failure) ∧
        world.afterCalls artifact cells 0 (call + 1) = (cells, call + 1)) ∧
      (∀ call < calls, leading ≤ call → isFatalAnswer (script leading) = false ∧
        world.replyTo artifact cells 0 call = .settled (.ok (answeredTree? (script leading))) ∧
        world.afterCalls artifact cells 0 (call + 1) =
          ((artifact.identity, answeredTree? (script leading)) :: cells, leading + 1)) ∧
      (world.afterCalls artifact cells 0 calls).2 =
        if leading = calls then calls else leading + 1 := by
  intro world leading
  have fatal : ∀ load < leading, isFatalAnswer (script load) = true :=
    fun load earlier => isFatalAnswer_of_lt_leadingFatal earlier
  refine ⟨fun call before => ?_, fun call within later => ?_, ?_⟩
  · have fatalSoFar : ∀ load < call + 1, isFatalAnswer (script load) = true :=
      fun load earlier => fatal load (Nat.lt_of_lt_of_le earlier before)
    obtain ⟨failure, failed, failureFatal⟩ := isFatalAnswer_iff.mp (fatal call before)
    refine ⟨failure, failed, failureFatal, ?_, afterCalls_of_fatal empty fatalSoFar⟩
    rw [← failed]
    exact replyTo_of_fatal empty fun load earlier => fatalSoFar load (Nat.lt_succ_of_le earlier)
  · have settled : isFatalAnswer (script leading) = false :=
      not_isFatalAnswer_leadingFatal (Nat.lt_of_le_of_lt later within)
    exact ⟨settled, replyTo_of_settled empty fatal settled later,
      afterCalls_of_settled empty fatal settled (Nat.lt_succ_of_le later)⟩
  · split
    · rename_i allFatal
      rw [afterCalls_of_fatal empty (allFatal ▸ fatal)]
    · rename_i someSettled
      have within : leading < calls := Nat.lt_of_le_of_ne leadingFatal_le someSettled
      rw [afterCalls_of_settled empty fatal (not_isFatalAnswer_leadingFatal within) within]

/-- Two fatal failures, then a text that cannot be parsed, and trees from then on. -/
def sampleScript : Nat → Except Failure (Option Tree)
  | 0 => .error (.internal "incompatible language version")
  | 1 => .error .cancelled
  | 2 => .error (.unparsable "A.cs" "no tree")
  | _ => .ok (some default)

/-- Of five calls the first two fail, and the others get no tree although later loads would have
given one. -/
theorem tree_is_loaded_until_not_fatal_sample :
    let artifact := Artifact.make 7 "A.cs" .unavailable
    let world := scripted sampleScript
    world.replyTo artifact [] 0 0 = .settled (.error (.internal "incompatible language version")) ∧
      world.replyTo artifact [] 0 1 = .settled (.error .cancelled) ∧
      world.replyTo artifact [] 0 2 = .settled (.ok none) ∧
      world.replyTo artifact [] 0 4 = .settled (.ok none) ∧
      (world.afterCalls artifact [] 0 5).2 = 3 := by
  intro artifact world
  have leading : leadingFatal sampleScript 5 = 2 := by decide
  obtain ⟨failing, keeping, loads⟩ := tree_is_loaded_until_not_fatal sampleScript artifact
    (show List.lookup artifact.identity [] = none from rfl) 5
  rw [leading] at failing keeping loads
  obtain ⟨first, firstFailed, -, firstReply, -⟩ := failing 0 (by decide)
  obtain ⟨second, secondFailed, -, secondReply, -⟩ := failing 1 (by decide)
  cases firstFailed
  cases secondFailed
  exact ⟨firstReply, secondReply, (keeping 2 (by decide) (by decide)).2.1,
    (keeping 4 (by decide) (by decide)).2.1, loads⟩

end World
end HouseStyle
