import HouseStyle.Syntax.Site

/-!
# Walks in document order

A walk visits sites one after the other with a cursor: from a site it goes on
to the first child, or past the site when there is none or the visitor
declines to descend.  It ends when nothing follows.  A search moves in the same
way, ends at the first site that it looks for, and is over when the cursor is
back at the site where it set out.  Since every move leaves less of the
document, walks and searches end.
-/

namespace HouseStyle
namespace Syntax

/-- Whether a walk goes on below the site just visited. -/
inductive Descent where
  | enter
  | skip
deriving DecidableEq, Repr

namespace Site

variable {S : Type}

/-- The next site of a walk. -/
def next? (site : Site) : Descent → Option Site
  | .enter => site.firstChild?.or site.following?
  | .skip => site.following?

theorem remaining_next_lt
    {site next : Site}
    {descent : Descent}
    (found : site.next? descent = some next) :
    next.remaining < site.remaining := by
  cases descent with
  | skip => exact remaining_following_lt found
  | enter =>
    cases first : site.firstChild? with
    | none =>
      simp only [next?, first, Option.none_or] at found
      exact remaining_following_lt found
    | some child =>
      simp only [next?, first, Option.some_or, Option.some.injEq] at found
      subst found
      exact remaining_firstChild_lt first

theorem remaining_nextWithin_lt
    {site start next : Site}
    (found : site.firstChild?.or (site.followingWithin? start) = some next) :
    next.remaining < site.remaining := by
  rcases Option.or_eq_some_iff.mp found with first | ⟨-, later⟩
  · exact remaining_firstChild_lt first
  · exact remaining_following_lt (following?_of_followingWithin? later)

/-- Visits a site and all that follows it in document order, threading a state. -/
def walkFrom
    (visit : Site → S → S × Descent)
    (site : Site)
    (state : S) : S :=
  let visited := visit site state
  match _found : site.next? visited.2 with
  | none => visited.1
  | some next => walkFrom visit next visited.1
termination_by site.remaining
decreasing_by exact remaining_next_lt (by assumption)

/-- Restricts a visitor to the sites that are no mere tokens; tokens are passed through. -/
def onNamed
    (visit : Site → S → S × Descent)
    (site : Site)
    (state : S) : S × Descent :=
  if site.node.isNamed then visit site state else (state, .enter)

/--
Some site from here on has a property of its node.  The cursor set out from a
given start and goes down to first children; where there is none, it goes on to
what follows on the way back to the start.
-/
def anyWithin
    (holds : Node → Bool)
    (start site : Site) : Bool :=
  if holds site.node then
    true
  else
    match _found : site.firstChild?.or (site.followingWithin? start) with
    | none => false
    | some next => anyWithin holds start next
termination_by site.remaining
decreasing_by exact remaining_nextWithin_lt (by assumption)

/-- The node or some node below it has a property. -/
def anyBelow (holds : Node → Bool) (site : Site) : Bool :=
  anyWithin holds site site

end Site
end Syntax
end HouseStyle
