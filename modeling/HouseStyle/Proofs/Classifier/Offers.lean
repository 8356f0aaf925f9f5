import HouseStyle.Classifier
import HouseStyle.Proofs.Syntax.Preorder

/-!
# The nodes that a walk offers

A walk over a tree calls a visitor at one named site after the other, and what
the visitor decides may depend on all that it has seen before.  The calls are
those of the plain recursion: a named site first and then, unless the visitor
declines, the sites below it from left to right.

So the named sites with no declined site above them are visited, each of them
once and in document order, and no others are.
-/

namespace HouseStyle
namespace Syntax
namespace Site

variable
  {S : Type}
  {visit : Site → S → S × Descent}

/-! ## The calls of a visitor -/

/-- Has a visitor write down each call: the site and the state that the visitor finds there. -/
def logged
    (visit : Site → S → S × Descent)
    (site : Site)
    (log : List (Site × S) × S) : (List (Site × S) × S) × Descent :=
  let visited := visit site log.2
  ((log.1 ++ [(site, log.2)], visited.1), visited.2)

mutual

/-- Calls a visitor at a node below given levels if it is named and then, unless the visitor
declines, at all that is below it.  The result is the calls, in order, and the state in the end. -/
def preorderNode
    (visit : Site → S → S × Descent)
    (above : List Level) : Node → S → List (Site × S) × S
  | .branch label children, state =>
      let site : Site := ⟨.branch label children, above⟩
      if label.named then
        let visited := visit site state
        match visited.2 with
        | .skip => ([(site, state)], visited.1)
        | .enter =>
            let below := preorderAll visit (.branch label children) above [] children visited.1
            ((site, state) :: below.1, below.2)
      else
        preorderAll visit (.branch label children) above [] children state

/-- Does so for the nodes of a list one after the other, given their parent and the siblings
before. -/
def preorderAll
    (visit : Site → S → S × Descent)
    (parent : Node)
    (above : List Level)
    (earlier : List Node) : List Node → S → List (Site × S) × S
  | [], state => ([], state)
  | node :: later, state =>
      let first := preorderNode visit (⟨parent, earlier, later⟩ :: above) node state
      let others := preorderAll visit parent above (node :: earlier) later first.2
      (first.1 ++ others.1, others.2)

end

mutual

theorem traverseNode_logged
    (above : List Level) : ∀ (node : Node) (log : List (Site × S) × S),
    traverseNode (onNamed (logged visit)) above node log =
      (log.1 ++ (preorderNode visit above node log.2).1, (preorderNode visit above node log.2).2)
  | .branch label children, log => by
      have below (calls : List (Site × S)) (state : S) :=
        traverseAll_logged (.branch label children) above [] children (calls, state)
      rw [traverseNode, preorderNode]
      cases named : label.named with
      | false =>
          have passed : onNamed (logged visit) ⟨.branch label children, above⟩ log =
              (log, .enter) := by
            simp [onNamed, Node.isNamed, Node.label, named]
          rw [passed]
          exact below log.1 log.2
      | true =>
          have called : onNamed (logged visit) ⟨.branch label children, above⟩ log =
              logged visit ⟨.branch label children, above⟩ log := by
            simp [onNamed, Node.isNamed, Node.label, named]
          rw [called]
          dsimp only [logged]
          cases (visit ⟨.branch label children, above⟩ log.2).2 with
          | skip => rfl
          | enter =>
              dsimp only
              rw [below, List.append_assoc]
              rfl

/-- The recursion that has its calls written down makes the calls of the recursion. -/
theorem traverseAll_logged
    (parent : Node)
    (above : List Level)
    (earlier : List Node) : ∀ (nodes : List Node) (log : List (Site × S) × S),
    traverseAll (onNamed (logged visit)) parent above earlier nodes log =
      (log.1 ++ (preorderAll visit parent above earlier nodes log.2).1,
        (preorderAll visit parent above earlier nodes log.2).2)
  | [], log => by
      rw [traverseAll, preorderAll, List.append_nil]
  | node :: later, log => by
      rw [traverseAll, preorderAll, traverseNode_logged, traverseAll_logged, List.append_assoc]

end

/-- In some call at a site the visitor declined to descend. -/
def Declined
    (visit : Site → S → S × Descent)
    (calls : List (Site × S))
    (site : Site) : Prop :=
  ∃ state, (site, state) ∈ calls ∧ (visit site state).2 = .skip

theorem Declined.mono
    {calls more : List (Site × S)}
    {site : Site}
    (declined : Declined visit calls site)
    (subset : calls ⊆ more) :
    Declined visit more site := by
  obtain ⟨state, called, skipped⟩ := declined
  exact ⟨state, subset called, skipped⟩

/--
Calls cover a list of sites that stand below given ones: they are made at named
sites of the list, in its order, below named sites that were entered, and at all
named sites with no declined site above them.
-/
structure Covers
    (visit : Site → S → S × Descent)
    (outside sites : List Site)
    (calls : List (Site × S)) : Prop where
  /-- The calls are made in the order of the list. -/
  ordered : (calls.map Prod.fst).Sublist sites
  /-- The calls are made at named sites. -/
  named : ∀ call ∈ calls, call.1.node.isNamed = true
  /-- What is above a call was entered, down from the given sites. -/
  entered : ∀ call ∈ calls, ∀ outer ∈ call.1.ancestors, outer.node.isNamed = true →
    outer ∈ outside ∨ ∃ state, (outer, state) ∈ calls ∧ (visit outer state).2 = .enter
  /-- No named site is left out unless a site above it was declined. -/
  complete : ∀ inner ∈ sites, inner.node.isNamed = true →
    (∀ outer ∈ inner.ancestors, ¬ Declined visit calls outer) → inner ∈ calls.map Prod.fst

namespace Covers

variable
  {site : Site}
  {state : S}
  {outside sites others : List Site}
  {calls more : List (Site × S)}

theorem nil : Covers visit outside [] [] where
  ordered := List.Sublist.slnil
  named := by simp
  entered := by simp
  complete := by simp

/-- Two lists are covered one after the other. -/
theorem append
    (first : Covers visit outside sites calls)
    (second : Covers visit outside others more) :
    Covers visit outside (sites ++ others) (calls ++ more) where
  ordered := by
    rw [List.map_append]
    exact first.ordered.append second.ordered
  named := by
    intro call called
    rcases List.mem_append.mp called with before | after
    · exact first.named call before
    · exact second.named call after
  entered := by
    intro call called outer above outerNamed
    rcases List.mem_append.mp called with before | after
    · refine (first.entered call before outer above outerNamed).imp_right ?_
      rintro ⟨state, outerCalled, enters⟩
      exact ⟨state, List.mem_append_left _ outerCalled, enters⟩
    · refine (second.entered call after outer above outerNamed).imp_right ?_
      rintro ⟨state, outerCalled, enters⟩
      exact ⟨state, List.mem_append_right _ outerCalled, enters⟩
  complete := by
    intro inner listed innerNamed undeclined
    rw [List.map_append, List.mem_append]
    rcases List.mem_append.mp listed with before | after
    · refine .inl (first.complete inner before innerNamed fun outer above declined => ?_)
      exact undeclined outer above (declined.mono (List.subset_append_left _ _))
    · refine .inr (second.complete inner after innerNamed fun outer above declined => ?_)
      exact undeclined outer above (declined.mono (List.subset_append_right _ _))

/-- A token is passed over and what is below it is covered. -/
theorem token
    (unnamed : site.node.isNamed = false)
    (below : Covers visit (site :: outside) sites calls) :
    Covers visit outside (site :: sites) calls where
  ordered := below.ordered.cons site
  named := below.named
  entered := by
    intro call called outer above outerNamed
    rcases below.entered call called outer above outerNamed with given | found
    · rcases List.mem_cons.mp given with rfl | further
      · rw [unnamed] at outerNamed
        cases outerNamed
      · exact .inl further
    · exact .inr found
  complete := by
    intro inner listed innerNamed undeclined
    rcases List.mem_cons.mp listed with rfl | further
    · rw [unnamed] at innerNamed
      cases innerNamed
    · exact below.complete inner further innerNamed undeclined

/-- A site is called and entered, and then what is below it is covered. -/
theorem enter
    (siteNamed : site.node.isNamed = true)
    (siteOutside : ∀ outer ∈ site.ancestors, outer ∈ outside)
    (enters : (visit site state).2 = .enter)
    (below : Covers visit (site :: outside) sites calls) :
    Covers visit outside (site :: sites) ((site, state) :: calls) where
  ordered := below.ordered.cons_cons site
  named := by
    intro call called
    rcases List.mem_cons.mp called with rfl | further
    · exact siteNamed
    · exact below.named call further
  entered := by
    intro call called outer above outerNamed
    rcases List.mem_cons.mp called with rfl | further
    · exact .inl (siteOutside outer above)
    · rcases below.entered call further outer above outerNamed with given | found
      · rcases List.mem_cons.mp given with rfl | higher
        · exact .inr ⟨state, List.mem_cons_self, enters⟩
        · exact .inl higher
      · obtain ⟨later, outerCalled, outerEnters⟩ := found
        exact .inr ⟨later, List.mem_cons_of_mem _ outerCalled, outerEnters⟩
  complete := by
    intro inner listed innerNamed undeclined
    rcases List.mem_cons.mp listed with rfl | further
    · exact List.mem_cons_self
    · refine List.mem_cons_of_mem _ (below.complete inner further innerNamed ?_)
      intro outer above declined
      exact undeclined outer above (declined.mono (List.subset_cons_self _ _))

/-- A site is called and declined, and nothing below it is called. -/
theorem skip
    (siteNamed : site.node.isNamed = true)
    (siteOutside : ∀ outer ∈ site.ancestors, outer ∈ outside)
    (skips : (visit site state).2 = .skip)
    (below : ∀ inner ∈ sites, site ∈ inner.ancestors) :
    Covers visit outside (site :: sites) [(site, state)] where
  ordered := (List.nil_sublist sites).cons_cons site
  named := by
    intro call called
    rw [List.mem_singleton.mp called]
    exact siteNamed
  entered := by
    intro call called outer above _
    rw [List.mem_singleton.mp called] at above
    exact .inl (siteOutside outer above)
  complete := by
    intro inner listed _ undeclined
    rcases List.mem_cons.mp listed with rfl | further
    · exact List.mem_cons_self
    · exact absurd ⟨state, List.mem_cons_self, skips⟩ (undeclined site (below inner further))

end Covers

mutual

theorem covers_preorderNode
    (visit : Site → S → S × Descent)
    (above : List Level) : ∀ (node : Node) (state : S),
    Covers visit (ancestorsOf above) (listed above node) (preorderNode visit above node state).1
  | .branch label children, state => by
      have below (state : S) := covers_preorderAll visit (.branch label children) above []
        children state
      have told : (Site.mk (.branch label children) above).node.isNamed = label.named := rfl
      rw [listed, preorderNode]
      cases named : label.named with
      | false => exact .token (told.trans named) (below state)
      | true =>
          rw [if_pos rfl]
          dsimp only
          split
          · rename_i skips
            refine .skip (told.trans named) (fun _ => id) skips ?_
            intro inner inside
            rw [listedAll_eq_flatMap, List.mem_flatMap] at inside
            obtain ⟨child, placed, deeper⟩ := inside
            exact mem_ancestors_of_mem_subtree_child placed deeper
          · rename_i enters
            exact .enter (told.trans named) (fun _ => id) enters (below _)

/-- The calls of the recursion cover the sites that it runs over. -/
theorem covers_preorderAll
    (visit : Site → S → S × Descent)
    (parent : Node)
    (above : List Level)
    (earlier : List Node) : ∀ (nodes : List Node) (state : S),
    Covers visit (⟨parent, above⟩ :: ancestorsOf above) (listedAll parent above earlier nodes)
      (preorderAll visit parent above earlier nodes state).1
  | [], _ => .nil
  | node :: later, state => by
      rw [listedAll, preorderAll]
      have first := covers_preorderNode visit (⟨parent, earlier, later⟩ :: above) node state
      exact first.append (covers_preorderAll visit parent above (node :: earlier) later _)

end

end Site
end Syntax

namespace Classifier

open Syntax

variable {δ σ : Type}

end Classifier
end HouseStyle
