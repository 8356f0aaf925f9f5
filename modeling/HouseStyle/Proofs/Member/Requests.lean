import HouseStyle.Proofs.Member.Cache
import Mathlib.Data.List.Pairwise

/-!
# Any sequence of requests to a member table

A table of members takes requests of several forms, and it may be reset between
them.  Over every sequence of requests about the nodes of one tree, where a reset
may pass on to any other tree, each request is answered as if the members of its
type were read afresh.  All the while the remembered ranges lie within the list
of members and apart from each other, and until the next reset each of them goes
on to denote the same members.
-/

namespace HouseStyle

open Syntax

namespace MemberTable

/-- What a table can be asked. -/
inductive Request where
  /-- The members of a type. -/
  | membersOf (type : Node)
  /-- The members of a type with a name. -/
  | findMember (type : Node) (name : String)
  /-- The member of a type that a name means under a usage. -/
  | resolve (type : Node) (name : String) (usage : Usage)
  /-- The member that a name written at a site means under a usage. -/
  | resolveReference (site : Site) (name : String) (usage : Usage)
  /-- To forget everything. -/
  | reset

/-- What a table answers. -/
inductive Answer where
  /-- Some members. -/
  | members (found : List Member)
  /-- The member that is meant, if there is one. -/
  | meant (found : Option Member)
  /-- Nothing but that it is done. -/
  | done
deriving DecidableEq

namespace Request

/-- Asks a table. -/
def run (table : MemberTable) : Request → Answer × MemberTable
  | membersOf type =>
      let found := table.membersOf type
      (.members found.1, found.2)
  | findMember type name =>
      let found := table.findMember type name
      (.members found.1, found.2)
  | resolve type name usage =>
      let found := table.resolve type name usage
      (.meant found.1, found.2)
  | resolveReference site name usage =>
      let found := table.resolveReference site name usage
      (.meant found.1, found.2)
  | reset => (.done, table.reset)

/-- The answer when the members of the type are read afresh, without a table. -/
def afresh : Request → Answer
  | membersOf type => .members (Member.ofType type)
  | findMember type name => .members (Member.named name (Member.ofType type))
  | resolve type name usage => .meant (Member.resolve? name usage (Member.ofType type))
  | resolveReference site name usage => .meant (Member.meant? site name usage)
  | reset => .done

/-- The request is about a node of a tree, if about any. -/
def IsAbout (tree : Tree) : Request → Prop
  | membersOf type => type ∈ tree.root.subtree
  | findMember type _ => type ∈ tree.root.subtree
  | resolve type _ _ => type ∈ tree.root.subtree
  | resolveReference site _ _ => site ∈ tree.site.subtree
  | reset => True

end Request

/-- Asks a table one request after the other. -/
def runAll (table : MemberTable) : List Request → List Answer × MemberTable
  | [] => ([], table)
  | request :: rest =>
      let asked := request.run table
      let others := asked.2.runAll rest
      (asked.1 :: others.1, others.2)

/-- Requests about one tree at a time, from a first tree to a last one, where only a reset passes
on to another tree. -/
inductive AsksOf : Tree → List Request → Tree → Prop
  | nothing
      (tree : Tree) :
      AsksOf tree [] tree
  | request
      {tree last : Tree}
      {request : Request}
      {rest : List Request}
      (about : request.IsAbout tree)
      (others : AsksOf tree rest last) :
      AsksOf tree (request :: rest) last
  | reset
      {tree next last : Tree}
      {rest : List Request}
      (others : AsksOf next rest last) :
      AsksOf tree (.reset :: rest) last

/-! ## One request -/

/-- A request leaves the table as it is, forgets everything, or remembers one more type. -/
theorem Request.run_cases (request : Request) (table : MemberTable) :
    (request.run table).2 = table ∨
      request = .reset ∧ (request.run table).2 = empty ∨
      ∃ type, table.ranges.lookup type.number = none ∧
        (request.run table).2 = table.remember type := by
  have asked (type : Node) : (table.membersOf type).2 = table ∨
      table.ranges.lookup type.number = none ∧
        (table.membersOf type).2 = table.remember type := by
    unfold MemberTable.membersOf
    cases found : table.ranges.lookup type.number with
    | none => exact Or.inr ⟨rfl, rfl⟩
    | some range => exact Or.inl rfl
  have ofType (type : Node) (same : (request.run table).2 = (table.membersOf type).2) :
      (request.run table).2 = table ∨
        ∃ type, table.ranges.lookup type.number = none ∧
          (request.run table).2 = table.remember type := by
    rw [same]
    exact (asked type).imp_right fun remembered => ⟨type, remembered⟩
  cases request with
  | membersOf type => exact (ofType type rfl).imp_right Or.inr
  | findMember type name => exact (ofType type rfl).imp_right Or.inr
  | resolve type name usage => exact (ofType type rfl).imp_right Or.inr
  | resolveReference site name usage =>
      cases enclosing : site.enclosingType? with
      | none =>
          left
          simp [Request.run, MemberTable.resolveReference, enclosing]
      | some type =>
          refine (ofType type.node ?_).imp_right Or.inr
          simp [Request.run, MemberTable.resolveReference, enclosing, MemberTable.resolve]
  | reset => exact Or.inr (Or.inl ⟨rfl, rfl⟩)

/-- A table that is a cache answers requests about its tree, and stays a cache. -/
theorem IsCacheOf.run
    {tree : Tree}
    {table : MemberTable}
    {request : Request}
    (cache : table.IsCacheOf tree)
    (about : request.IsAbout tree) :
    (request.run table).1 = request.afresh ∧ (request.run table).2.IsCacheOf tree := by
  cases request with
  | membersOf type =>
      obtain ⟨members, stillCache⟩ := cache.membersOf about
      exact ⟨congrArg Answer.members members, stillCache⟩
  | findMember type name =>
      obtain ⟨members, stillCache⟩ := cache.membersOf about
      refine ⟨?_, stillCache⟩
      simp [Request.run, MemberTable.findMember, Request.afresh, members]
  | resolve type name usage =>
      obtain ⟨members, stillCache⟩ := cache.membersOf about
      refine ⟨?_, stillCache⟩
      simp [Request.run, MemberTable.resolve, Request.afresh, members]
  | resolveReference site name usage =>
      obtain ⟨meant, stillCache⟩ := cache.resolveReference about name usage
      exact ⟨congrArg Answer.meant meant, stillCache⟩
  | reset => exact ⟨rfl, isCacheOf_empty tree⟩

/-! ## The layout of a table -/

/-- The remembered ranges stand one behind the other, the latest first, within the members. -/
structure IsLaidOut (table : MemberTable) : Prop where
  /-- Every range lies within the members. -/
  within : ∀ entry ∈ table.ranges,
    entry.2.1 ≤ entry.2.2 ∧ entry.2.2 ≤ table.members.length
  /-- A range begins after those that were remembered before it. -/
  behind : table.ranges.Pairwise fun later earlier => earlier.2.2 ≤ later.2.1

theorem isLaidOut_empty : empty.IsLaidOut where
  within := by
    intro entry present
    cases present
  behind := List.Pairwise.nil

theorem IsLaidOut.remember
    {table : MemberTable}
    (layout : table.IsLaidOut)
    (type : Node) :
    (table.remember type).IsLaidOut where
  within := by
    intro entry present
    rw [length_remember]
    rcases List.mem_cons.mp present with rfl | earlier
    · exact ⟨Nat.le_add_right _ _, Nat.le_refl _⟩
    · have bounds := layout.within entry earlier
      omega
  behind := by
    apply List.Pairwise.cons
    · intro entry earlier
      exact (layout.within entry earlier).2
    · exact layout.behind

theorem IsLaidOut.run
    {table : MemberTable}
    (layout : table.IsLaidOut)
    (request : Request) :
    (request.run table).2.IsLaidOut := by
  obtain unchanged | ⟨-, forgotten⟩ | ⟨type, -, remembered⟩ := request.run_cases table
  · rw [unchanged]
    exact layout
  · rw [forgotten]
    exact isLaidOut_empty
  · rw [remembered]
    exact layout.remember type

/-- Ranges of different types do not overlap. -/
theorem IsLaidOut.apart
    {table : MemberTable}
    {left right : Nat × Nat × Nat}
    (layout : table.IsLaidOut)
    (leftPresent : left ∈ table.ranges)
    (rightPresent : right ∈ table.ranges)
    (different : left.1 ≠ right.1) :
    left.2.2 ≤ right.2.1 ∨ right.2.2 ≤ left.2.1 := by
  let Apart (one other : Nat × Nat × Nat) : Prop :=
    one.2.2 ≤ other.2.1 ∨ other.2.2 ≤ one.2.1
  have symmetric : Std.Symm Apart := ⟨fun _ _ => Or.symm⟩
  have pairwise : table.ranges.Pairwise Apart := layout.behind.imp Or.inr
  apply pairwise.forall leftPresent rightPresent
  rintro rfl
  exact different rfl

/-- A table goes on to hold what another one remembers, and denotes the same by it. -/
def Keeps (table later : MemberTable) : Prop :=
  ∀ number range, table.ranges.lookup number = some range →
    later.ranges.lookup number = some range ∧
      later.between range.1 range.2 = table.between range.1 range.2

theorem Keeps.refl (table : MemberTable) : table.Keeps table :=
  fun _ _ found => ⟨found, rfl⟩

theorem Keeps.trans
    {table later latest : MemberTable}
    (first : table.Keeps later)
    (second : later.Keeps latest) :
    table.Keeps latest := by
  intro number range found
  obtain ⟨stillFound, same⟩ := first number range found
  obtain ⟨finallyFound, stillSame⟩ := second number range stillFound
  exact ⟨finallyFound, stillSame.trans same⟩

theorem IsLaidOut.keeps_remember
    {table : MemberTable}
    {type : Node}
    (layout : table.IsLaidOut)
    (unknown : table.ranges.lookup type.number = none) :
    table.Keeps (table.remember type) := by
  intro number range found
  have different : number ≠ type.number := by
    rintro rfl
    rw [unknown] at found
    cases found
  obtain ⟨before, after, split, -⟩ := List.lookup_eq_some_iff.mp found
  have present : (number, range) ∈ table.ranges := by
    rw [split]
    exact List.mem_append_right _ List.mem_cons_self
  refine ⟨?_, between_remember type (layout.within _ present).2⟩
  rw [MemberTable.remember, List.lookup_cons, beq_false_of_ne different]
  exact found

/-- Only a reset makes a table forget. -/
theorem IsLaidOut.keeps_run
    {table : MemberTable}
    {request : Request}
    (layout : table.IsLaidOut)
    (noReset : request ≠ .reset) :
    table.Keeps (request.run table).2 := by
  obtain unchanged | ⟨isReset, -⟩ | ⟨type, unknown, remembered⟩ := request.run_cases table
  · rw [unchanged]
    exact Keeps.refl table
  · exact absurd isReset noReset
  · rw [remembered]
    exact layout.keeps_remember unknown

theorem IsLaidOut.keeps_runAll
    {table : MemberTable}
    {requests : List Request}
    (layout : table.IsLaidOut)
    (noReset : .reset ∉ requests) :
    table.Keeps (table.runAll requests).2 := by
  induction requests generalizing table with
  | nil => exact Keeps.refl table
  | cons request rest inductionHypothesis =>
      have first : request ≠ .reset := fun isReset => noReset (isReset ▸ List.mem_cons_self)
      have others : .reset ∉ rest := fun present => noReset (List.mem_cons_of_mem _ present)
      exact (layout.keeps_run first).trans (inductionHypothesis (layout.run request) others)

/-! ## Sequences of requests -/

/-- What is known of a table that has been asked about a tree since the last reset. -/
structure IsSound (tree : Tree) (table : MemberTable) : Prop where
  /-- What it remembers of the tree is true. -/
  cache : table.IsCacheOf tree
  /-- Its ranges are in order. -/
  layout : table.IsLaidOut

theorem isSound_empty (tree : Tree) : empty.IsSound tree where
  cache := isCacheOf_empty tree
  layout := isLaidOut_empty

theorem IsSound.runAll
    {first last : Tree}
    {table : MemberTable}
    {requests : List Request}
    (sound : table.IsSound first)
    (asked : AsksOf first requests last) :
    (table.runAll requests).1 = requests.map Request.afresh ∧
      (table.runAll requests).2.IsSound last := by
  induction asked generalizing table with
  | nothing tree => exact ⟨rfl, sound⟩
  | @request tree last request rest about others inductionHypothesis =>
      obtain ⟨answer, stillCache⟩ := sound.cache.run about
      have stillSound : (request.run table).2.IsSound tree :=
        ⟨stillCache, sound.layout.run request⟩
      obtain ⟨answers, finallySound⟩ := inductionHypothesis stillSound
      refine ⟨?_, finallySound⟩
      rw [MemberTable.runAll, List.map_cons, answer, answers]
  | @reset tree next last rest others inductionHypothesis =>
      obtain ⟨answers, finallySound⟩ := inductionHypothesis (isSound_empty next)
      refine ⟨?_, finallySound⟩
      rw [List.map_cons, ← answers]
      rfl

/-- The members of a type that has been asked for stand in the range remembered for it. -/
theorem IsCacheOf.exists_range_membersOf
    {tree : Tree}
    {table : MemberTable}
    {type : Node}
    (cache : table.IsCacheOf tree)
    (inside : type ∈ tree.root.subtree) :
    ∃ range, (table.membersOf type).2.ranges.lookup type.number = some range ∧
      (table.membersOf type).2.between range.1 range.2 = Member.ofType type := by
  unfold MemberTable.membersOf
  cases found : table.ranges.lookup type.number with
  | none => exact ⟨_, List.lookup_cons_self, between_remember_self table type⟩
  | some range => exact ⟨range, found, (cache type inside range found).2⟩

/--
Started from a reset table, whatever that was used for before, every sequence of
requests about one tree at a time is answered as if the members of each type were
read afresh.  Afterwards all ranges lie within the members and those of different
types apart; the members of a type asked for stand in its range; and requests
other than a reset leave every range where it is, denoting the same members.
-/
theorem runAll_eq_map_afresh
    (used : MemberTable)
    {first last : Tree}
    {requests : List Request}
    (asked : AsksOf first requests last) :
    let answered := used.reset.runAll requests
    answered.1 = requests.map Request.afresh ∧
      (∀ entry ∈ answered.2.ranges,
        entry.2.1 ≤ entry.2.2 ∧ entry.2.2 ≤ answered.2.members.length) ∧
      (∀ left ∈ answered.2.ranges, ∀ right ∈ answered.2.ranges, left.1 ≠ right.1 →
        left.2.2 ≤ right.2.1 ∨ right.2.2 ≤ left.2.1) ∧
      (∀ type ∈ last.root.subtree,
        let found := answered.2.membersOf type
        ∃ range, found.2.ranges.lookup type.number = some range ∧
          found.2.between range.1 range.2 = Member.ofType type) ∧
      ∀ later, .reset ∉ later → answered.2.Keeps (answered.2.runAll later).2 := by
  intro answered
  obtain ⟨answers, sound⟩ := (isSound_empty first).runAll asked
  refine ⟨answers, sound.layout.within, ?_, ?_, ?_⟩
  · intro left leftPresent right rightPresent different
    exact sound.layout.apart leftPresent rightPresent different
  · intro type inside
    exact sound.cache.exists_range_membersOf inside
  · intro later noReset
    exact sound.layout.keeps_runAll noReset

/-- The tree of a class with one field; the numbers of its nodes do not depend on the name. -/
def sampleTree (name : String) : Tree where
  source := "class C \x7b int " ++ name ++ "; \x7d"
  root :=
    .rule 0 .classDeclaration none 0 0 "" [
      .rule 1 .declarationList (some .body) 0 0 "" [
        .rule 2 .fieldDeclaration none 0 0 "" [
          .rule 3 .variableDeclaration none 0 0 "" [
            .rule 4 .variableDeclarator none 0 0 "" [
              .rule 5 .identifier (some .name) 0 0 name []]]]]]
  distinct := of_decide_eq_true rfl

theorem runAll_eq_map_afresh_sample :
    let first := sampleTree "a"
    let second := sampleTree "b"
    let requests : List Request :=
      [.membersOf first.root, .resolve first.root "a" .value, .reset,
        .resolve second.root "a" .value, .findMember second.root "b"]
    let member (name : String) : Member := ⟨name, .field, false, 2, 0, 0, none⟩
    first.root.number = second.root.number ∧ AsksOf first requests second ∧
      (empty.reset.runAll requests).1 =
        [.members [member "a"], .meant (some (member "a")), .done, .meant none,
          .members [member "b"]] := by
  intro first second requests member
  have rootInside (tree : Tree) : tree.root ∈ tree.root.subtree := by
    rw [Node.subtree_eq]
    exact List.mem_cons_self
  have ofSecond : AsksOf second
      [.resolve second.root "a" .value, .findMember second.root "b"] second :=
    .request (rootInside second) (.request (rootInside second) (.nothing second))
  have asked : AsksOf first requests second :=
    .request (rootInside first) (.request (rootInside first) (.reset ofSecond))
  exact ⟨rfl, asked, (runAll_eq_map_afresh empty asked).1.trans (by decide)⟩

end MemberTable
end HouseStyle
