import HouseStyle.Proofs.Declaration.Arguments
import HouseStyle.Proofs.Member.Requests
import HouseStyle.Proofs.Member.Resolution

/-!
# The member that a name denotes

A name written at a site denotes a member of the nearest enclosing type if one
entry alone among the declarations that stand directly in the body of that type
has the name and fits the way it is used.  Entries are told here by the nodes
that declare them.  Neither the order of the declarations nor what a table
remembers from earlier requests makes a difference.
-/

namespace HouseStyle

open Syntax

namespace Member

/-! ## The entries of a declaration -/

/-- A declaration states a name: by one of its declarators, or by its label. -/
inductive States (declaration : Node) (name : String) : Prop
  /-- Fields and events without accessors have declarators. -/
  | declarator
      {list identifier : Node}
      (sort : declaration.kind ∈ [.fieldDeclaration, .eventFieldDeclaration])
      (found : IsFirst declaration.namedChildren .variableDeclaration list)
      (names : Declarator.NamesVariable list identifier)
      (text : identifier.text = name)
  /-- Properties, methods and events with accessors have one name. -/
  | label
      {identifier : Node}
      (sort : declaration.kind ∈ [.propertyDeclaration, .eventDeclaration, .methodDeclaration])
      (found : declaration.child? .name = some identifier)
      (text : identifier.text = name)

/-- The numbers of arguments that a declaration of some sort accepts, for methods only. -/
def arityOf (declaration : Node) (kind : MemberKind) : Option Arity :=
  if kind = .method then some (Arity.ofList (declaration.child? .parameters)) else none

/-- A declaration brings in a member.  None is brought in under the name of an interface. -/
structure IsEntryOf (declaration : Node) (member : Member) : Prop where
  /-- The sort of the member is that of the declaration. -/
  sort : MemberKind.ofDeclaration? declaration.kind = some member.kind
  /-- The declaration does not implement a member of an interface by that interface's name. -/
  implicit : declaration.hasChildOf .explicitInterfaceSpecifier = false
  /-- The declaration states the name of the member. -/
  states : States declaration member.name
  /-- What else is known of the member is read off the declaration. -/
  reads : member = ofNamed declaration member.kind member.name (arityOf declaration member.kind)

/-- A declaration with declarators states their names. -/
theorem states_iff_mem_names
    {declaration : Node}
    {name : String}
    (sort : declaration.kind ∈ [.fieldDeclaration, .eventFieldDeclaration]) :
    States declaration name ↔ name ∈ Declarator.names declaration := by
  have outer : declaration.kind ≠ .variableDeclaration := by
    intro same
    simp [same] at sort
  have unlabelled : declaration.kind ∉
      [.propertyDeclaration, .eventDeclaration, .methodDeclaration] := by
    simp only [List.mem_cons, List.not_mem_nil, or_false] at sort ⊢
    rcases sort with sort | sort <;> simp [sort]
  rw [Declarator.mem_names_iff_of_outer outer]
  constructor
  · rintro (⟨-, found, names, text⟩ | ⟨other, -⟩)
    · exact ⟨_, found, _, names, text⟩
    · exact absurd other unlabelled
  · rintro ⟨list, found, identifier, names, text⟩
    exact .declarator sort found names text

/-- A declaration with declarators brings in a member for each of their names. -/
theorem mem_ofKind_iff_of_declarators
    {declaration : Node}
    {kind : MemberKind}
    {member : Member}
    (sort : declaration.kind ∈ [.fieldDeclaration, .eventFieldDeclaration])
    (noMethod : kind ≠ .method) :
    member ∈ ofKind declaration kind ↔
      ∃ name, States declaration name ∧
        member = ofNamed declaration kind name (arityOf declaration kind) := by
  have listed : ofKind declaration kind =
      (Declarator.names declaration).map fun name => ofNamed declaration kind name none := by
    simp only [List.mem_cons, List.not_mem_nil, or_false] at sort
    rcases sort with sort | sort <;> simp only [ofKind, sort]
  rw [listed, List.mem_map, arityOf, if_neg noMethod]
  simp only [states_iff_mem_names sort, eq_comm]

/-- Any other declaration brings in one member at most, under its label. -/
theorem mem_ofKind_iff_of_label
    {declaration : Node}
    {kind : MemberKind}
    {member : Member}
    (sort : declaration.kind ∈ [.propertyDeclaration, .eventDeclaration, .methodDeclaration]) :
    member ∈ ofKind declaration kind ↔
      ∃ name, States declaration name ∧
        member = ofNamed declaration kind name (arityOf declaration kind) := by
  have noDeclarators : declaration.kind ∉ [.fieldDeclaration, .eventFieldDeclaration] := by
    simp only [List.mem_cons, List.not_mem_nil, or_false] at sort ⊢
    rcases sort with sort | sort | sort <;> simp [sort]
  have single : ofKind declaration kind =
      ((declaration.child? .name).map fun identifier =>
        ofNamed declaration kind identifier.text (arityOf declaration kind)).toList := by
    simp only [List.mem_cons, List.not_mem_nil, or_false] at sort
    rcases sort with sort | sort | sort <;>
      simp only [ofKind, sort] <;> cases declaration.child? .name <;> rfl
  have states (name : String) : States declaration name ↔
      ∃ identifier, declaration.child? .name = some identifier ∧ identifier.text = name := by
    constructor
    · rintro (⟨other, -⟩ | ⟨-, found, text⟩)
      · exact absurd other noDeclarators
      · exact ⟨_, found, text⟩
    · rintro ⟨identifier, found, text⟩
      exact .label sort found text
  rw [single, Option.mem_toList, Option.map_eq_some_iff]
  simp only [states]
  constructor
  · rintro ⟨identifier, found, rfl⟩
    exact ⟨_, ⟨identifier, found, rfl⟩, rfl⟩
  · rintro ⟨_, ⟨identifier, found, rfl⟩, rfl⟩
    exact ⟨identifier, found, rfl⟩

theorem mem_ofKind_iff
    {declaration : Node}
    {kind : MemberKind}
    {member : Member}
    (sort : MemberKind.ofDeclaration? declaration.kind = some kind) :
    member ∈ ofKind declaration kind ↔
      ∃ name, States declaration name ∧
        member = ofNamed declaration kind name (arityOf declaration kind) := by
  unfold MemberKind.ofDeclaration? at sort
  split at sort
  · rename_i isField
    cases sort
    exact mem_ofKind_iff_of_declarators (by simp [isField]) (by decide)
  · rename_i isEventField
    cases sort
    exact mem_ofKind_iff_of_declarators (by simp [isEventField]) (by decide)
  · rename_i isProperty
    exact mem_ofKind_iff_of_label (by simp [isProperty])
  · rename_i isEvent
    exact mem_ofKind_iff_of_label (by simp [isEvent])
  · rename_i isMethod
    exact mem_ofKind_iff_of_label (by simp [isMethod])
  · cases sort

/-- A declaration has one entry for each name that it states. -/
theorem mem_ofDeclaration_iff
    {declaration : Node}
    {member : Member} :
    member ∈ ofDeclaration declaration ↔ IsEntryOf declaration member := by
  unfold ofDeclaration
  constructor
  · intro present
    split at present
    · cases present
    · rename_i kind sort
      split at present
      · cases present
      · rename_i implicit
        obtain ⟨name, states, rfl⟩ := (mem_ofKind_iff sort).mp present
        exact ⟨sort, Bool.eq_false_iff.mpr implicit, states, rfl⟩
  · rintro ⟨sort, implicit, states, reads⟩
    simp only [sort, implicit, Bool.false_eq_true, if_false]
    exact (mem_ofKind_iff sort).mpr ⟨_, states, reads⟩

theorem IsEntryOf.number_eq
    {declaration : Node}
    {member : Member}
    (entry : IsEntryOf declaration member) :
    declaration.number = member.declaration := by
  rw [entry.reads]
  rfl

theorem IsEntryOf.arity_eq
    {declaration : Node}
    {member : Member}
    (entry : IsEntryOf declaration member) :
    member.arity = arityOf declaration member.kind := by
  rw [entry.reads]
  rfl

/-! ## The declarations of a type -/

/-- A declaration stands directly in the body of a type. -/
def HoldsDirectly (type declaration : Site) : Prop :=
  ∃ body, type.child? .body = some body ∧ declaration ∈ body.namedChildren

/-- The entries of a type are those of the declarations that it holds directly. -/
theorem mem_ofType_iff
    {type : Site}
    {member : Member} :
    member ∈ ofType type.node ↔
      ∃ declaration, HoldsDirectly type declaration ∧ IsEntryOf declaration.node member := by
  simp only [ofType, ← Site.map_node_child?, HoldsDirectly]
  cases type.child? .body with
  | none => simp
  | some body =>
      simp [← Site.map_node_namedChildren, mem_ofDeclaration_iff]

theorem HoldsDirectly.mem_subtree
    {tree : Tree}
    {type declaration : Site}
    (holds : HoldsDirectly type declaration)
    (inside : type ∈ tree.site.subtree) :
    declaration ∈ tree.site.subtree := by
  obtain ⟨body, found, below⟩ := holds
  have bodyInside := Site.mem_subtree_of_mem_children inside (Site.mem_children_of_child? found)
  exact Site.mem_subtree_of_mem_children bodyInside (Site.mem_children_of_mem_namedChildren below)

/-- Between a type and a declaration that it holds directly stands only its body. -/
theorem HoldsDirectly.ancestors_eq
    {type declaration : Site}
    (holds : HoldsDirectly type declaration) :
    ∃ body, declaration.ancestors = body :: type :: type.ancestors := by
  obtain ⟨body, found, below⟩ := holds
  refine ⟨body, ?_⟩
  rw [Site.ancestors_of_mem_children (Site.mem_children_of_mem_namedChildren below),
    Site.ancestors_of_mem_children (Site.mem_children_of_child? found)]

/-- Different types of a tree hold different declarations. -/
theorem HoldsDirectly.unique
    {tree : Tree}
    {type other declaration otherDeclaration : Site}
    (holds : HoldsDirectly type declaration)
    (otherHolds : HoldsDirectly other otherDeclaration)
    (inside : type ∈ tree.site.subtree)
    (otherInside : other ∈ tree.site.subtree)
    (same : declaration.number = otherDeclaration.number) :
    type = other ∧ declaration = otherDeclaration := by
  obtain rfl := Tree.site_eq_of_number_eq (holds.mem_subtree inside)
    (otherHolds.mem_subtree otherInside) same
  obtain ⟨body, above⟩ := holds.ancestors_eq
  obtain ⟨otherBody, otherAbove⟩ := otherHolds.ancestors_eq
  rw [above] at otherAbove
  simp only [List.cons.injEq] at otherAbove
  exact ⟨otherAbove.2.1, rfl⟩

/-! ## Entries that a name can mean -/

/-- A use of a name can mean an entry of a type: a value is no method, and a call is of a method
whose parameters accept its arguments. -/
def Suits
    (type : Site)
    (member : Member) : Usage → Prop
  | .value => member.kind ≠ .method
  | .invocation count =>
      member.kind = .method ∧
        ∃ declaration, HoldsDirectly type declaration ∧
          declaration.number = member.declaration ∧
          Parameter.Accept ((declaration.node.child? .parameters).elim [] Node.children) count

/-- An entry of a type has a name and suits a use of it. -/
def CanBeMeant
    (type : Site)
    (name : String)
    (usage : Usage)
    (member : Member) : Prop :=
  member.name = name ∧ Suits type member usage

/-- Two entries of a list have a property. -/
def IsAmbiguous (members : List Member) (wanted : Member → Prop) : Prop :=
  ∃ one other, [one, other].Sublist members ∧ wanted one ∧ wanted other

/-- Whether an entry fits a use can be told from its declaration alone. -/
theorem fits_iff_suits
    {tree : Tree}
    {type : Site}
    {member : Member}
    {usage : Usage}
    (inside : type ∈ tree.site.subtree)
    (present : member ∈ ofType type.node) :
    member.fits usage = true ↔ Suits type member usage := by
  cases usage with
  | value => exact fits_value_iff
  | invocation count =>
      rw [fits_invocation_iff, Suits]
      refine and_congr_right fun isMethod => ?_
      obtain ⟨declaration, holds, entry⟩ := mem_ofType_iff.mp present
      have arity := entry.arity_eq
      rw [arityOf, if_pos isMethod] at arity
      simp only [arity, Option.some.injEq, exists_eq_left', Arity.accepts_ofList_iff]
      constructor
      · intro accepts
        exact ⟨declaration, holds, entry.number_eq, accepts⟩
      · rintro ⟨other, otherHolds, number, accepts⟩
        obtain ⟨-, rfl⟩ :=
          holds.unique otherHolds inside inside (entry.number_eq.trans number.symm)
        exact accepts

theorem isOnly_congr_of_mem
    {members : List Member}
    {wanted required : Member → Prop}
    {member : Member}
    (same : ∀ other ∈ members, wanted other ↔ required other) :
    IsOnly members wanted member ↔ IsOnly members required member := by
  refine exists₂_congr fun before after => and_congr_right fun split => ?_
  subst split
  refine and_congr (same member (by simp)) (forall₂_congr fun other present => ?_)
  have inList : other ∈ before ++ member :: after := by
    rcases List.mem_append.mp present with earlier | later
    · exact List.mem_append_left _ earlier
    · exact List.mem_append_right _ (List.mem_cons_of_mem _ later)
  exact not_congr (same other inList)

theorem isAmbiguous_congr_of_mem
    {members : List Member}
    {wanted required : Member → Prop}
    (same : ∀ other ∈ members, wanted other ↔ required other) :
    IsAmbiguous members wanted ↔ IsAmbiguous members required := by
  refine exists₂_congr fun one other => and_congr_right fun listed => ?_
  exact and_congr (same one (listed.subset (by simp))) (same other (listed.subset (by simp)))

/-- No single member is left after a filter if there is none of the sort or more than one. -/
theorem only?_filter_eq_none_iff
    {members : List Member}
    {wanted : Member → Bool} :
    only? (members.filter wanted) = none ↔
      (∀ member ∈ members, ¬ wanted member = true) ∨
        IsAmbiguous members fun member => wanted member = true := by
  constructor
  · intro nothing
    match found : members.filter wanted with
    | [] => exact .inl (List.filter_eq_nil_iff.mp found)
    | [member] =>
        rw [found] at nothing
        cases nothing
    | one :: other :: rest =>
        have listed : [one, other].Sublist (members.filter wanted) := by
          rw [found]
          exact ((List.nil_sublist rest).cons_cons other).cons_cons one
        have oneWanted : wanted one = true := List.of_mem_filter (listed.subset (by simp))
        have otherWanted : wanted other = true := List.of_mem_filter (listed.subset (by simp))
        exact .inr ⟨one, other, listed.trans List.filter_sublist, oneWanted, otherWanted⟩
  · rintro (nothing | ⟨one, other, listed, oneWanted, otherWanted⟩)
    · rw [List.filter_eq_nil_iff.mpr nothing]
      rfl
    · have both : [one, other].Sublist (members.filter wanted) := by
        simpa [oneWanted, otherWanted] using listed.filter wanted
      rw [Option.eq_none_iff_forall_ne_some]
      intro member single
      rw [only?_eq_some_iff.mp single] at both
      exact absurd both.length_le (by simp)

/-- A name means nothing exactly if no entry or more than one can be meant. -/
theorem resolve?_eq_none_iff
    {name : String}
    {usage : Usage}
    {members : List Member} :
    resolve? name usage members = none ↔
      (∀ member ∈ members, ¬ (member.name = name ∧ member.fits usage = true)) ∨
        IsAmbiguous members fun member => member.name = name ∧ member.fits usage = true := by
  rw [resolve?, named, List.filter_filter, only?_filter_eq_none_iff]
  simp only [Bool.and_eq_true, beq_iff_eq, and_comm]

/-! ## Other orders -/

/-- Some members are those of a list in another order, where their declarations may stand at other
places. -/
structure Rearranges
    (move : Member → Member)
    (members others : List Member) : Prop where
  /-- A member keeps its name. -/
  name : ∀ member, (move member).name = member.name
  /-- It keeps its sort. -/
  kind : ∀ member, (move member).kind = member.kind
  /-- It keeps the numbers of arguments that it accepts. -/
  arity : ∀ member, (move member).arity = member.arity
  /-- Nothing is lost or added. -/
  same : others.Perm (members.map move)

theorem only?_map
    (move : Member → Member)
    (members : List Member) :
    only? (members.map move) = (only? members).map move := by
  match members with
  | [] => rfl
  | [_] => rfl
  | _ :: _ :: _ => rfl

/-- Whether there is only one member does not depend on their order. -/
theorem only?_perm
    {members others : List Member}
    (same : members.Perm others) :
    only? members = only? others := by
  apply Option.ext
  intro member
  simp only [only?_eq_some_iff]
  constructor
  · rintro rfl
    exact List.perm_singleton.mp same.symm
  · rintro rfl
    exact List.perm_singleton.mp same

/-- A name means the same member in whatever order the members are declared. -/
theorem Rearranges.resolve?_eq
    {move : Member → Member}
    {members others : List Member}
    (rearranges : Rearranges move members others)
    (name : String)
    (usage : Usage) :
    resolve? name usage others = (resolve? name usage members).map move := by
  have fits (member : Member) : (move member).fits usage = member.fits usage := by
    cases usage <;> simp [Member.fits, rearranges.kind, rearranges.arity]
  have filtered : ((members.map move).filter fun member => member.name == name).filter
        (fun member => member.fits usage) =
      ((members.filter fun member => member.name == name).filter
        fun member => member.fits usage).map move := by
    simp only [List.filter_map, Function.comp_def, rearranges.name, fits]
  rw [resolve?, resolve?, named, named, only?_perm ((rearranges.same.filter _).filter _), filtered,
    only?_map]

/-! ## The meaning of a name at a site -/

/-- A member is an entry of the nearest type around a site and of no other type of the tree. -/
def BelongsAt
    (tree : Tree)
    (site : Site)
    (member : Member) : Prop :=
  ∃ type declaration, site.enclosingType? = some type ∧ HoldsDirectly type declaration ∧
    IsEntryOf declaration.node member ∧
    ∀ other ∈ tree.site.subtree, ∀ otherDeclaration, HoldsDirectly other otherDeclaration →
      otherDeclaration.number = member.declaration → other = type

theorem enclosingType?_mem_subtree
    {tree : Tree}
    {site type : Site}
    (inside : site ∈ tree.site.subtree)
    (enclosing : site.enclosingType? = some type) :
    type ∈ tree.site.subtree :=
  Tree.mem_subtree_of_mem_ancestors inside (List.mem_of_find?_eq_some enclosing)

theorem canBeMeant_iff
    {tree : Tree}
    {type : Site}
    (inside : type ∈ tree.site.subtree)
    (name : String)
    (usage : Usage)
    (entry : Member)
    (present : entry ∈ ofType type.node) :
    (entry.name = name ∧ entry.fits usage = true) ↔ CanBeMeant type name usage entry :=
  and_congr_right fun _ => fits_iff_suits inside present

/-- A name means an entry exactly if no other entry of the nearest type can be meant. -/
theorem meant?_eq_some_iff
    {tree : Tree}
    {site : Site}
    {name : String}
    {usage : Usage}
    {member : Member}
    (inside : site ∈ tree.site.subtree) :
    meant? site name usage = some member ↔
      ∃ type, site.enclosingType? = some type ∧
        IsOnly (ofType type.node) (CanBeMeant type name usage) member := by
  rw [meant?, Option.bind_eq_some_iff]
  refine exists_congr fun type => and_congr_right fun enclosing => ?_
  have typeInside := enclosingType?_mem_subtree inside enclosing
  rw [resolve?_eq_some_iff, isOnly_congr_of_mem (canBeMeant_iff typeInside name usage)]

/-- A name means nothing exactly if outside of all types, or if in the nearest one no entry can be
meant or several can. -/
theorem meant?_eq_none_iff
    {tree : Tree}
    {site : Site}
    {name : String}
    {usage : Usage}
    (inside : site ∈ tree.site.subtree) :
    meant? site name usage = none ↔ ∀ type, site.enclosingType? = some type →
      (∀ entry ∈ ofType type.node, ¬ CanBeMeant type name usage entry) ∨
        IsAmbiguous (ofType type.node) (CanBeMeant type name usage) := by
  rw [meant?, Option.bind_eq_none_iff]
  refine forall₂_congr fun type enclosing => ?_
  have same := canBeMeant_iff (enclosingType?_mem_subtree inside enclosing) name usage
  rw [resolve?_eq_none_iff, isAmbiguous_congr_of_mem same]
  refine or_congr_left (forall₂_congr fun entry present => ?_)
  rw [same entry present]

/-- What a name means belongs to the type that the name stands in. -/
theorem belongsAt_of_meant?
    {tree : Tree}
    {site : Site}
    {name : String}
    {usage : Usage}
    {member : Member}
    (inside : site ∈ tree.site.subtree)
    (meant : meant? site name usage = some member) :
    BelongsAt tree site member := by
  obtain ⟨type, enclosing, only⟩ := (meant?_eq_some_iff inside).mp meant
  have typeInside := enclosingType?_mem_subtree inside enclosing
  obtain ⟨declaration, holds, entry⟩ := mem_ofType_iff.mp only.mem
  refine ⟨type, declaration, enclosing, holds, entry, ?_⟩
  intro other otherInside otherDeclaration otherHolds number
  exact (otherHolds.unique holds otherInside typeInside (number.trans entry.number_eq.symm)).1

/-- Moved to other positions and into another order, the members are meant by the same names. -/
theorem meant?_of_rearranges
    {site otherSite type otherType : Site}
    {move : Member → Member}
    (enclosing : site.enclosingType? = some type)
    (otherEnclosing : otherSite.enclosingType? = some otherType)
    (rearranges : Rearranges move (ofType type.node) (ofType otherType.node))
    (name : String)
    (usage : Usage) :
    meant? otherSite name usage = (meant? site name usage).map move := by
  rw [meant?, meant?, enclosing, otherEnclosing]
  exact rearranges.resolve?_eq name usage

/-- Every method accepts some number of arguments. -/
theorem least_le_most_of_mem_ofType
    {type : Node}
    {entry : Member}
    {arity : Arity}
    {most : Nat}
    (present : entry ∈ ofType type)
    (hasArity : entry.arity = some arity)
    (bounded : arity.most = some most) :
    arity.least ≤ most := by
  have inRoot : entry ∈ ofType (Site.root type).node := present
  obtain ⟨declaration, -, isEntry⟩ := mem_ofType_iff.mp inRoot
  rw [isEntry.arity_eq, arityOf] at hasArity
  split at hasArity
  · obtain rfl := Option.some.inj hasArity
    exact Arity.least_le_most bounded
  · cases hasArity

end Member

namespace MemberTable

/--
After any requests about its tree, a table answers for a name at a site with the
only entry of the nearest enclosing type that can be meant, and with nothing if
there is none or more than one.  The entry stands directly in the body of that
type and of no other, and does not implement a member of an interface under its
name; the answer is the same in whatever order the members are declared.  No
arity of an entry is empty.
-/
theorem resolveReference_denotes_only_entry
    {first tree : Tree}
    {requests : List Request}
    (asked : AsksOf first requests tree)
    (site : Site)
    (inside : site ∈ tree.site.subtree)
    (name : String)
    (usage : Usage) :
    let answer := ((empty.runAll requests).2.resolveReference site name usage).1
    (∀ member, answer = some member ↔
      ∃ type, site.enclosingType? = some type ∧
        Member.IsOnly (Member.ofType type.node) (Member.CanBeMeant type name usage) member) ∧
    (answer = none ↔ ∀ type, site.enclosingType? = some type →
      (∀ entry ∈ Member.ofType type.node, ¬ Member.CanBeMeant type name usage entry) ∨
        Member.IsAmbiguous (Member.ofType type.node) (Member.CanBeMeant type name usage)) ∧
    (∀ member, answer = some member → Member.BelongsAt tree site member) ∧
    (∀ type, site.enclosingType? = some type → ∀ otherSite otherType move,
      otherSite.enclosingType? = some otherType →
      Member.Rearranges move (Member.ofType type.node) (Member.ofType otherType.node) →
      Member.meant? otherSite name usage = answer.map move) ∧
    ∀ type : Node, ∀ entry ∈ Member.ofType type, ∀ arity most,
      entry.arity = some arity → arity.most = some most → arity.least ≤ most := by
  intro answer
  obtain ⟨-, sound⟩ := (isSound_empty first).runAll asked
  have afresh : answer = Member.meant? site name usage :=
    (sound.cache.resolveReference inside name usage).1
  rw [afresh]
  refine ⟨fun member => Member.meant?_eq_some_iff inside, Member.meant?_eq_none_iff inside,
    fun member => Member.belongsAt_of_meant? inside, ?_, ?_⟩
  · intro type enclosing otherSite otherType move otherEnclosing rearranges
    exact Member.meant?_of_rearranges enclosing otherEnclosing rearranges name usage
  · intro type entry present arity most
    exact Member.least_le_most_of_mem_ofType present

/-- The tree of a class inside another one, with two methods `m` that both accept one argument
and an outer one that takes three. -/
def overloadTree : Tree where
  source := ""
  root :=
    .rule 0 .classDeclaration none 0 0 "" [
      .rule 1 .declarationList (some .body) 0 0 "" [
        .rule 2 .methodDeclaration none 0 0 "" [
          .rule 3 .identifier (some .name) 0 0 "m" [],
          .rule 4 .parameterList (some .parameters) 0 0 "" [
            .rule 5 .parameter none 0 0 "" [],
            .rule 6 .parameter none 0 0 "" [],
            .rule 7 .parameter none 0 0 "" []]],
        .rule 8 .classDeclaration none 0 0 "" [
          .rule 9 .declarationList (some .body) 0 0 "" [
            .rule 10 .methodDeclaration none 0 0 "" [
              .rule 11 .identifier (some .name) 0 0 "m" [],
              .rule 12 .parameterList (some .parameters) 0 0 "" [
                .rule 13 .parameter none 0 0 "" []]],
            .rule 14 .methodDeclaration none 0 0 "" [
              .rule 15 .identifier (some .name) 0 0 "m" [],
              .rule 16 .parameterList (some .parameters) 0 0 "" [
                .rule 17 .parameter none 0 0 "" [],
                .rule 18 .parameter none 0 0 "" [.token 19 .equalsSign none 0 0 ""]]],
            .rule 20 .methodDeclaration none 0 0 "" [
              .rule 21 .identifier (some .name) 0 0 "n" [],
              .rule 22 .block (some .body) 0 0 "" []]]]]]
  distinct := by decide

theorem resolveReference_denotes_only_entry_sample :
    let site := overloadTree.site.subtree.get ⟨22, by decide⟩
    let requests : List Request := [.membersOf overloadTree.root]
    let answer count := ((empty.runAll requests).2.resolveReference site "m" (.invocation count)).1
    let second : Member := ⟨"m", .method, false, 14, 0, 0, some ⟨1, some 2⟩⟩
    AsksOf overloadTree requests overloadTree ∧
      answer 2 = some second ∧ Member.BelongsAt overloadTree site second ∧
      answer 1 = none ∧ answer 3 = none ∧
      ∀ type, site.enclosingType? = some type →
        ¬ Member.IsOnly (Member.ofType type.node)
          (Member.CanBeMeant type "m" (.invocation 1)) second := by
  intro site requests answer second
  have inside : site ∈ overloadTree.site.subtree := List.get_mem _ _
  have rootInside : overloadTree.root ∈ overloadTree.root.subtree := by
    rw [Node.subtree_eq]
    exact List.mem_cons_self
  have asked : AsksOf overloadTree requests overloadTree :=
    .request rootInside (.nothing overloadTree)
  have denotes := resolveReference_denotes_only_entry asked site inside "m"
  have ofTwo : answer 2 = some second := by
    decide +kernel
  have ofOne : answer 1 = none := by
    decide +kernel
  refine ⟨asked, ofTwo, (denotes (.invocation 2)).2.2.1 second ofTwo, ofOne, by decide +kernel, ?_⟩
  intro type enclosing only
  cases ofOne.symm.trans (((denotes (.invocation 1)).1 second).mpr ⟨type, enclosing, only⟩)

end MemberTable
end HouseStyle
