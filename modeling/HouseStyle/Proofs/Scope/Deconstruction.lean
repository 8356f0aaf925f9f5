import HouseStyle.Proofs.Scope.Shadowing
import HouseStyle.Syntax.Tree

/-!
# Deconstructed locals

A declaration such as `var (x, y) = t;` has a declarator without a name of its
own.  Such a declarator is taken to declare its first bare identifier, and that
is the initializer `t` if anything: the names in the tuple are not declared by
it, and the initializer is.
-/

namespace HouseStyle
namespace Scope

open Syntax

/-- A statement of a block that deconstructs a value into a tuple of variables. -/
structure Deconstruction (block : Node) where
  /-- The declaration. -/
  statement : Node
  /-- The declarator without a name. -/
  declarator : Node
  /-- The variables. -/
  pattern : Node
  /-- The value. -/
  initializer : Node
  /-- The declaration stands directly in the block. -/
  stands : statement ∈ block.namedChildren
  /-- It is a declaration of locals. -/
  declaration : statement.kind = .localDeclarationStatement
  /-- The declarator is one of its declarators. -/
  listed : declarator ∈ Declarator.ofDeclaration statement
  /-- It has no name. -/
  unnamed : declarator.child? .name = none
  /-- The variables stand in a tuple. -/
  tuple : pattern.kind = .tuplePattern
  /-- The value comes after the tuple. -/
  parts : ∃ before between after,
    declarator.namedChildren = before ++ pattern :: between ++ initializer :: after

/-- A declarator is taken to declare a name. -/
def DeclaratorDeclares (declarator : Node) (name : String) : Prop :=
  ∃ identifier, Declarator.name? declarator = some identifier ∧ identifier.text = name

/-! ## The names of a block, statement by statement and declarator by declarator -/

theorem declares_iff_of_block
    {block : Node}
    {name : String}
    (sort : block.kind ∈ [.block, .switchSection]) :
    Declares block name ↔
      ∃ statement, statement ∈ block.namedChildren ∧ DeclaresLocal statement name := by
  simp only [List.mem_cons, List.not_mem_nil, or_false] at sort
  obtain sort | sort := sort <;> rw [Declares, sort]

theorem declaresLocal_iff_of_declaration
    {statement : Node}
    {name : String}
    (declaration : statement.kind = .localDeclarationStatement) :
    DeclaresLocal statement name ↔
      ∃ declarator, declarator ∈ Declarator.ofDeclaration statement ∧
        DeclaratorDeclares declarator name := by
  rw [← statementDeclares_iff, statementDeclares, declaration]
  simp only [declarationDeclares, Declarator.names, List.contains_iff_mem, List.mem_filterMap,
    Option.map_eq_some_iff, DeclaratorDeclares]

namespace Deconstruction

variable
  {block site : Site}
  {name : String}

/-- Something other than the declarator of a deconstruction declares a name: another scope around
the site, another statement of the block or another declarator of the statement. -/
def DeclaredElsewhere
    (deconstruction : Deconstruction block.node)
    (site : Site)
    (name : String) : Prop :=
  (∃ other, other ≠ deconstruction.declarator ∧
      other ∈ Declarator.ofDeclaration deconstruction.statement ∧
      DeclaratorDeclares other name) ∨
    (∃ other, other ≠ deconstruction.statement ∧
      other ∈ block.node.namedChildren ∧ DeclaresLocal other name) ∨
    DeclaredBeyond block site name

/-- The declarator of a deconstruction adds its own name, if it has one, to what is declared
elsewhere. -/
theorem isShadowed_iff
    (deconstruction : Deconstruction block.node)
    (sort : block.kind ∈ [.block, .switchSection])
    (encloses : Encloses block site) :
    isShadowed name site = true ↔
      DeclaratorDeclares deconstruction.declarator name ∨
        deconstruction.DeclaredElsewhere site name := by
  rw [isShadowed_iff_declares_or_declaredBeyond encloses, declares_iff_of_block sort,
    exists_and_iff_or_exists_ne deconstruction.stands,
    declaresLocal_iff_of_declaration deconstruction.declaration,
    exists_and_iff_or_exists_ne deconstruction.listed, DeclaredElsewhere, or_assoc, or_assoc]

theorem declaratorDeclares_iff (deconstruction : Deconstruction block.node) :
    DeclaratorDeclares deconstruction.declarator name ↔
      ∃ identifier, IsFirst deconstruction.declarator.namedChildren .identifier identifier ∧
        identifier.text = name := by
  simp [DeclaratorDeclares, Declarator.name?_eq_some_iff, deconstruction.unnamed]

theorem isFirst_identifier_iff
    (deconstruction : Deconstruction block.node)
    (plain : deconstruction.declarator.namedChildren =
      [deconstruction.pattern, deconstruction.initializer])
    {identifier : Node} :
    IsFirst deconstruction.declarator.namedChildren .identifier identifier ↔
      deconstruction.initializer = identifier ∧
        deconstruction.initializer.kind = .identifier := by
  have noName : deconstruction.pattern.kind ≠ .identifier := by
    rw [deconstruction.tuple]
    decide
  have nothing : ¬ IsFirst [] .identifier identifier := by
    simp [← find?_eq_some_iff_isFirst]
  rw [plain, isFirst_cons_iff, isFirst_cons_iff]
  simp [noName, nothing]

end Deconstruction

/--
Around a deconstruction in a block or a switch section, the declarator hides one
name at most, that of its first bare identifier; all other names are hidden only
where something else declares them.  In `var (x, y) = t;` the identifier is the
initializer, so `t` is hidden if it is a bare name, and `x` and `y` are not.
-/
theorem deconstruction_hides_only_its_first_identifier
    (block site : Site)
    (deconstruction : Deconstruction block.node)
    (sort : block.kind ∈ [.block, .switchSection])
    (encloses : Encloses block site)
    (name : String) :
    (isShadowed name site = true ↔
      (∃ identifier, IsFirst deconstruction.declarator.namedChildren .identifier identifier ∧
        identifier.text = name) ∨
      deconstruction.DeclaredElsewhere site name) ∧
    (deconstruction.declarator.namedChildren =
        [deconstruction.pattern, deconstruction.initializer] →
      (isShadowed name site = true ↔
        deconstruction.initializer.kind = .identifier ∧
          deconstruction.initializer.text = name ∨
        deconstruction.DeclaredElsewhere site name)) := by
  rw [deconstruction.isShadowed_iff sort encloses, deconstruction.declaratorDeclares_iff]
  refine ⟨Iff.rfl, fun plain => or_congr_left ?_⟩
  constructor
  · rintro ⟨identifier, first, text⟩
    obtain ⟨rfl, bare⟩ := (deconstruction.isFirst_identifier_iff plain).mp first
    exact ⟨bare, text⟩
  · rintro ⟨bare, text⟩
    exact ⟨_, (deconstruction.isFirst_identifier_iff plain).mpr ⟨rfl, bare⟩, text⟩

/-- The tree of a class with a local `m`, out of a deconstruction, that is assigned. -/
def deconstructionTree : Tree where
  source := "class C \x7b int m; void T() \x7b var (a, m) = x; m = 1; \x7d \x7d"
  root :=
    let body := "\x7b var (a, m) = x; m = 1; \x7d"
    let members := "\x7b int m; void T() " ++ body ++ " \x7d"
    .rule 0 .compilationUnit none 0 54 ("class C " ++ members) [
      .rule 1 .classDeclaration none 0 54 ("class C " ++ members) [
        .token 2 (.other "class") none 0 5 "class",
        .rule 3 .identifier (some .name) 6 7 "C" [],
        .rule 4 .declarationList (some .body) 8 54 members [
          .token 5 (.other "\x7b") none 8 9 "\x7b",
          .rule 6 .fieldDeclaration none 10 16 "int m;" [
            .rule 7 .variableDeclaration none 10 15 "int m" [
              .rule 8 (.other "predefined_type") (some (.other "type")) 10 13 "int" [],
              .rule 9 .variableDeclarator none 14 15 "m" [
                .rule 10 .identifier (some .name) 14 15 "m" []]],
            .token 11 (.other ";") none 15 16 ";"],
          .rule 12 .methodDeclaration none 17 52 ("void T() " ++ body) [
            .rule 13 (.other "predefined_type") (some (.other "returns")) 17 21 "void" [],
            .rule 14 .identifier (some .name) 22 23 "T" [],
            .rule 15 .parameterList (some .parameters) 23 25 "()" [
              .token 16 (.other "(") none 23 24 "(",
              .token 17 (.other ")") none 24 25 ")"],
            .rule 18 .block (some .body) 26 52 body [
              .token 19 (.other "\x7b") none 26 27 "\x7b",
              .rule 20 .localDeclarationStatement none 28 43 "var (a, m) = x;" [
                .rule 21 .variableDeclaration none 28 42 "var (a, m) = x" [
                  .rule 22 (.other "implicit_type") (some (.other "type")) 28 31 "var" [
                    .token 23 (.other "var") none 28 31 "var"],
                  .rule 24 .variableDeclarator none 32 42 "(a, m) = x" [
                    .rule 25 .tuplePattern none 32 38 "(a, m)" [
                      .token 26 (.other "(") none 32 33 "(",
                      .rule 27 .identifier (some .name) 33 34 "a" [],
                      .token 28 (.other ",") none 34 35 ",",
                      .rule 29 .identifier none 36 37 "m" [],
                      .token 30 (.other ")") none 37 38 ")"],
                    .token 31 .equalsSign none 39 40 "=",
                    .rule 32 .identifier none 41 42 "x" []]],
                .token 33 (.other ";") none 42 43 ";"],
              .rule 34 (.other "expression_statement") none 44 50 "m = 1;" [
                .rule 35 .assignmentExpression none 44 49 "m = 1" [
                  .rule 36 .identifier (some .left) 44 45 "m" [],
                  .token 37 .equalsSign (some (.other "operator")) 46 47 "=",
                  .rule 38 (.other "integer_literal") (some (.other "right")) 48 49 "1" []],
                .token 39 (.other ";") none 49 50 ";"],
              .token 40 (.other "\x7d") none 51 52 "\x7d"]],
          .token 41 (.other "\x7d") none 53 54 "\x7d"]]]
  distinct := by decide

/-- The deconstruction `var (a, m) = x;` in its block. -/
def sampleDeconstruction :
    Deconstruction (deconstructionTree.site.subtree.get ⟨18, by decide⟩).node :=
  let sites := deconstructionTree.site.subtree
  { statement := (sites.get ⟨20, by decide⟩).node
    declarator := (sites.get ⟨24, by decide⟩).node
    pattern := (sites.get ⟨25, by decide⟩).node
    initializer := (sites.get ⟨32, by decide⟩).node
    stands := List.mem_of_getElem? (i := 0) rfl
    declaration := rfl
    listed := List.mem_of_getElem? (i := 0) rfl
    unnamed := rfl
    tuple := rfl
    parts := ⟨[], [], [], rfl⟩ }

theorem deconstruction_hides_only_its_first_identifier_sample :
    let block := deconstructionTree.site.subtree.get ⟨18, by decide⟩
    let target := deconstructionTree.site.subtree.get ⟨36, by decide⟩
    Encloses block target ∧
      (isShadowed "m" target = true ↔ sampleDeconstruction.DeclaredElsewhere target "m") ∧
      isShadowed "x" target = true := by
  intro block target
  have encloses : Encloses block target := by
    rw [← mem_enclosing_iff]
    exact List.mem_of_getElem? (i := 2) rfl
  have hides := deconstruction_hides_only_its_first_identifier block target
    sampleDeconstruction (by decide) encloses
  refine ⟨encloses, ?_, ?_⟩
  · rw [(hides "m").2 rfl]
    exact or_iff_right fun bare => absurd bare.2 (by decide)
  · exact ((hides "x").2 rfl).mpr (.inl ⟨rfl, rfl⟩)

/-- The local `m` of the tuple does not hide the field, and the initializer `x` would hide one. -/
theorem deconstructed_local_is_visible :
    let block := deconstructionTree.site.subtree.get ⟨18, by decide⟩
    let target := deconstructionTree.site.subtree.get ⟨36, by decide⟩
    block.kind = .block ∧ Encloses block target ∧
      mentions "m" sampleDeconstruction.pattern = true ∧
      mentions "x" sampleDeconstruction.pattern = false ∧
      sampleDeconstruction.initializer.text = "x" ∧
      isShadowed "m" target = false ∧ isShadowed "x" target = true := by
  intro block target
  refine ⟨rfl, ?_, rfl, rfl, rfl, ?_, ?_⟩
  · rw [← mem_enclosing_iff]
    exact List.mem_of_getElem? (i := 2) rfl
  · decide +kernel
  · decide +kernel

end Scope
end HouseStyle
