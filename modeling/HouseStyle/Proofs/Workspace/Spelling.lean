import HouseStyle.Proofs.Disk.Spelling
import HouseStyle.Proofs.Workspace.Loading

/-!
# Spellings of a workspace and its files

The answer for a file goes by the places of the workspace and of the file, not
by how their paths are spelled.  The path of a file as seen from the root is
itself a spelling of the file.
-/

namespace HouseStyle
namespace Workspace

open Disk

/-- The paths spell a workspace, and an item as seen from the workspace. -/
structure Spell
    (disk : Disk)
    (workspace file : Path)
    (root place : List String) : Prop where
  written : workspace.isEmpty = false
  workspace : IsSpelling disk disk.workingFolder workspace root
  file : IsSpelling disk root file place

variable
  {disk : Disk}
  {root place names : List String}
  {workspace file : Path}

/-! ## Paths read from the root -/

/-- The path of the root leads to the root, and what follows it is read from there. -/
theorem isSpelling_join_iff
    (linkFree : disk.IsLinkFree)
    (tree : disk.IsTree)
    (isFolder : disk.itemAt? root = some .folder)
    {base : List String} :
    IsSpelling disk base ((Path.ofNames root).join file) place ↔
      IsSpelling disk root file place := by
  have toRoot : Leads disk [] root ([] ++ root) := tree.leads_names isFolder
  rw [List.nil_append] at toRoot
  cases absolute : file.isAbsolute with
  | true => simp [Path.join, IsSpelling, absolute]
  | false =>
      rw [join_ofNames (tree.isName_of_itemAt? isFolder) absolute]
      simp only [IsSpelling, absolute, if_true, leads_append_iff]
      constructor
      · rintro ⟨middle, before, after⟩
        rwa [toRoot.unique linkFree tree before]
      · intro leads
        exact ⟨root, toRoot, leads⟩

theorem isEmpty_of_isAbsolute
    {path : Path}
    (absolute : path.isAbsolute = true) :
    path.isEmpty = false := by
  simp [Path.isEmpty, Path.text, absolute]

/-- A path read from the root resolves to the place that it leads to. -/
theorem resolve_join_of_isSpelling
    (linkFree : disk.IsLinkFree)
    (tree : disk.IsTree)
    (isFolder : disk.itemAt? root = some .folder)
    (spelled : IsSpelling disk root file place) :
    disk.resolve ((Path.ofNames root).join file) = .ok place := by
  have absolute : ((Path.ofNames root).join file).isAbsolute = true := by
    rw [Path.join]
    split
    · assumption
    · split <;> rfl
  exact (resolve_eq_ok_iff linkFree tree).mpr
    ⟨isEmpty_of_isAbsolute absolute, (isSpelling_join_iff linkFree tree isFolder).mpr spelled⟩

theorem locate_of_resolve
    {path : Path}
    (leads : disk.resolve path = .ok place) :
    locate disk path = .ok place := by
  rw [locate, leads]

theorem joinNames_singleton (name : String) : joinNames [name] = name :=
  String.intercalate_singleton

/-! ## Files as seen from the root -/

/-- The refusal of a file at a place outside a workspace. -/
def outside (root place : List String) : Failure :=
  .invalidArgument
    ((Path.ofNames place).text ++ " is outside the workspace " ++ (Path.ofNames root).text)

theorem relative_of_isPrefix
    (located : locate disk ((Path.ofNames root).join file) = .ok (root ++ names)) :
    relative disk root file = .ok (joinNames names) := by
  have inside : root.isPrefixOf (root ++ names) = true :=
    List.isPrefixOf_iff_prefix.mpr (List.prefix_append root names)
  simp only [relative, located, bind, Except.bind, inside, if_true, List.drop_left]
  rfl

theorem relative_of_not_isPrefix
    (located : locate disk ((Path.ofNames root).join file) = .ok place)
    (apart : ¬ root <+: place) :
    relative disk root file = .error (outside root place) := by
  rw [← List.isPrefixOf_iff_prefix] at apart
  simp only [relative, located, bind, Except.bind, apart]
  rfl

/-- The path of an item as seen from the root leads to the item. -/
theorem isSpelling_ofText_joinNames
    {item : Item}
    (tree : disk.IsTree)
    (isFolder : disk.itemAt? root = some .folder)
    (stands : disk.itemAt? (root ++ names) = some item) :
    IsSpelling disk root (Path.ofText (joinNames names)) (root ++ names) := by
  by_cases written : names = []
  · have empty : Path.ofText (joinNames []) = ⟨false, [""]⟩ := by decide
    rw [written, empty, List.append_nil]
    exact .step (.stay isFolder (Or.inl rfl)) (.here root)
  · have isName : ∀ name ∈ names, IsName name := fun name listed =>
      tree.isName_of_itemAt? stands name (List.mem_append_right root listed)
    rw [ofText_joinNames written isName]
    exact tree.leads_names stands

/-! ## Answers -/

/-- The answer goes by where the workspace is and by the path of the file as seen from there. -/
theorem infer_congr
    {otherWorkspace otherFile : Path}
    (located : locate disk workspace = .ok root)
    (otherLocated : locate disk otherWorkspace = .ok root)
    (seen : relative disk root file = relative disk root otherFile)
    (parser : Parser)
    (cancelled : Bool)
    (convention : Convention) :
    infer parser disk cancelled workspace file convention =
      infer parser disk cancelled otherWorkspace otherFile convention := by
  rw [infer, infer, located, otherLocated]
  simp only [bind, Except.bind, seen]

theorem infer_of_outside
    (located : locate disk workspace = .ok root)
    (refused : relative disk root file = .error (outside root place))
    (parser : Parser)
    (cancelled : Bool)
    (convention : Convention) :
    infer parser disk cancelled workspace file convention = .error (outside root place) := by
  rw [infer, located]
  simp only [bind, Except.bind, refused]

theorem Spell.located
    (linkFree : disk.IsLinkFree)
    (tree : disk.IsTree)
    (spell : Spell disk workspace file root place) :
    locate disk workspace = .ok root :=
  locate_of_resolve ((resolve_eq_ok_iff linkFree tree).mpr ⟨spell.written, spell.workspace⟩)

/--
On a tree without links, take a workspace at a folder and an item at a place.  If the place is
below the folder, every spelling of the item, absolute or from the workspace on, is seen as the
path of its names; this path and the one that joins it to the workspace are spellings again.  If
the place is not below the folder, every spelling is refused, whatever its text begins with.
Either way, all spellings of workspace and item get the same answer or the same failure.
-/
theorem answer_goes_by_places_not_spellings
    (disk : Disk)
    (root place : List String)
    (item : Item)
    (linkFree : disk.IsLinkFree)
    (tree : disk.IsTree)
    (isFolder : disk.itemAt? root = some .folder)
    (stands : disk.itemAt? place = some item) :
    (∀ names, root ++ names = place →
      (∀ file, IsSpelling disk root file place →
        relative disk root file = .ok (joinNames names)) ∧
      IsSpelling disk root (Path.ofText (joinNames names)) place ∧
      IsSpelling disk root ((Path.ofNames root).join (Path.ofText (joinNames names))) place) ∧
    (¬ root <+: place →
      (∀ file, IsSpelling disk root file place →
        relative disk root file = .error (outside root place)) ∧
      ∀ parser cancelled workspace file convention, Spell disk workspace file root place →
        infer parser disk cancelled workspace file convention = .error (outside root place)) ∧
    ∀ parser cancelled workspace file otherWorkspace otherFile convention,
      Spell disk workspace file root place → Spell disk otherWorkspace otherFile root place →
      infer parser disk cancelled workspace file convention =
        infer parser disk cancelled otherWorkspace otherFile convention := by
  have located : ∀ {file : Path}, IsSpelling disk root file place →
      locate disk ((Path.ofNames root).join file) = .ok place :=
    fun spelled => locate_of_resolve (resolve_join_of_isSpelling linkFree tree isFolder spelled)
  refine ⟨?_, ?_, ?_⟩
  · rintro names rfl
    have again := isSpelling_ofText_joinNames tree isFolder stands
    exact ⟨fun file spelled => relative_of_isPrefix (located spelled), again,
      (isSpelling_join_iff linkFree tree isFolder).mpr again⟩
  · intro apart
    have refused : ∀ file, IsSpelling disk root file place →
        relative disk root file = .error (outside root place) :=
      fun file spelled => relative_of_not_isPrefix (located spelled) apart
    refine ⟨refused, ?_⟩
    intro parser cancelled workspace file convention spell
    exact infer_of_outside (spell.located linkFree tree) (refused file spell.file) parser
      cancelled convention
  · intro parser cancelled workspace file otherWorkspace otherFile convention spell otherSpell
    have seen : relative disk root file = relative disk root otherFile := by
      rw [relative, relative, located spell.file, located otherSpell.file]
    exact infer_congr (spell.located linkFree tree) (otherSpell.located linkFree tree) seen parser
      cancelled convention

/-- A workspace with a file, and a file in a folder whose name begins like the workspace. -/
def neighbourDisk : Disk where
  items :=
    [(["w"], .folder), (["w", "src"], .folder), (["w", "src", "A.cs"], .file (some "class A { }")),
     (["w2"], .folder), (["w2", "B.cs"], .file (some "class B { }"))]
  workingFolder := ["w"]

theorem isTree_neighbourDisk : neighbourDisk.IsTree where
  distinct := by decide
  placed := by decide
  named := by decide
  nested := by decide

theorem isLinkFree_neighbourDisk : neighbourDisk.IsLinkFree := by
  simp [IsLinkFree, neighbourDisk]

theorem answer_goes_by_places_not_spellings_sample :
    let parser : Parser := fun path _ => .error (.unparsable path "parser returned no tree")
    let detour := Path.ofText "src/../../w2/../w//./src/A.cs"
    let neighbour := Path.ofText "../w2/B.cs"
    (relative neighbourDisk ["w"] detour = .ok "src/A.cs" ∧
      infer parser neighbourDisk false (Path.ofText ".") detour .usingPlacement =
        infer parser neighbourDisk false (Path.ofText "/w2/../w/") (Path.ofText "/w/src/A.cs")
          .usingPlacement) ∧
    infer parser neighbourDisk false (Path.ofText "/w") neighbour .usingPlacement =
      .error (.invalidArgument "/w2/B.cs is outside the workspace /w") := by
  intro parser detour neighbour
  have w : neighbourDisk.Step [] "w" ["w"] := .down rfl (by decide) rfl
  have src : neighbourDisk.Step ["w"] "src" ["w", "src"] := .down rfl (by decide) rfl
  have a : neighbourDisk.Step ["w", "src"] "A.cs" ["w", "src", "A.cs"] := .down rfl (by decide) rfl
  have w2 : neighbourDisk.Step [] "w2" ["w2"] := .down rfl (by decide) rfl
  have b : neighbourDisk.Step ["w2"] "B.cs" ["w2", "B.cs"] := .down rfl (by decide) rfl
  have pieces : detour = ⟨false, ["src", "..", "..", "w2", "..", "w", "", ".", "src", "A.cs"]⟩ := by
    decide +kernel
  have detours : IsSpelling neighbourDisk ["w"] detour ["w", "src", "A.cs"] := by
    rw [pieces]
    exact .step src (.step (.up rfl) (.step (.up rfl) (.step w2 (.step (.up rfl) (.step w
      (.step (.stay rfl (Or.inl rfl)) (.step (.stay rfl (Or.inr rfl))
        (.step src (.step a (.here _))))))))))
  have direct : Spell neighbourDisk (Path.ofText "/w2/../w/") (Path.ofText "/w/src/A.cs") ["w"]
      ["w", "src", "A.cs"] := by
    have workspace : Path.ofText "/w2/../w/" = ⟨true, ["w2", "..", "w", ""]⟩ := by decide +kernel
    have file : Path.ofText "/w/src/A.cs" = ⟨true, ["w", "src", "A.cs"]⟩ := by decide +kernel
    rw [workspace, file]
    exact ⟨by decide,
      .step w2 (.step (.up rfl) (.step w (.step (.stay rfl (Or.inl rfl)) (.here _)))),
      .step w (.step src (.step a (.here _)))⟩
  have here : Spell neighbourDisk (Path.ofText ".") detour ["w"] ["w", "src", "A.cs"] := by
    have workspace : Path.ofText "." = ⟨false, ["."]⟩ := by decide +kernel
    rw [workspace]
    exact ⟨by decide, .step (.stay rfl (Or.inr rfl)) (.here _), detours⟩
  have apart : Spell neighbourDisk (Path.ofText "/w") neighbour ["w"] ["w2", "B.cs"] := by
    have workspace : Path.ofText "/w" = ⟨true, ["w"]⟩ := by decide +kernel
    have file : neighbour = ⟨false, ["..", "w2", "B.cs"]⟩ := by decide +kernel
    rw [workspace, file]
    exact ⟨by decide, .step w (.here _), .step (.up rfl) (.step w2 (.step b (.here _)))⟩
  obtain ⟨inside, -, same⟩ := answer_goes_by_places_not_spellings neighbourDisk ["w"]
    ["w", "src", "A.cs"] _ isLinkFree_neighbourDisk isTree_neighbourDisk rfl rfl
  obtain ⟨-, refused, -⟩ := answer_goes_by_places_not_spellings neighbourDisk ["w"]
    ["w2", "B.cs"] _ isLinkFree_neighbourDisk isTree_neighbourDisk rfl rfl
  refine ⟨⟨?_, same _ _ _ _ _ _ _ here direct⟩, ?_⟩
  · rw [(inside ["src", "A.cs"] rfl).1 detour detours]
    decide +kernel
  · rw [(refused (by decide)).2 _ _ _ _ _ apart]
    decide +kernel

end Workspace
end HouseStyle
