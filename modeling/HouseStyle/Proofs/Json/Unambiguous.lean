import HouseStyle.Json.Printer

/-!
# Written JSON is unambiguous

The written form of a value can be told from whatever follows it, as long as no
digit follows a number.  This holds of characters, texts and numbers first, and
of lists and objects if it holds of what they hold.  So no two values are
written in the same way.
-/

namespace HouseStyle
namespace Json

variable
  {α : Type}
  {rest others : List Char}

/-- After a value stands a comma or a line feed. -/
def Follows (rest : List Char) : Prop :=
  rest.head? = some ',' ∨ rest.head? = some '\n'

/-! ## Characters -/

/-- The characters with an escape of their own, by the letter of the escape. -/
def escapes : List (Char × Char) :=
  [('"', '"'), ('\\', '\\'), ('b', '\x08'), ('t', '\t'), ('n', '\n'), ('f', '\x0c'), ('r', '\r')]

/-- The value of a hexadecimal digit. -/
def hexValue (digit : Char) : Nat :=
  if digit.isDigit then digit.toNat - '0'.toNat else 10 + digit.toNat - 'a'.toNat

/-- Reads what stands after the backslash of an escape. -/
def readEscape? : List Char → Option (Char × List Char)
  | 'u' :: _ :: _ :: high :: low :: rest =>
      some (Char.ofNat (16 * hexValue high + hexValue low), rest)
  | mark :: rest => (escapes.lookup mark).map fun character => (character, rest)
  | [] => none

/-- Reads one written character; a quote ends the text. -/
def readChar? : List Char → Option (Char × List Char)
  | [] => none
  | first :: rest =>
      if first = '"' then none
      else if first = '\\' then readEscape? rest
      else some (first, rest)

theorem hexValue_digitChar : ∀ value < 16, hexValue (Nat.digitChar value) = value := by
  decide

theorem readEscape?_control
    {character : Char}
    (small : character.toNat < 32)
    (rest : List Char) :
    readEscape? ('u' :: '0' :: '0' :: (controlDigits character.toNat ++ rest)) =
      some (character, rest) := by
  have high := hexValue_digitChar (character.toNat / 16) (by omega)
  have low := hexValue_digitChar (character.toNat % 16) (by omega)
  have code : 16 * (character.toNat / 16) + character.toNat % 16 = character.toNat := by
    omega
  change some (Char.ofNat (16 * hexValue (Nat.digitChar (character.toNat / 16)) +
    hexValue (Nat.digitChar (character.toNat % 16))), rest) = _
  rw [high, low, code, Char.ofNat_toNat]

/-- A written character is read back, and what follows it is left. -/
theorem readChar?_writeChar (character : Char) (rest : List Char) :
    readChar? (writeChar character ++ rest) = some (character, rest) := by
  have known : ∀ {code : Nat}, character.toNat = code → character = Char.ofNat code := by
    rintro code rfl
    exact (Char.ofNat_toNat character).symm
  unfold writeChar
  split
  · subst character
    rfl
  split
  · subst character
    rfl
  split
  · rw [known ‹_›]
    rfl
  split
  · rw [known ‹_›]
    rfl
  split
  · rw [known ‹_›]
    rfl
  split
  · rw [known ‹_›]
    rfl
  split
  · rw [known ‹_›]
    rfl
  split
  · exact readEscape?_control ‹_› rest
  · rw [List.singleton_append, readChar?, if_neg ‹_›, if_neg ‹_›]

/-! ## Texts and numbers -/

theorem flatMap_writeChar_append_inj
    {left right : List Char}
    (same : left.flatMap writeChar ++ '"' :: rest = right.flatMap writeChar ++ '"' :: others) :
    left = right ∧ rest = others := by
  have read := congrArg readChar? same
  induction left generalizing right with
  | nil =>
      cases right with
      | nil => simpa using same
      | cons character more =>
          -- the quote that ends one text would begin a character of the other
          rw [List.flatMap_cons, List.append_assoc, readChar?_writeChar] at read
          cases read
  | cons character more inductionHypothesis =>
      rw [List.flatMap_cons, List.append_assoc, readChar?_writeChar] at read
      cases right with
      | nil => cases read
      | cons other further =>
          rw [List.flatMap_cons, List.append_assoc, readChar?_writeChar, Option.some.injEq,
            Prod.mk.injEq] at read
          obtain ⟨rfl, left⟩ := read
          obtain ⟨rfl, equal⟩ := inductionHypothesis left (congrArg readChar? left)
          exact ⟨rfl, equal⟩

theorem writeText_append_inj
    {left right : String}
    (same : writeText left ++ rest = writeText right ++ others) :
    left = right ∧ rest = others := by
  simp only [writeText, List.cons_append, List.append_assoc, List.nil_append,
    List.cons.injEq, true_and] at same
  obtain ⟨letters, equal⟩ := flatMap_writeChar_append_inj same
  exact ⟨String.toList_inj.mp letters, equal⟩

theorem Follows.takeWhile_isDigit (follows : Follows rest) : rest.takeWhile Char.isDigit = [] := by
  cases rest with
  | nil => rfl
  | cons first more =>
      rcases follows with comma | feed
      · cases comma
        rfl
      · cases feed
        rfl

theorem takeWhile_toDigits_append
    (value : Nat)
    (follows : Follows rest) :
    (Nat.toDigits 10 value ++ rest).takeWhile Char.isDigit = Nat.toDigits 10 value := by
  have digits : ∀ digit ∈ Nat.toDigits 10 value, digit.isDigit = true := fun digit found =>
    Nat.isDigit_of_mem_toDigits (by decide) (by decide) found
  rw [List.takeWhile_append_of_pos digits, follows.takeWhile_isDigit, List.append_nil]

theorem toDigits_append_inj
    {left right : Nat}
    (follows : Follows rest)
    (othersFollow : Follows others)
    (same : Nat.toDigits 10 left ++ rest = Nat.toDigits 10 right ++ others) :
    left = right ∧ rest = others := by
  have digits : Nat.toDigits 10 left = Nat.toDigits 10 right := by
    rw [← takeWhile_toDigits_append left follows, same,
      takeWhile_toDigits_append right othersFollow]
  constructor
  · rw [← Nat.ofDigitChars_ten_toDigits (n := left), digits, Nat.ofDigitChars_ten_toDigits]
  · rw [digits] at same
    exact List.append_cancel_left same

/-! ## Parts between brackets -/

/-- The written form of each part can be told from whatever follows it. -/
def AreCut (writePart : α → List Char) (parts : List α) : Prop :=
  ∀ part ∈ parts, ∀ other rest others, Follows rest → Follows others →
    writePart part ++ rest = writePart other ++ others → part = other ∧ rest = others

/-- Further parts, each after a comma on a line of its own. -/
def writeFurther
    (writePart : α → List Char)
    (level : Nat)
    (parts : List α) : List Char :=
  parts.flatMap fun part => ',' :: (newLine level ++ writePart part)

/-- Parts between brackets, one a line. -/
def writeParts
    (writePart : α → List Char)
    (level : Nat)
    (opening closing : Char) : List α → List Char
  | [] => [opening, closing]
  | part :: more =>
      opening :: (newLine (level + 1) ++ writePart part ++
        writeFurther writePart (level + 1) more ++ newLine level ++ [closing])

theorem follows_newLine (level : Nat) (rest : List Char) : Follows (newLine level ++ rest) :=
  Or.inr rfl

theorem follows_writeFurther
    (writePart : α → List Char)
    (level : Nat)
    (parts : List α)
    (follows : Follows rest) :
    Follows (writeFurther writePart level parts ++ rest) := by
  cases parts with
  | nil => exact follows
  | cons part more => exact Or.inl rfl

/-- Further parts end where no comma follows. -/
theorem writeFurther_append_inj
    {writePart : α → List Char}
    {level closing : Nat}
    {parts otherParts : List α}
    (cut : AreCut writePart parts)
    (same : writeFurther writePart level parts ++ (newLine closing ++ rest) =
      writeFurther writePart level otherParts ++ (newLine closing ++ others)) :
    parts = otherParts ∧ rest = others := by
  induction parts generalizing otherParts with
  | nil =>
      cases otherParts with
      | nil => exact ⟨rfl, List.append_cancel_left same⟩
      | cons other further =>
          -- a line feed here and a comma there
          cases same
  | cons part more inductionHypothesis =>
      rw [AreCut, List.forall_mem_cons] at cut
      cases otherParts with
      | nil => cases same
      | cons other further =>
          simp only [writeFurther, List.flatMap_cons, List.cons_append, List.append_assoc,
            List.cons.injEq, true_and] at same
          obtain ⟨rfl, left⟩ := cut.1 _ _ _
            (follows_writeFurther writePart level more (follows_newLine closing rest))
            (follows_writeFurther writePart level further (follows_newLine closing others))
            (List.append_cancel_left same)
          obtain ⟨rfl, equal⟩ := inductionHypothesis cut.2 left
          exact ⟨rfl, equal⟩

/-- Parts between brackets can be told from whatever follows, if each part can. -/
theorem writeParts_append_inj
    {writePart : α → List Char}
    {level : Nat}
    {opening closing : Char}
    {parts otherParts : List α}
    (onLine : closing ≠ '\n')
    (cut : AreCut writePart parts)
    (same : writeParts writePart level opening closing parts ++ rest =
      writeParts writePart level opening closing otherParts ++ others) :
    parts = otherParts ∧ rest = others := by
  cases parts with
  | nil =>
      cases otherParts with
      | nil => exact ⟨rfl, List.append_cancel_left same⟩
      | cons => simp [writeParts, newLine, onLine] at same
  | cons part more =>
      cases otherParts with
      | nil => simp [writeParts, newLine, onLine.symm] at same
      | cons other further =>
          rw [AreCut, List.forall_mem_cons] at cut
          simp only [writeParts, List.cons_append, List.append_assoc, List.cons.injEq, true_and]
            at same
          obtain ⟨rfl, left⟩ := cut.1 _ _ _
            (follows_writeFurther writePart (level + 1) more (follows_newLine level _))
            (follows_writeFurther writePart (level + 1) further (follows_newLine level _))
            (List.append_cancel_left same)
          obtain ⟨rfl, ends⟩ := writeFurther_append_inj cut.2 left
          exact ⟨rfl, (List.cons.inj ends).2⟩

/-! ## Values -/

/-- What holds of a list or an object if it holds of what it holds, and of all other values, holds
of all values. -/
@[elab_as_elim]
theorem induction_on_values
    {motive : Json → Prop}
    (value : Json)
    (null : motive null)
    (bool : ∀ value, motive (bool value))
    (number : ∀ value, motive (number value))
    (text : ∀ value, motive (text value))
    (list : ∀ items, (∀ item ∈ items, motive item) → motive (list items))
    (object : ∀ entries, (∀ entry ∈ entries, motive entry.2) → motive (object entries)) :
    motive value := by
  cases value with
  | null => exact null
  | bool value => exact bool value
  | number value => exact number value
  | text value => exact text value
  | list items =>
      apply list
      intro item listed
      exact induction_on_values item null bool number text list object
  | object entries =>
      apply object
      intro entry listed
      exact induction_on_values entry.2 null bool number text list object
termination_by value
decreasing_by
  · have smaller := List.sizeOf_lt_of_mem listed
    simp only [Json.list.sizeOf_spec]
    omega
  · have smaller := List.sizeOf_lt_of_mem listed
    simp only [Json.object.sizeOf_spec]
    cases entry
    simp at smaller ⊢
    omega

/-- The written form of the value can be told from whatever follows it. -/
def IsCut (value : Json) : Prop :=
  ∀ level other rest others, Follows rest → Follows others →
    write level value ++ rest = write level other ++ others → value = other ∧ rest = others

/-- The first character of a value, with one digit for all. -/
def lead : Json → Char
  | null => 'n'
  | bool true => 't'
  | bool false => 'f'
  | number _ => '0'
  | text _ => '"'
  | list _ => '['
  | object _ => '\x7b'

theorem head?_write
    (level : Nat)
    (value : Json)
    (rest : List Char) :
    (write level value ++ rest).head?.map (fun first => if first.isDigit then '0' else first) =
      some value.lead := by
  cases value with
  | null => rfl
  | bool value => cases value <;> rfl
  | number value =>
      have written : Nat.toDigits 10 value ≠ [] := Nat.toDigits_ne_nil
      obtain ⟨digit, more, split⟩ := List.exists_cons_of_ne_nil written
      have isDigit : digit.isDigit = true :=
        Nat.isDigit_of_mem_toDigits (by decide) (by decide) (split ▸ List.mem_cons_self)
      rw [write, split]
      simp [isDigit, lead]
  | text value => rfl
  | list items => cases items <;> rfl
  | object entries => cases entries <;> rfl

/-- Values with the same written form, up to what follows it, are of one sort. -/
theorem lead_eq
    {level : Nat}
    {value other : Json}
    (same : write level value ++ rest = write level other ++ others) :
    value.lead = other.lead := by
  rw [← Option.some.injEq, ← head?_write level value rest, same, head?_write]

/-- One entry of an object, its key before its value. -/
def writeEntry (level : Nat) (entry : String × Json) : List Char :=
  writeText entry.1 ++ [':', ' '] ++ write level entry.2

theorem writeItems_eq (level : Nat) (items : List Json) :
    writeItems level items = writeFurther (write level) level items := by
  induction items with
  | nil => rfl
  | cons item more inductionHypothesis =>
      rw [writeItems, inductionHypothesis, writeFurther, writeFurther, List.flatMap_cons,
        List.cons_append, List.append_assoc]

theorem writeEntries_eq (level : Nat) (entries : List (String × Json)) :
    writeEntries level entries = writeFurther (writeEntry level) level entries := by
  induction entries with
  | nil => rfl
  | cons entry more inductionHypothesis =>
      rw [writeEntries, inductionHypothesis, writeFurther, writeFurther, List.flatMap_cons]
      simp [writeEntry]

theorem write_list (level : Nat) (items : List Json) :
    write level (list items) = writeParts (write (level + 1)) level '[' ']' items := by
  cases items with
  | nil => rfl
  | cons item more => rw [write, writeItems_eq, writeParts]

theorem write_object (level : Nat) (entries : List (String × Json)) :
    write level (object entries) =
      writeParts (writeEntry (level + 1)) level '\x7b' '\x7d' entries := by
  cases entries with
  | nil => rfl
  | cons entry more =>
      rw [write, writeEntries_eq, writeParts, writeEntry]
      simp

theorem isCut_list
    {items : List Json}
    (cut : ∀ item ∈ items, IsCut item) :
    IsCut (list items) := by
  intro level other rest others follows othersFollow same
  have sort := lead_eq same
  cases other with
  | list otherItems =>
      rw [write_list, write_list] at same
      have itemsCut : AreCut (write (level + 1)) items :=
        fun item listed => cut item listed (level + 1)
      obtain ⟨rfl, equal⟩ := writeParts_append_inj (by decide) itemsCut same
      exact ⟨rfl, equal⟩
  | bool value => cases value <;> cases sort
  | null | number | text | object => cases sort

theorem isCut_object
    {entries : List (String × Json)}
    (cut : ∀ entry ∈ entries, IsCut entry.2) :
    IsCut (object entries) := by
  intro level other rest others follows othersFollow same
  have sort := lead_eq same
  cases other with
  | object otherEntries =>
      rw [write_object, write_object] at same
      have entriesCut : AreCut (writeEntry (level + 1)) entries := by
        rintro ⟨key, value⟩ listed ⟨otherKey, otherValue⟩ rest others follows othersFollow same
        simp only [writeEntry, List.append_assoc] at same
        obtain ⟨rfl, left⟩ := writeText_append_inj same
        obtain ⟨rfl, equal⟩ := cut _ listed _ _ _ _ follows othersFollow
          (List.append_cancel_left left)
        exact ⟨rfl, equal⟩
      obtain ⟨rfl, equal⟩ := writeParts_append_inj (by decide) entriesCut same
      exact ⟨rfl, equal⟩
  | bool value => cases value <;> cases sort
  | null | number | text | list => cases sort

/-- Every value can be told from what follows it. -/
theorem isCut (value : Json) : IsCut value := by
  -- the first character leaves only values of the same sort to compare with
  induction value using induction_on_values with
  | null =>
      intro level other rest others follows othersFollow same
      have sort := lead_eq same
      cases other with
      | null => exact ⟨rfl, List.append_cancel_left same⟩
      | bool value => cases value <;> cases sort
      | number | text | list | object => cases sort
  | bool value =>
      intro level other rest others follows othersFollow same
      have sort := lead_eq same
      cases other with
      | bool other =>
          have equal : value = other := by
            cases value <;> cases other <;> simp [lead] at sort ⊢
          subst equal
          exact ⟨rfl, List.append_cancel_left same⟩
      | null | number | text | list | object => cases value <;> cases sort
  | number value =>
      intro level other rest others follows othersFollow same
      have sort := lead_eq same
      cases other with
      | number other =>
          simp only [write] at same
          obtain ⟨rfl, equal⟩ := toDigits_append_inj follows othersFollow same
          exact ⟨rfl, equal⟩
      | bool value => cases value <;> cases sort
      | null | text | list | object => cases sort
  | text value =>
      intro level other rest others follows othersFollow same
      have sort := lead_eq same
      cases other with
      | text other =>
          simp only [write] at same
          obtain ⟨rfl, equal⟩ := writeText_append_inj same
          exact ⟨rfl, equal⟩
      | bool value => cases value <;> cases sort
      | null | number | list | object => cases sort
  | list items cut => exact isCut_list cut
  | object entries cut => exact isCut_object cut

/-- No two values make up the same document. -/
theorem document_inj {value other : Json} : value.document = other.document ↔ value = other := by
  constructor
  · intro same
    rw [document, document, String.ofList_inj] at same
    exact (isCut value 0 other ['\n'] ['\n'] (Or.inr rfl) (Or.inr rfl) same).1
  · rintro rfl
    rfl

end Json
end HouseStyle
