import SchemaNames.Proofs.Loading.SuccessfulReading

/-! Reading what represents a value. The tree of a document that represents a value is read as
that value, both straight from the text and after it has been checked, and nothing else is.
-/

namespace SchemaNames

namespace Represents

/-- A document that represents a value is read as that value, at every level that allows it.
Witness: induction on the representation.
-/
theorem read_ofDocument {shape : Shape} {document : Document} {value : shape.Value}
    (represents : Represents shape document value) (level : Level)
    (allowed : level.Allows document)
    : (Node.ofDocument document).read shape level = .ok value := by
  induction represents generalizing level with
  | text content => rfl
  | size value =>
      rw [Document.natural, Node.ofDocument, (Scalar.exact_toNat value).lexeme_eq]
      exact congrArg Except.ok value.ofNat_toNat
  | absentText => rfl
  | presentText content => rfl
  | list sameLength each ih =>
      obtain ⟨inner, entered, inside⟩ := allowed.enter_list
      have items := Node.readAll_ofItems sameLength fun pair listed =>
        ih pair listed inner (inside pair.1 (List.of_mem_zip listed).1)
      simp only [Node.ofDocument, Node.read, entered, ok_bind, items]
      rfl
  | record unrepeated given omitted ih =>
      obtain ⟨inner, entered, inside⟩ := allowed.enter_record
      refine Node.read_record entered unrepeated (fun i value listed => ?_) omitted
      exact ih i value listed inner (inside _ listed)
  | inOrder bounded given omitted ih =>
      obtain ⟨inner, entered, inside⟩ := allowed.enter_list
      have slots := Node.readInOrder_filled 0 (by rwa [Nat.zero_add])
        fun i item _ found => ih i item found inner (inside item (List.mem_of_getElem? found))
      simp only [Nat.not_lt_zero, decide_false, Slots.filled_false] at slots
      simp only [Node.ofDocument, Node.read, entered, ok_bind, slots]
      apply Slots.complete_filled
      intro i absent
      exact omitted i (by simpa using absent)
  | member before after untagged represents ih =>
      rw [Node.read_member_of_record untagged allowed, ih .checked trivial]
      rfl
  | memberInOrder represents ih =>
      rw [Node.read_member_of_list allowed, ih .checked trivial]
      rfl
  | unrecognized before after untagged unknown =>
      obtain ⟨inner, entered, inside⟩ := allowed.enter_record
      simp only [Node.ofDocument, Node.read, entered, ok_bind,
        Node.findTag_tagged untagged inside, unknown]
  | @unrecognizedInOrder tag unknown =>
      obtain ⟨inner, entered, inside⟩ := allowed.enter_list
      have tagged : (Node.text (.accepted tag)).readText .memberKind = .ok tag := rfl
      simp only [Node.ofDocument, Node.ofItems, Node.read, entered, ok_bind, tagged,
        Level.checkAll, ListEnd.check, orMalformed_ok, unknown]
      rfl

-----------------------------------------------------------------------------------------
-- What is read represents its value
-----------------------------------------------------------------------------------------

/-- Holds of a document that represents whatever it is read as. -/
def Sound (document : Document) : Prop :=
  ∀ {shape : Shape} {level : Level} {value : shape.Value},
    (Node.ofDocument document).read shape level = .ok value → Represents shape document value

variable {kind : RecordKind} {level : Level} {slots : Slots kind} {value : kind.Value}
  {missing : Fin kind.arity → Problem}

/-- Entries that are read represent the record that they complete to. -/
theorem of_readByKey {entries : List (String × Document)} {ending : RecordEnd}
    (sound : ∀ entry ∈ entries, Sound entry.2)
    (read : Node.readByKey kind level .empty ending (Node.ofEntries entries) = .ok slots)
    (completed : slots.complete missing = .ok value)
    : Represents (.record kind) (.record entries) value := by
  obtain ⟨unrepeated, given, untouched⟩ := Node.entriesRead_of_readByKey read
  obtain ⟨values, rfl, each⟩ := Slots.exists_of_complete completed
  refine .record unrepeated ?_ ?_
  · intro i document listed
    obtain ⟨-, value, here, isSet⟩ := given i document listed
    have same := each i
    rw [Slots.value?, isSet] at same
    rw [← Option.some.inj same]
    exact sound _ listed here
  · intro i absent
    have same := each i
    rwa [Slots.value?, untouched i absent] at same

/-- Values that are read in the order of the fields represent the record that they complete to. -/
theorem of_readInOrder {items : List Document} {ending : ListEnd}
    (sound : ∀ item ∈ items, Sound item)
    (read : Node.readInOrder kind level 0 .empty ending (Node.ofItems items) = .ok slots)
    (completed : slots.complete missing = .ok value)
    : Represents (.record kind) (.list items) value := by
  obtain ⟨bounded, given, untouched⟩ := Node.itemsRead_of_readInOrder (Nat.zero_le _) read
  rw [Nat.zero_add] at bounded untouched
  obtain ⟨values, rfl, each⟩ := Slots.exists_of_complete completed
  refine .inOrder bounded ?_ ?_
  · intro i item found
    obtain ⟨value, here, isSet⟩ := given i item (Nat.zero_le _) found
    have same := each i
    rw [Slots.value?, isSet] at same
    rw [← Option.some.inj same]
    exact sound _ (List.mem_of_getElem? found) here
  · intro i behind
    have same := each i
    rwa [Slots.value?, untouched i (.inr behind)] at same

/-- A list that is read as a member represents it. -/
theorem of_read_member_list {items : List Document} {member : Member}
    (sound : ∀ item ∈ items, Sound item)
    (read : (Node.ofDocument (.list items)).read .member level = .ok member)
    : Represents .member (.list items) member := by
  cases items with
  | nil =>
      rw [Node.ofDocument, Node.ofItems, Node.read] at read
      obtain ⟨-, -, read⟩ := exists_of_bind_eq_ok read
      obtain ⟨-, -, read⟩ := exists_of_bind_eq_ok read
      cases read
  | cons first rest =>
      obtain ⟨-, soundRest⟩ := List.forall_mem_cons.mp sound
      rw [Node.ofDocument, Node.ofItems, Node.read] at read
      obtain ⟨inner, -, read⟩ := exists_of_bind_eq_ok read
      obtain ⟨tag, isText, read⟩ := exists_of_bind_eq_ok read
      obtain ⟨-, -, read⟩ := exists_of_bind_eq_ok read
      obtain ⟨-, -, read⟩ := exists_of_bind_eq_ok read
      rw [Node.eq_text_of_readText isText]
      split at read
      · next kind named =>
          obtain ⟨slots, read, rest⟩ := exists_of_bind_eq_ok read
          obtain ⟨value, completed, wrapped⟩ := exists_of_bind_eq_ok rest
          rw [MemberKind.tag_of_ofTag? named, ← Except.ok.inj wrapped]
          exact .memberInOrder (of_readInOrder soundRest read completed)
      · next unknown =>
          cases rest with
          | nil =>
              rw [← Except.ok.inj read]
              exact .unrecognizedInOrder unknown
          | cons => cases read

/-- A record that is read as a member represents it. -/
theorem of_read_member_record {entries : List (String × Document)} {member : Member}
    (sound : ∀ entry ∈ entries, Sound entry.2)
    (read : (Node.ofDocument (.record entries)).read .member level = .ok member)
    : Represents .member (.record entries) member := by
  rw [Node.ofDocument, Node.read] at read
  obtain ⟨inner, -, read⟩ := exists_of_bind_eq_ok read
  obtain ⟨tag, found, read⟩ := exists_of_bind_eq_ok read
  obtain ⟨before, after, rfl, untagged⟩ := Node.exists_of_findTag found
  split at read
  · next kind named =>
      obtain ⟨slots, read, rest⟩ := exists_of_bind_eq_ok read
      obtain ⟨value, completed, wrapped⟩ := exists_of_bind_eq_ok rest
      rw [Node.readByKey_insert_unknown kind.index?_kindKey] at read
      rw [MemberKind.tag_of_ofTag? named, ← Except.ok.inj wrapped]
      refine .member before after untagged (of_readByKey (fun entry listed => ?_) read completed)
      exact sound entry (by grind)
  · next unknown =>
      rw [← Except.ok.inj read]
      exact .unrecognized before after untagged unknown

/-- A document represents whatever it is read as, at every level. Witness: induction on the
document and cases on the shape.
-/
theorem of_read (document : Document)
    : Sound document := by
  induction document using Document.induction with
  | scalar value =>
      intro shape level value read
      cases shape with
      | size => exact Node.represents_of_readSize read
      | optionalText => exact Node.represents_of_readOptionalText read
      | text | list | record | member => cases read
  | text content =>
      intro shape level value read
      cases shape with
      | text =>
          rw [← Except.ok.inj read]
          exact .text content
      | optionalText => exact Node.represents_of_readOptionalText read
      | size | list | record | member => cases read
  | list items sound =>
      intro shape level value read
      cases shape with
      | list item =>
          rw [Node.ofDocument, Node.read] at read
          obtain ⟨inner, -, read⟩ := exists_of_bind_eq_ok read
          obtain ⟨values, all, read⟩ := exists_of_bind_eq_ok read
          obtain ⟨-, -, same⟩ := exists_of_bind_eq_ok read
          obtain ⟨sameLength, each⟩ := Node.zip_of_readAll all
          rw [← Except.ok.inj same]
          refine .list sameLength fun pair listed => ?_
          exact sound pair.1 (List.of_mem_zip listed).1 (each pair listed)
      | record kind =>
          rw [Node.ofDocument, Node.read] at read
          obtain ⟨inner, -, read⟩ := exists_of_bind_eq_ok read
          obtain ⟨slots, read, completed⟩ := exists_of_bind_eq_ok read
          exact of_readInOrder sound read completed
      | member => exact of_read_member_list sound read
      | text | size | optionalText => cases read
  | record entries sound =>
      intro shape level value read
      cases shape with
      | record kind =>
          rw [Node.ofDocument, Node.read] at read
          obtain ⟨inner, -, read⟩ := exists_of_bind_eq_ok read
          obtain ⟨slots, read, completed⟩ := exists_of_bind_eq_ok read
          exact of_readByKey sound read completed
      | member => exact of_read_member_record sound read
      | text | size | optionalText | list => cases read

end Represents

end SchemaNames
