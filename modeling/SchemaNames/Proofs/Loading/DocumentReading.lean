import SchemaNames.Loading.Read
import SchemaNames.Proofs.Document.DocumentTree
import SchemaNames.Proofs.Loading.FilledSlots

/-! Reading the trees of documents. Entries and lists of values fill the fields of a record, and
the kind of a member is found wherever it stands.
-/

namespace SchemaNames

/-- A step that succeeds hands its value to the next one. -/
theorem ok_bind {ε α β : Type} (value : α) (next : α → Except ε β)
    : (Except.ok value >>= next) = next value :=
  rfl

/-- What is not faulty is no problem. -/
theorem orMalformed_ok {α : Type} (value : α)
    : orMalformed (.ok value) = .ok value :=
  rfl

-----------------------------------------------------------------------------------------
-- Kinds of members
-----------------------------------------------------------------------------------------

namespace MemberKind

/-- The tag of a kind names it. -/
theorem ofTag?_tag (kind : MemberKind)
    : ofTag? kind.tag = some kind := by
  cases kind <;> decide

/-- Only the tag of a kind names it. -/
theorem tag_of_ofTag? {tag : String} {kind : MemberKind} (named : ofTag? tag = some kind)
    : tag = kind.tag := by
  have sameTag := List.find?_some named
  exact (of_decide_eq_true sameTag).symm

/-- The key of a kind is the key of no field of a member. -/
theorem index?_kindKey (kind : MemberKind)
    : kind.record.index? kindKey = none := by
  cases kind <;> decide

end MemberKind

-----------------------------------------------------------------------------------------
-- Levels
-----------------------------------------------------------------------------------------

namespace Level

/-- Holds of a document that is not too deep to be read; only a text has a limit. -/
def Allows : Level → Document → Prop
  | .streamed room, document => document.Within room
  | .checked, _ => True

/-- The items of a list can be read inside its brackets. -/
theorem Allows.enter_list {level : Level} {items : List Document}
    (allowed : level.Allows (.list items))
    : ∃ inner, level.enter = .ok inner ∧ ∀ item ∈ items, inner.Allows item := by
  cases level with
  | checked => exact ⟨.checked, rfl, fun _ _ => trivial⟩
  | streamed room =>
      cases allowed with
      | @list room _ each => exact ⟨.streamed room, rfl, each⟩

/-- The values of a record can be read inside its brackets. -/
theorem Allows.enter_record {level : Level} {entries : List (String × Document)}
    (allowed : level.Allows (.record entries))
    : ∃ inner, level.enter = .ok inner ∧ ∀ entry ∈ entries, inner.Allows entry.2 := by
  cases level with
  | checked => exact ⟨.checked, rfl, fun _ _ => trivial⟩
  | streamed room =>
      cases allowed with
      | @record room _ each => exact ⟨.streamed room, rfl, each⟩

/-- A document that can be read passes the check. -/
theorem Allows.check {level : Level} {document : Document} (allowed : level.Allows document)
    : level.check (.ofDocument document) = .ok () := by
  cases level with
  | checked => rfl
  | streamed room =>
      rw [Level.check, Document.Within.toDocument_ofDocument allowed]
      rfl

/-- Documents that can be read pass the check one after the other. -/
theorem Allows.checkAll {level : Level} {items : List Document}
    (allowed : ∀ item ∈ items, level.Allows item)
    : level.checkAll (Node.ofItems items) = .ok () := by
  induction items with
  | nil => rfl
  | cons item rest ih =>
      obtain ⟨here, later⟩ := List.forall_mem_cons.mp allowed
      rw [Node.ofItems, Level.checkAll, here.check]
      exact ih later

/-- A document is passed over without a problem. -/
theorem skip_ofDocument (level : Level) (document : Document)
    : level.skip (.ofDocument document) = .ok () := by
  cases level with
  | checked => rfl
  | streamed room =>
      rw [skip, Node.skip_ofDocument]
      rfl

end Level

-----------------------------------------------------------------------------------------
-- Lists and records
-----------------------------------------------------------------------------------------

namespace Node

/-- The items of a list that represent the values of a list are read as these, by induction on
the items.
-/
theorem readAll_ofItems {shape : Shape} {level : Level} {items : List Document}
    {values : List shape.Value} (sameLength : items.length = values.length)
    (each : ∀ pair ∈ items.zip values, (ofDocument pair.1).read shape level = .ok pair.2)
    : readAll shape level (ofItems items) = .ok values := by
  induction items generalizing values with
  | nil =>
      rw [List.eq_nil_of_length_eq_zero sameLength.symm]
      rfl
  | cons item rest ih =>
      cases values with
      | nil => cases sameLength
      | cons value others =>
          obtain ⟨here, later⟩ := List.forall_mem_cons.mp each
          rw [ofItems, readAll, here, ih (Nat.succ.inj sameLength) later]
          rfl

section ByKey

variable {kind : RecordKind} {level : Level} {slots : Slots kind} {ending : RecordEnd}

/-- An entry with an unknown key is passed over. -/
theorem readByKey_cons_unknown {name : String} (unknown : kind.index? name = none)
    (document : Document) (rest : List (Lexeme String × Node))
    : readByKey kind level slots ending ((.accepted name, ofDocument document) :: rest)
      = readByKey kind level slots ending rest := by
  rw [readByKey]
  simp only [Lexeme.accepted, orMalformed_ok, ok_bind, unknown, Level.skip_ofDocument]

/-- An entry with the key of a field that is not set sets the field. -/
theorem readByKey_cons_known {i : Fin kind.arity} (unset : slots i = none) {node : Node}
    {value : (kind.shape i).Value} (read : node.read (kind.shape i) level = .ok value)
    (rest : List (Lexeme String × Node))
    : readByKey kind level slots ending ((.accepted (kind.key i), node) :: rest)
      = readByKey kind level (slots.set i value) ending rest := by
  have known : kind.index? (kind.key i) = some i := RecordKind.index?_eq_some_iff.mpr rfl
  rw [readByKey]
  simp [Lexeme.accepted, orMalformed_ok, ok_bind, known, unset, read]

/-- An entry with an unknown key makes no difference wherever it stands, by induction on the
entries before it.
-/
theorem readByKey_insert_unknown {name : String} (unknown : kind.index? name = none)
    (document : Document) (before after : List (String × Document))
    : readByKey kind level slots ending (ofEntries (before ++ (name, document) :: after))
      = readByKey kind level slots ending (ofEntries (before ++ after)) := by
  induction before generalizing slots with
  | nil => exact readByKey_cons_unknown unknown document _
  | cons entry rest ih => simp only [List.cons_append, ofEntries, readByKey, ih]

/-- Entries fill the fields whose keys they have. Witness: induction on the entries, where no
field that is to be filled is filled already.
-/
theorem readByKey_filled {values : kind.FieldValues} {isFilled : Fin kind.arity → Bool}
    {entries : List (String × Document)}
    (unrepeated : entries.Pairwise fun a b => a.1 = b.1 → ∀ i, kind.key i ≠ a.1)
    (fresh : ∀ i, kind.key i ∈ entries.map (·.1) → isFilled i = false)
    (each
      : ∀ i value,
          (kind.key i, value) ∈ entries
          → (ofDocument value).read (kind.shape i) level = .ok (values i))
    : readByKey kind level (.filled values isFilled) .closed (ofEntries entries)
      = .ok (.filled values fun i => isFilled i || decide (kind.key i ∈ entries.map (·.1))) := by
  induction entries generalizing isFilled with
  | nil =>
      simp only [List.map_nil, List.not_mem_nil, decide_false, Bool.or_false]
      rfl
  | cons entry rest ih =>
      obtain ⟨name, document⟩ := entry
      obtain ⟨apart, unrepeatedRest⟩ := List.pairwise_cons.mp unrepeated
      have eachRest (i : Fin kind.arity) (value : Document) (listed : (kind.key i, value) ∈ rest)
          : (ofDocument value).read (kind.shape i) level = .ok (values i) :=
        each i value (List.mem_cons_of_mem _ listed)
      have freshRest (i : Fin kind.arity) (listed : kind.key i ∈ rest.map (·.1))
          : isFilled i = false :=
        fresh i (List.mem_cons_of_mem _ listed)
      cases index : kind.index? name with
      | none =>
          have unknown := RecordKind.index?_eq_none_iff.mp index
          rw [ofEntries, readByKey_cons_unknown index, ih unrepeatedRest freshRest eachRest]
          simp only [List.map_cons, List.mem_cons, unknown, false_or]
      | some i =>
          have known := RecordKind.index?_eq_some_iff.mp index
          subst known
          have unset : Slots.filled values isFilled i = none := by
            simp [Slots.filled, fresh i List.mem_cons_self]
          have stillFresh (j : Fin kind.arity) (listed : kind.key j ∈ rest.map (·.1))
              : (decide (j = i) || isFilled j) = false := by
            obtain ⟨entry, entryListed, sameKey⟩ := List.mem_map.mp listed
            have other : j ≠ i := by
              rintro rfl
              exact apart entry entryListed sameKey.symm j rfl
            simp [other, freshRest j listed]
          have sameFields (j : Fin kind.arity)
              : (decide (j = i) || isFilled j || decide (kind.key j ∈ rest.map (·.1)))
                = (isFilled j
                  || decide (kind.key j = kind.key i ∨ kind.key j ∈ rest.map (·.1))) := by
            by_cases same : j = i
            · simp [same]
            · have otherKey : kind.key j ≠ kind.key i := fun h => same (kind.key_injective h)
              simp [same, otherKey]
          rw [ofEntries, readByKey_cons_known unset (each i document List.mem_cons_self),
            Slots.set_filled, ih unrepeatedRest stillFresh eachRest]
          simp only [List.map_cons, List.mem_cons, sameFields]

/-- A record is read as what its entries are read as, where the fields without entry have their
fallbacks.
-/
theorem read_record {values : kind.FieldValues} {inner : Level}
    (entered : level.enter = .ok inner) {entries : List (String × Document)}
    (unrepeated : entries.Pairwise fun a b => a.1 = b.1 → ∀ i, kind.key i ≠ a.1)
    (each
      : ∀ i value,
          (kind.key i, value) ∈ entries
          → (ofDocument value).read (kind.shape i) inner = .ok (values i))
    (omitted : ∀ i, kind.key i ∉ entries.map (·.1) → kind.fallback i = some (values i))
    : (ofDocument (.record entries)).read (.record kind) level = .ok (kind.build values) := by
  have slots := readByKey_filled unrepeated (fun _ _ => rfl) each
  rw [Slots.filled_false] at slots
  simp only [ofDocument, read, entered, ok_bind, slots]
  apply Slots.complete_filled
  intro i absent
  exact omitted i (by simpa using absent)

end ByKey

/-- Values in the order of the fields fill one field after the other. Witness: induction on the
values, with the fields before the index filled.
-/
theorem readInOrder_filled {kind : RecordKind} {level : Level} {values : kind.FieldValues}
    (index : Nat) {items : List Document} (bounded : index + items.length ≤ kind.arity)
    (each
      : ∀ (i : Fin kind.arity) item,
          index ≤ i.val
          → items[i.val - index]? = some item
          → (ofDocument item).read (kind.shape i) level = .ok (values i))
    : readInOrder kind level index (.filled values fun i => i.val < index) .closed (ofItems items)
      = .ok (.filled values fun i => i.val < index + items.length) := by
  induction items generalizing index with
  | nil =>
      rw [ofItems, readInOrder]
      split <;> rfl
  | cons item rest ih =>
      rw [List.length_cons] at bounded
      have room : index < kind.arity := by omega
      have here := each ⟨index, room⟩ item (Nat.le_refl index) (by simp)
      have eachRest (i : Fin kind.arity) (next : Document) (behind : index + 1 ≤ i.val)
          (found : rest[i.val - (index + 1)]? = some next)
          : (ofDocument next).read (kind.shape i) level = .ok (values i) := by
        refine each i next (by omega) ?_
        rw [show i.val - index = i.val - (index + 1) + 1 by omega]
        exact found
      have sameFields (i : Fin kind.arity)
          : (decide (i = ⟨index, room⟩) || decide (i.val < index))
            = decide (i.val < index + 1) := by
        rw [← Bool.decide_or, decide_eq_decide, Fin.ext_iff]
        change i.val = index ∨ i.val < index ↔ i.val < index + 1
        omega
      rw [ofItems, readInOrder, dif_pos room, here]
      simp only [ok_bind, Slots.set_filled, sameFields]
      rw [ih (index + 1) (by omega) eachRest, List.length_cons, Nat.add_right_comm, Nat.add_assoc]

-----------------------------------------------------------------------------------------
-- Members
-----------------------------------------------------------------------------------------

/-- Entries with other keys make no difference to the kind that is found, by induction on them. -/
theorem findTag_append {level : Level} (ending : RecordEnd) (found : Option String)
    {entries : List (String × Document)} (untagged : ∀ entry ∈ entries, entry.1 ≠ kindKey)
    (allowed : ∀ entry ∈ entries, level.Allows entry.2) (rest : List (Lexeme String × Node))
    : findTag level ending found (ofEntries entries ++ rest)
      = findTag level ending found rest := by
  induction entries with
  | nil => rfl
  | cons entry more ih =>
      obtain ⟨name, document⟩ := entry
      obtain ⟨otherKey, untaggedRest⟩ := List.forall_mem_cons.mp untagged
      obtain ⟨here, allowedRest⟩ := List.forall_mem_cons.mp allowed
      rw [ofEntries, List.cons_append, findTag]
      simp only [Lexeme.accepted, orMalformed_ok, ok_bind, otherKey, ↓reduceIte, here.check]
      exact ih untaggedRest allowedRest

/-- The kind of a member is found wherever its entry stands. -/
theorem findTag_tagged {level : Level} {before after : List (String × Document)}
    (untagged : ∀ entry ∈ before ++ after, entry.1 ≠ kindKey) {tag : String}
    (allowed : ∀ entry ∈ before ++ (kindKey, .text tag) :: after, level.Allows entry.2)
    : findTag level .closed none (ofEntries (before ++ (kindKey, .text tag) :: after))
      = .ok tag := by
  obtain ⟨untaggedBefore, untaggedAfter⟩ := List.forall_mem_append.mp untagged
  obtain ⟨allowedBefore, allowedBehind⟩ := List.forall_mem_append.mp allowed
  obtain ⟨-, allowedAfter⟩ := List.forall_mem_cons.mp allowedBehind
  have behind := findTag_append .closed (some tag) untaggedAfter allowedAfter []
  rw [List.append_nil] at behind
  rw [ofEntries_append, findTag_append .closed none untaggedBefore allowedBefore, ofEntries,
    findTag]
  simp only [Lexeme.accepted, orMalformed_ok, ok_bind, ↓reduceIte, ofDocument, readText,
    Option.isSome_none, Bool.false_eq_true]
  rw [behind]
  rfl

/-- A tagged record is read as the member that its other entries are read as. -/
theorem read_member_of_record {level : Level} {before after : List (String × Document)}
    (untagged : ∀ entry ∈ before ++ after, entry.1 ≠ kindKey) {kind : MemberKind}
    (allowed : level.Allows (.record (before ++ (kindKey, .text kind.tag) :: after)))
    : (ofDocument (.record (before ++ (kindKey, .text kind.tag) :: after))).read .member level
      = kind.wrap
          <$> (ofDocument (.record (before ++ after))).read (.record kind.record) .checked := by
  obtain ⟨inner, entered, inside⟩ := allowed.enter_record
  have stays : Level.checked.enter = .ok .checked := rfl
  simp only [ofDocument, read, entered, stays, ok_bind, findTag_tagged untagged inside,
    MemberKind.ofTag?_tag, readByKey_insert_unknown kind.index?_kindKey, map_bind, bind_pure_comp]

/-- A list that begins with a tag is read as the member that its other items are read as. -/
theorem read_member_of_list {level : Level} {items : List Document} {kind : MemberKind}
    (allowed : level.Allows (.list (.text kind.tag :: items)))
    : (ofDocument (.list (.text kind.tag :: items))).read .member level
      = kind.wrap <$> (ofDocument (.list items)).read (.record kind.record) .checked := by
  obtain ⟨inner, entered, inside⟩ := allowed.enter_list
  obtain ⟨-, others⟩ := List.forall_mem_cons.mp inside
  have stays : Level.checked.enter = .ok .checked := rfl
  have tagged : (Node.text (.accepted kind.tag)).readText .memberKind = .ok kind.tag := rfl
  simp only [ofDocument, ofItems, read, entered, stays, ok_bind, tagged,
    Level.Allows.checkAll others, ListEnd.check, orMalformed_ok, MemberKind.ofTag?_tag, map_bind,
    bind_pure_comp]

end Node

end SchemaNames
