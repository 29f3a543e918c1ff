import SchemaNames.Proofs.Loading.DocumentReading
import SchemaNames.Proofs.Loading.Representation

/-! What a successful reading says about the tree of a document. It has met each known key at most
once, and it leaves to the fallbacks exactly the fields that were not given.
-/

namespace SchemaNames

/-- If a sequence of steps succeeds, so do its first step and what follows it. -/
theorem exists_of_bind_eq_ok {ε α β : Type} {first : Except ε α} {next : α → Except ε β}
    {result : β} (succeeded : (first >>= next) = .ok result)
    : ∃ value, first = .ok value ∧ next value = .ok result := by
  cases first with
  | error problem => cases succeeded
  | ok value => exact ⟨value, rfl, succeeded⟩

/-- The result of a step is turned into a value only if the step has one. -/
theorem map_eq_ok_iff {ε α β : Type} {convert : α → β} {step : Except ε α} {result : β}
    : convert <$> step = .ok result ↔ ∃ value, step = .ok value ∧ result = convert value := by
  cases step with
  | error problem => exact ⟨nofun, nofun⟩
  | ok value =>
      constructor
      · intro same
        exact ⟨value, rfl, (Except.ok.inj same).symm⟩
      · rintro ⟨_, same, rfl⟩
        rw [← Except.ok.inj same]
        rfl

/-- A result without problem had no fault. -/
theorem eq_ok_of_orMalformed {α : Type} {result : Except Fault α} {value : α}
    (succeeded : orMalformed result = .ok value)
    : result = .ok value := by
  cases result with
  | error fault => cases succeeded
  | ok found => rw [Except.ok.inj succeeded]

-----------------------------------------------------------------------------------------
-- Values without parts
-----------------------------------------------------------------------------------------

namespace Node

/-- Only a text is read as a text. -/
theorem eq_text_of_readText {document : Document} {expected : Expected} {content : String}
    (read : (ofDocument document).readText expected = .ok content)
    : document = .text content := by
  cases document with
  | text found => rw [Except.ok.inj (eq_ok_of_orMalformed read)]
  | scalar value => cases read
  | list items => cases read
  | record entries => cases read

/-- Only a number of 64 bits is read as a size, which it then is. -/
theorem represents_of_readSize {document : Document} {size : UInt64}
    (read : (ofDocument document).readSize = .ok size)
    : Represents .size document size := by
  cases document with
  | text found => cases read
  | list items => cases read
  | record entries => cases read
  | scalar value =>
      obtain ⟨found, reading, isSize⟩ := exists_of_bind_eq_ok read
      match found, isSize with
      | .integer (.ofNat n), isSize =>
          obtain ⟨rfl, -, bound⟩ :=
            Scalar.eq_integer_of_reading (eq_ok_of_orMalformed reading)
          have kept : size.toNat = n := by
            rw [← Except.ok.inj isSize]
            exact UInt64.toNat_ofNat_of_lt' (Int.ofNat_lt.mp bound)
          rw [← kept]
          exact .size size

/-- Only null and texts are read as optional texts. -/
theorem represents_of_readOptionalText {document : Document} {content : Option String}
    (read : (ofDocument document).readOptionalText = .ok content)
    : Represents .optionalText document content := by
  cases document with
  | text found =>
      rw [← Except.ok.inj read]
      exact .presentText found
  | scalar value =>
      rw [ofDocument, readOptionalText.eq_def] at read
      split at read
      · next isNull =>
          have reading : value.lexeme.reading = .ok .null := by
            rw [Node.scalar.inj isNull]
          rw [Scalar.eq_null_of_reading reading, ← Except.ok.inj read]
          exact .absentText
      · cases read
  | list items => cases read
  | record entries => cases read

-----------------------------------------------------------------------------------------
-- Lists and records
-----------------------------------------------------------------------------------------

/-- The items of a list that is read are read as its values, by induction on the items. -/
theorem zip_of_readAll {shape : Shape} {level : Level} {items : List Document}
    {values : List shape.Value} (read : readAll shape level (ofItems items) = .ok values)
    : items.length = values.length
      ∧ ∀ pair ∈ items.zip values, (ofDocument pair.1).read shape level = .ok pair.2 := by
  induction items generalizing values with
  | nil =>
      rw [← Except.ok.inj read]
      exact ⟨rfl, fun _ listed => absurd listed List.not_mem_nil⟩
  | cons item rest ih =>
      rw [ofItems, readAll] at read
      obtain ⟨value, here, read⟩ := exists_of_bind_eq_ok read
      obtain ⟨others, later, same⟩ := exists_of_bind_eq_ok read
      obtain ⟨sameLength, each⟩ := ih later
      rw [← Except.ok.inj same]
      exact ⟨congrArg Nat.succ sameLength, List.forall_mem_cons.mpr ⟨here, each⟩⟩

end Node

namespace Slots

variable {kind : RecordKind}

/-- A field that is set has the value it is set to. -/
@[simp] theorem set_self (slots : Slots kind) (i : Fin kind.arity) (value : (kind.shape i).Value)
    : slots.set i value i = some value := by
  simp [set]

/-- Setting a field leaves the others as they are. -/
@[simp] theorem set_of_ne (slots : Slots kind) {i j : Fin kind.arity} (other : j ≠ i)
    (value : (kind.shape i).Value)
    : slots.set i value j = slots j := by
  simp [set, other]

/-- A completed record has in each field the value that is set or else the fallback. -/
theorem exists_of_complete {ε : Type} {slots : Slots kind} {missing : Fin kind.arity → ε}
    {value : kind.Value} (completed : slots.complete missing = .ok value)
    : ∃ values, value = kind.build values ∧ ∀ i, slots.value? i = some (values i) := by
  unfold complete at completed
  split at completed
  · cases completed
  · exact ⟨_, (Except.ok.inj completed).symm, fun i => (Option.some_get _).symm⟩

end Slots

namespace Node

section ByKey

variable {kind : RecordKind} {level : Level} {slots final : Slots kind}

/-- The entry of a known field is read only while the field is unset, and sets it. -/
theorem exists_of_readByKey_cons {i : Fin kind.arity} {document : Document}
    {rest : List (Lexeme String × Node)} {ending : RecordEnd}
    (read
      : readByKey kind level slots ending
          ((.accepted (kind.key i), ofDocument document) :: rest)
        = .ok final)
    : slots i = none
      ∧ ∃ value,
          (ofDocument document).read (kind.shape i) level = .ok value
          ∧ readByKey kind level (slots.set i value) ending rest = .ok final := by
  have known : kind.index? (kind.key i) = some i := RecordKind.index?_eq_some_iff.mpr rfl
  rw [readByKey] at read
  simp only [Lexeme.accepted, orMalformed_ok, ok_bind, known] at read
  split at read
  · cases read
  · next unset =>
    exact ⟨Option.not_isSome_iff_eq_none.mp unset, exists_of_bind_eq_ok read⟩

/-- Holds of entries that are read from slots to final ones: known keys stand at most once, and
exactly their fields are set, each to what its value is read as.
-/
structure EntriesRead (level : Level) (slots final : Slots kind)
    (entries : List (String × Document))
    : Prop where
  unrepeated
    : entries.Pairwise fun a b => a.1 = b.1 → ∀ i, kind.key i ≠ a.1
  given
    : ∀ i document,
        (kind.key i, document) ∈ entries
        → slots i = none
          ∧ ∃ value,
              (ofDocument document).read (kind.shape i) level = .ok value
              ∧ final i = some value
  untouched
    : ∀ i, kind.key i ∉ entries.map (·.1) → final i = slots i

/-- An entry with an unknown key is read wherever the entries behind it are. -/
theorem EntriesRead.cons_unknown {rest : List (String × Document)}
    (read : EntriesRead level slots final rest) {name : String}
    (unknown : ∀ i, kind.key i ≠ name) (document : Document)
    : EntriesRead level slots final ((name, document) :: rest) := by
  refine ⟨List.pairwise_cons.mpr ⟨fun _ _ _ => unknown, read.unrepeated⟩, ?_, ?_⟩
  · intro i value listed
    rcases List.mem_cons.mp listed with first | later
    · exact absurd (congrArg Prod.fst first) (unknown i)
    · exact read.given i value later
  · intro i absent
    exact read.untouched i (List.not_mem_of_not_mem_cons absent)

/-- An entry with a known key is read before entries that are read once its field is set, as none
of these has the key.
-/
theorem EntriesRead.cons_known {i : Fin kind.arity} {document : Document}
    {value : (kind.shape i).Value} {rest : List (String × Document)} (unset : slots i = none)
    (here : (ofDocument document).read (kind.shape i) level = .ok value)
    (read : EntriesRead level (slots.set i value) final rest)
    : EntriesRead level slots final ((kind.key i, document) :: rest) := by
  have alone : kind.key i ∉ rest.map (·.1) := by
    intro listed
    obtain ⟨entry, entryListed, sameKey⟩ := List.mem_map.mp listed
    obtain ⟨stillUnset, -⟩ := read.given i entry.2 (sameKey ▸ entryListed)
    rw [Slots.set_self] at stillUnset
    cases stillUnset
  refine ⟨List.pairwise_cons.mpr ⟨?_, read.unrepeated⟩, ?_, ?_⟩
  · intro entry listed sameKey
    exact absurd (List.mem_map.mpr ⟨entry, listed, sameKey.symm⟩) alone
  · intro j other listed
    rcases List.mem_cons.mp listed with first | later
    · obtain ⟨sameKey, rfl⟩ := Prod.mk.inj first
      obtain rfl := kind.key_injective sameKey
      exact ⟨unset, value, here, by rw [read.untouched j alone, Slots.set_self]⟩
    · have apart : j ≠ i := by
        rintro rfl
        exact alone (List.mem_map_of_mem later)
      rw [← Slots.set_of_ne slots apart value]
      exact read.given j other later
  · intro j absent
    have apart : j ≠ i := by
      rintro rfl
      exact absent List.mem_cons_self
    rw [read.untouched j (List.not_mem_of_not_mem_cons absent), Slots.set_of_ne slots apart]

/-- What a successful reading says about entries, by induction on the entries. -/
theorem entriesRead_of_readByKey {entries : List (String × Document)} {ending : RecordEnd}
    (read : readByKey kind level slots ending (ofEntries entries) = .ok final)
    : EntriesRead level slots final entries := by
  induction entries generalizing slots with
  | nil =>
      rw [ofEntries, readByKey] at read
      obtain ⟨-, -, same⟩ := exists_of_bind_eq_ok read
      rw [Except.ok.inj same]
      exact ⟨.nil, fun _ _ listed => absurd listed List.not_mem_nil, fun _ _ => rfl⟩
  | cons entry rest ih =>
      obtain ⟨name, document⟩ := entry
      rw [ofEntries] at read
      cases index : kind.index? name with
      | none =>
          rw [readByKey_cons_unknown index] at read
          exact (ih read).cons_unknown (RecordKind.index?_eq_none_iff.mp index) document
      | some i =>
          obtain rfl := RecordKind.index?_eq_some_iff.mp index
          obtain ⟨unset, value, here, read⟩ := exists_of_readByKey_cons read
          exact .cons_known unset here (ih read)

end ByKey

section InOrder

variable {kind : RecordKind} {level : Level} {slots final : Slots kind}

/-- Holds of values that are read from slots to final ones, from the field at an index on: there is
a field for each, which is set to what the value is read as.
-/
structure ItemsRead (level : Level) (index : Nat) (slots final : Slots kind)
    (items : List Document)
    : Prop where
  bounded
    : index + items.length ≤ kind.arity
  given
    : ∀ (i : Fin kind.arity) item,
        index ≤ i.val
        → items[i.val - index]? = some item
        → ∃ value,
            (ofDocument item).read (kind.shape i) level = .ok value
            ∧ final i = some value
  untouched
    : ∀ i, i.val < index ∨ index + items.length ≤ i.val → final i = slots i

/-- A value is read for its field before values that are read from the next field on. -/
theorem ItemsRead.cons {index : Nat} (room : index < kind.arity) {item : Document}
    {value : (kind.shape ⟨index, room⟩).Value} {rest : List Document}
    (here : (ofDocument item).read (kind.shape ⟨index, room⟩) level = .ok value)
    (read : ItemsRead level (index + 1) (slots.set ⟨index, room⟩ value) final rest)
    : ItemsRead level index slots final (item :: rest) := by
  have bounded := read.bounded
  refine ⟨by rw [List.length_cons]; omega, ?_, ?_⟩
  · intro i other behind found
    rcases Nat.eq_or_lt_of_le behind with first | later
    · obtain rfl : i = ⟨index, room⟩ := Fin.ext first.symm
      simp only [Nat.sub_self, List.getElem?_cons_zero, Option.some.injEq] at found
      subst found
      refine ⟨value, here, ?_⟩
      rw [read.untouched _ (.inl (Nat.lt_succ_self _)), Slots.set_self]
    · refine read.given i other later ?_
      rwa [show i.val - index = i.val - (index + 1) + 1 by omega] at found
  · intro i outside
    rw [List.length_cons] at outside
    have apart : i ≠ ⟨index, room⟩ := by
      intro same
      have sameIndex : i.val = index := congrArg Fin.val same
      omega
    rw [read.untouched i (by omega), Slots.set_of_ne slots apart]

/-- What a successful reading says about values in the order of the fields, by induction on the
values.
-/
theorem itemsRead_of_readInOrder {index : Nat} {items : List Document} {ending : ListEnd}
    (inside : index ≤ kind.arity)
    (read : readInOrder kind level index slots ending (ofItems items) = .ok final)
    : ItemsRead level index slots final items := by
  induction items generalizing index slots with
  | nil =>
      rw [ofItems, readInOrder] at read
      have same : final = slots := by
        split at read
        all_goals
          obtain ⟨_, _, same⟩ := exists_of_bind_eq_ok read
          exact (Except.ok.inj same).symm
      rw [same]
      exact ⟨inside, fun _ _ _ found => absurd found (by simp), fun _ _ => rfl⟩
  | cons item rest ih =>
      rw [ofItems, readInOrder] at read
      split at read
      · next room =>
          obtain ⟨value, here, read⟩ := exists_of_bind_eq_ok read
          exact .cons room here (ih room read)
      · cases read

end InOrder

-----------------------------------------------------------------------------------------
-- Members
-----------------------------------------------------------------------------------------

/-- Once a kind is found, no later entry is tagged, by induction on the entries. -/
theorem untagged_of_findTag {level : Level} {ending : RecordEnd} {first tag : String}
    {entries : List (String × Document)}
    (found : findTag level ending (some first) (ofEntries entries) = .ok tag)
    : first = tag ∧ ∀ entry ∈ entries, entry.1 ≠ kindKey := by
  induction entries with
  | nil =>
      rw [ofEntries, findTag] at found
      obtain ⟨-, -, same⟩ := exists_of_bind_eq_ok found
      exact ⟨Except.ok.inj same, fun _ listed => absurd listed List.not_mem_nil⟩
  | cons entry rest ih =>
      obtain ⟨name, document⟩ := entry
      rw [ofEntries, findTag] at found
      simp only [Lexeme.accepted, orMalformed_ok, ok_bind, Option.isSome_some, ↓reduceIte] at found
      split at found
      · cases found
      · next otherKey =>
          obtain ⟨-, -, found⟩ := exists_of_bind_eq_ok found
          obtain ⟨same, untagged⟩ := ih found
          exact ⟨same, List.forall_mem_cons.mpr ⟨otherKey, untagged⟩⟩

/-- The kind that is found stands in the one entry that is tagged, by induction on the entries. -/
theorem exists_of_findTag {level : Level} {ending : RecordEnd}
    {entries : List (String × Document)} {tag : String}
    (found : findTag level ending none (ofEntries entries) = .ok tag)
    : ∃ before after,
        entries = before ++ (kindKey, .text tag) :: after
        ∧ ∀ entry ∈ before ++ after, entry.1 ≠ kindKey := by
  induction entries with
  | nil =>
      rw [ofEntries, findTag] at found
      obtain ⟨-, -, missing⟩ := exists_of_bind_eq_ok found
      cases missing
  | cons entry rest ih =>
      obtain ⟨name, document⟩ := entry
      rw [ofEntries, findTag] at found
      simp only [Lexeme.accepted, orMalformed_ok, ok_bind, Option.isSome_none, Bool.false_eq_true,
        ↓reduceIte] at found
      split at found
      · next isKind =>
          obtain ⟨first, isText, found⟩ := exists_of_bind_eq_ok found
          obtain ⟨rfl, untagged⟩ := untagged_of_findTag found
          refine ⟨[], rest, ?_, untagged⟩
          rw [isKind, eq_text_of_readText isText, List.nil_append]
      · next otherKey =>
          obtain ⟨-, -, found⟩ := exists_of_bind_eq_ok found
          obtain ⟨before, after, rfl, untagged⟩ := ih found
          exact ⟨(name, document) :: before, after, rfl,
            List.forall_mem_cons.mpr ⟨otherKey, untagged⟩⟩

end Node

end SchemaNames
