import SchemaNames.Loading.Read
import SchemaNames.Proofs.Loading.FilledSlots

/-! The documents that represent a value. A record is represented by its entries in any order or
by its values in the order of its fields, and a member also names its kind.
-/

namespace SchemaNames

/-- Holds of a document that represents a value of a shape. -/
inductive Represents : (shape : Shape) → Document → shape.Value → Prop where
  | text (content : String)
    : Represents .text (.text content) content
  | size (value : UInt64)
    : Represents .size (.natural value.toNat) value
  | absentText
    : Represents .optionalText .null none
  | presentText (content : String)
    : Represents .optionalText (.text content) (some content)
  | list {item : Shape} {items : List Document} {values : List item.Value}
    (sameLength : items.length = values.length)
    (each : ∀ pair ∈ items.zip values, Represents item pair.1 pair.2)
    : Represents (.list item) (.list items) values
  /-- Known keys stand at most once, and a field without entry has its fallback. -/
  | record {kind : RecordKind} {entries : List (String × Document)} {values : kind.FieldValues}
    (unrepeated : entries.Pairwise fun a b => a.1 = b.1 → ∀ i, kind.key i ≠ a.1)
    (given
      : ∀ i value,
          (kind.key i, value) ∈ entries
          → Represents (kind.shape i) value (values i))
    (omitted : ∀ i, kind.key i ∉ entries.map (·.1) → kind.fallback i = some (values i))
    : Represents (.record kind) (.record entries) (kind.build values)
  /-- A field behind the last item has its fallback. -/
  | inOrder {kind : RecordKind} {items : List Document} {values : kind.FieldValues}
    (bounded : items.length ≤ kind.arity)
    (given
      : ∀ (i : Fin kind.arity) item,
          items[i.val]? = some item
          → Represents (kind.shape i) item (values i))
    (omitted : ∀ i, items.length ≤ i.val → kind.fallback i = some (values i))
    : Represents (.record kind) (.list items) (kind.build values)
  /-- The kind stands in one more entry. -/
  | member {kind : MemberKind} (before after : List (String × Document))
    {value : kind.record.Value} (untagged : ∀ entry ∈ before ++ after, entry.1 ≠ kindKey)
    (represents : Represents (.record kind.record) (.record (before ++ after)) value)
    : Represents .member (.record (before ++ (kindKey, .text kind.tag) :: after))
        (kind.wrap value)
  /-- The kind stands in front of the values. -/
  | memberInOrder {kind : MemberKind} {items : List Document} {value : kind.record.Value}
    (represents : Represents (.record kind.record) (.list items) value)
    : Represents .member (.list (.text kind.tag :: items)) (kind.wrap value)
  | unrecognized {tag : String} (before after : List (String × Document))
    (untagged : ∀ entry ∈ before ++ after, entry.1 ≠ kindKey)
    (unknown : MemberKind.ofTag? tag = none)
    : Represents .member (.record (before ++ (kindKey, .text tag) :: after)) .unrecognized
  | unrecognizedInOrder {tag : String} (unknown : MemberKind.ofTag? tag = none)
    : Represents .member (.list [.text tag]) .unrecognized

/-- Values in the order of the fields are not more than the fields. -/
theorem Represents.length_le {kind : RecordKind} {items : List Document} {value : kind.Value}
    (represents : Represents (.record kind) (.list items) value)
    : items.length ≤ kind.arity := by
  cases represents with
  | inOrder bounded => exact bounded

end SchemaNames
