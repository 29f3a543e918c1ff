import SchemaNames.Proofs.Document.DocumentTree
import SchemaNames.Proofs.Loading.Representation

/-! The documents that are written for the parts of a schema. Each represents its part and has no
more nested brackets than a text may have.
-/

namespace SchemaNames

-----------------------------------------------------------------------------------------
-- Records by their fields
-----------------------------------------------------------------------------------------

namespace RecordKind

/-- The values of the fields of a record. -/
def parts : (kind : RecordKind) → kind.Value → kind.FieldValues
  | .service, s, i =>
      match i with
      | ⟨0, _⟩ => s.name
      | ⟨1, _⟩ => s.attributes
      | ⟨2, _⟩ => s.members
      | ⟨3, _⟩ => s.position
  | .method, m, i =>
      match i with
      | ⟨0, _⟩ => m.name
      | ⟨1, _⟩ => m.requestFields
      | ⟨2, _⟩ => m.responseFields
      | ⟨3, _⟩ => m.attributes
      | ⟨4, _⟩ => m.position
  | .dataObject, d, i =>
      match i with
      | ⟨0, _⟩ => d.name
      | ⟨1, _⟩ => d.fields
      | ⟨2, _⟩ => d.attributes
      | ⟨3, _⟩ => d.position
  | .enumeration, e, i =>
      match i with
      | ⟨0, _⟩ => e.name
      | ⟨1, _⟩ => e.values
      | ⟨2, _⟩ => e.attributes
      | ⟨3, _⟩ => e.position
  | .enumValue, v, i =>
      match i with
      | ⟨0, _⟩ => v.name
      | ⟨1, _⟩ => v.attributes
      | ⟨2, _⟩ => v.position
  | .errorSet, s, i =>
      match i with
      | ⟨0, _⟩ => s.name
      | ⟨1, _⟩ => s.errors
      | ⟨2, _⟩ => s.attributes
      | ⟨3, _⟩ => s.position
  | .errorCase, e, i =>
      match i with
      | ⟨0, _⟩ => e.name
      | ⟨1, _⟩ => e.attributes
      | ⟨2, _⟩ => e.position
  | .field, f, i =>
      match i with
      | ⟨0, _⟩ => f.name
      | ⟨1, _⟩ => f.typeName
      | ⟨2, _⟩ => f.attributes
      | ⟨3, _⟩ => f.position
  | .attributeUse, a, i =>
      match i with
      | ⟨0, _⟩ => a.name
      | ⟨1, _⟩ => a.parameters
      | ⟨2, _⟩ => a.position
  | .parameter, p, i =>
      match i with
      | ⟨0, _⟩ => p.name
      | ⟨1, _⟩ => p.value
      | ⟨2, _⟩ => p.position
  | .position, p, i =>
      match i with
      | ⟨0, _⟩ => p.name
      | ⟨1, _⟩ => p.line
      | ⟨2, _⟩ => p.column
  | .options, o, i =>
      match i with
      | ⟨0, _⟩ => o.language
      | ⟨1, _⟩ => o.requestSuffix
      | ⟨2, _⟩ => o.responseSuffix

/-- A record is built from the values of its fields, by cases on the kind. -/
theorem build_parts (kind : RecordKind) (value : kind.Value)
    : kind.build (kind.parts value) = value := by
  cases kind <;> rfl

/-- The entries of the fields that have a document, in the order of the fields. -/
def entriesOf (kind : RecordKind) (documents : Fin kind.arity → Option Document)
    : List (String × Document) :=
  (List.finRange kind.arity).filterMap fun i => (documents i).map (kind.key i, ·)

/-- A document stands under the key of its field, as no other field has that key. -/
theorem mem_entriesOf {kind : RecordKind} {documents : Fin kind.arity → Option Document}
    {i : Fin kind.arity} {document : Document}
    : (kind.key i, document) ∈ kind.entriesOf documents ↔ documents i = some document := by
  simp only [entriesOf, List.mem_filterMap, Option.map_eq_some_iff, List.mem_finRange, true_and]
  constructor
  · rintro ⟨j, other, there, same⟩
    obtain ⟨sameKey, rfl⟩ := Prod.mk.inj same
    exact kind.key_injective sameKey ▸ there
  · intro here
    exact ⟨i, document, here, rfl⟩

/-- The entries of different fields have different keys. -/
theorem pairwise_entriesOf (kind : RecordKind) (documents : Fin kind.arity → Option Document)
    : (kind.entriesOf documents).Pairwise fun a b => a.1 ≠ b.1 := by
  have distinct : (List.finRange kind.arity).Pairwise (· ≠ ·) := by
    rw [List.pairwise_iff_getElem]
    intro i j boundI boundJ earlier
    simp only [List.getElem_finRange, ne_eq, Fin.ext_iff]
    exact Nat.ne_of_lt earlier
  rw [entriesOf, List.pairwise_filterMap]
  refine distinct.imp ?_
  intro i j different a writtenA b writtenB sameKey
  obtain ⟨_, _, rfl⟩ := Option.map_eq_some_iff.mp writtenA
  obtain ⟨_, _, rfl⟩ := Option.map_eq_some_iff.mp writtenB
  exact different (kind.key_injective sameKey)

end RecordKind

/-- Holds of a document that represents a value and has at most so many open brackets around any
of its parts.
-/
structure Encodes (room : Nat) (shape : Shape) (document : Document) (value : shape.Value)
    : Prop where
  represents
    : Represents shape document value
  within
    : document.Within room

namespace Encodes

variable {room : Nat}

theorem text (content : String) : Encodes room .text (.text content) content :=
  ⟨.text content, .text content⟩

/-- A number of 64 bits is written as itself. -/
theorem size (value : UInt64)
    : Encodes room .size (.natural value.toNat) value :=
  ⟨.size value, .scalar (Scalar.exact_toNat value)⟩

/-- The documents of the items of a list, in their order, are written for the list. -/
theorem list (item : Shape) {encode : item.Value → Document}
    (each : ∀ value, Encodes room item (encode value) value) (values : List item.Value)
    : Encodes (room + 1) (.list item) (.list (values.map encode)) values := by
  refine ⟨.list (List.length_map encode) ?_, .list ?_⟩
  · intro pair listed
    obtain ⟨index, bound, rfl⟩ := List.mem_iff_getElem.mp listed
    rw [List.getElem_zip, List.getElem_map]
    exact (each _).represents
  · intro document listed
    obtain ⟨value, -, rfl⟩ := List.mem_map.mp listed
    exact (each value).within

end Encodes

/-- Holds of what is written for a field: a document, or nothing in place of its fallback. -/
def EncodesField (room : Nat) (shape : Shape) (fallback : Option shape.Value)
    (value : shape.Value)
    : Option Document → Prop
  | some document => Encodes room shape document value
  | none => fallback = some value

namespace Encodes

variable {room : Nat}

/-- A record is written field by field in their order, by what is written for each field. -/
theorem record (kind : RecordKind) (value : kind.Value)
    (documents : Fin kind.arity → Option Document) {entries : List (String × Document)}
    (written : entries = kind.entriesOf documents)
    (each
      : ∀ i,
          EncodesField room (kind.shape i) (kind.fallback i) (kind.parts value i)
            (documents i))
    : Encodes (room + 1) (.record kind) (.record entries) value := by
  subst written
  rw [← kind.build_parts value]
  refine ⟨.record ?_ ?_ ?_, .record ?_⟩
  · refine (kind.pairwise_entriesOf documents).imp ?_
    intro a b different sameKey
    exact absurd sameKey different
  · intro i document listed
    have field := each i
    rw [RecordKind.mem_entriesOf.mp listed] at field
    exact field.represents
  · intro i absent
    have field := each i
    cases there : documents i with
    | none => rwa [there] at field
    | some document =>
        exact absurd (List.mem_map_of_mem (RecordKind.mem_entriesOf.mpr there)) absent
  · intro entry listed
    obtain ⟨i, -, written⟩ := List.mem_filterMap.mp listed
    obtain ⟨document, there, rfl⟩ := Option.map_eq_some_iff.mp written
    have field := each i
    rw [there] at field
    exact field.within

end Encodes

/-- An optional text is written only if it is there. -/
theorem EncodesField.optionalText (room : Nat) (value : Option String)
    : EncodesField room .optionalText (some none) value (value.map .text) := by
  cases value with
  | none => rfl
  | some content => exact ⟨.presentText content, .text content⟩

-----------------------------------------------------------------------------------------
-- Parts of a schema
-----------------------------------------------------------------------------------------

theorem Position.encodes (room : Nat) (position : Position)
    : Encodes (room + 1) (.record .position) position.toDocument position := by
  refine Encodes.record .position position
    (fun
      | ⟨0, _⟩ => position.name.map .text
      | ⟨1, _⟩ => some (.natural position.line.toNat)
      | ⟨2, _⟩ => some (.natural position.column.toNat))
    ?_ ?_
  · cases position.name <;> rfl
  · intro i
    match i with
    | ⟨0, _⟩ => exact EncodesField.optionalText room position.name
    | ⟨1, _⟩ => exact .size position.line
    | ⟨2, _⟩ => exact .size position.column

theorem Parameter.encodes (room : Nat) (parameter : Parameter)
    : Encodes (room + 2) (.record .parameter) parameter.toDocument parameter :=
  .record .parameter parameter
    (fun
      | ⟨0, _⟩ => some (.text parameter.name)
      | ⟨1, _⟩ => some (.text parameter.value)
      | ⟨2, _⟩ => some parameter.position.toDocument)
    rfl
    fun
      | ⟨0, _⟩ => .text parameter.name
      | ⟨1, _⟩ => .text parameter.value
      | ⟨2, _⟩ => parameter.position.encodes room

theorem Attribute.encodes (room : Nat) (attr : Attribute)
    : Encodes (room + 4) (.record .attributeUse) attr.toDocument attr :=
  .record .attributeUse attr
    (fun
      | ⟨0, _⟩ => some (.text attr.name)
      | ⟨1, _⟩ => some (.list (attr.parameters.map Parameter.toDocument))
      | ⟨2, _⟩ => some attr.position.toDocument)
    rfl
    fun
      | ⟨0, _⟩ => .text attr.name
      | ⟨1, _⟩ => .list (.record .parameter) (Parameter.encodes room) attr.parameters
      | ⟨2, _⟩ => attr.position.encodes (room + 2)

/-- The attributes of a declaration are written in one list. -/
theorem Declaration.encodes_attributes (room : Nat) (declaration : Declaration)
    : Encodes (room + 5) (.list (.record .attributeUse))
        (.list (declaration.attributes.map Attribute.toDocument)) declaration.attributes :=
  .list (.record .attributeUse) (Attribute.encodes room) declaration.attributes

theorem Declaration.encodes_enumValue (room : Nat) (value : Declaration)
    : Encodes (room + 6) (.record .enumValue) value.toDocument value :=
  .record .enumValue value
    (fun
      | ⟨0, _⟩ => some (.text value.name)
      | ⟨1, _⟩ => some (.list (value.attributes.map Attribute.toDocument))
      | ⟨2, _⟩ => some value.position.toDocument)
    rfl
    fun
      | ⟨0, _⟩ => .text value.name
      | ⟨1, _⟩ => value.encodes_attributes room
      | ⟨2, _⟩ => value.position.encodes (room + 4)

theorem Declaration.encodes_errorCase (room : Nat) (error : Declaration)
    : Encodes (room + 6) (.record .errorCase) error.toDocument error :=
  .record .errorCase error
    (fun
      | ⟨0, _⟩ => some (.text error.name)
      | ⟨1, _⟩ => some (.list (error.attributes.map Attribute.toDocument))
      | ⟨2, _⟩ => some error.position.toDocument)
    rfl
    fun
      | ⟨0, _⟩ => .text error.name
      | ⟨1, _⟩ => error.encodes_attributes room
      | ⟨2, _⟩ => error.position.encodes (room + 4)

theorem Field.encodes (room : Nat) (field : Field)
    : Encodes (room + 6) (.record .field) field.toDocument field := by
  refine .record .field field
    (fun
      | ⟨0, _⟩ => some (.text field.name)
      | ⟨1, _⟩ => field.typeName.map .text
      | ⟨2, _⟩ => some (.list (field.attributes.map Attribute.toDocument))
      | ⟨3, _⟩ => some field.position.toDocument)
    ?_ ?_
  · cases field.typeName <;> rfl
  · intro i
    match i with
    | ⟨0, _⟩ => exact .text field.name
    | ⟨1, _⟩ => exact EncodesField.optionalText (room + 5) field.typeName
    | ⟨2, _⟩ => exact field.encodes_attributes room
    | ⟨3, _⟩ => exact field.position.encodes (room + 4)

/-- The fields of one list of a member. -/
theorem Field.encodes_list (room : Nat) (fields : List Field)
    : Encodes (room + 7) (.list (.record .field)) (.list (fields.map Field.toDocument)) fields :=
  .list (.record .field) (Field.encodes room) fields

theorem Method.encodes (room : Nat) (method : Method)
    : Encodes (room + 8) (.record .method) method.toDocument method :=
  .record .method method
    (fun
      | ⟨0, _⟩ => some (.text method.name)
      | ⟨1, _⟩ => some (.list (method.requestFields.map Field.toDocument))
      | ⟨2, _⟩ => some (.list (method.responseFields.map Field.toDocument))
      | ⟨3, _⟩ => some (.list (method.attributes.map Attribute.toDocument))
      | ⟨4, _⟩ => some method.position.toDocument)
    rfl
    fun
      | ⟨0, _⟩ => .text method.name
      | ⟨1, _⟩ => Field.encodes_list room method.requestFields
      | ⟨2, _⟩ => Field.encodes_list room method.responseFields
      | ⟨3, _⟩ => method.encodes_attributes (room + 2)
      | ⟨4, _⟩ => method.position.encodes (room + 6)

theorem DataObject.encodes (room : Nat) (dataObject : DataObject)
    : Encodes (room + 8) (.record .dataObject) dataObject.toDocument dataObject :=
  .record .dataObject dataObject
    (fun
      | ⟨0, _⟩ => some (.text dataObject.name)
      | ⟨1, _⟩ => some (.list (dataObject.fields.map Field.toDocument))
      | ⟨2, _⟩ => some (.list (dataObject.attributes.map Attribute.toDocument))
      | ⟨3, _⟩ => some dataObject.position.toDocument)
    rfl
    fun
      | ⟨0, _⟩ => .text dataObject.name
      | ⟨1, _⟩ => Field.encodes_list room dataObject.fields
      | ⟨2, _⟩ => dataObject.encodes_attributes (room + 2)
      | ⟨3, _⟩ => dataObject.position.encodes (room + 6)

theorem Enumeration.encodes (room : Nat) (enumeration : Enumeration)
    : Encodes (room + 8) (.record .enumeration) enumeration.toDocument enumeration :=
  .record .enumeration enumeration
    (fun
      | ⟨0, _⟩ => some (.text enumeration.name)
      | ⟨1, _⟩ => some (.list (enumeration.values.map Declaration.toDocument))
      | ⟨2, _⟩ => some (.list (enumeration.attributes.map Attribute.toDocument))
      | ⟨3, _⟩ => some enumeration.position.toDocument)
    rfl
    fun
      | ⟨0, _⟩ => .text enumeration.name
      | ⟨1, _⟩ =>
          .list (.record .enumValue) (Declaration.encodes_enumValue room) enumeration.values
      | ⟨2, _⟩ => enumeration.encodes_attributes (room + 2)
      | ⟨3, _⟩ => enumeration.position.encodes (room + 6)

theorem ErrorSet.encodes (room : Nat) (errorSet : ErrorSet)
    : Encodes (room + 8) (.record .errorSet) errorSet.toDocument errorSet :=
  .record .errorSet errorSet
    (fun
      | ⟨0, _⟩ => some (.text errorSet.name)
      | ⟨1, _⟩ => some (.list (errorSet.errors.map Declaration.toDocument))
      | ⟨2, _⟩ => some (.list (errorSet.attributes.map Attribute.toDocument))
      | ⟨3, _⟩ => some errorSet.position.toDocument)
    rfl
    fun
      | ⟨0, _⟩ => .text errorSet.name
      | ⟨1, _⟩ =>
          .list (.record .errorCase) (Declaration.encodes_errorCase room) errorSet.errors
      | ⟨2, _⟩ => errorSet.encodes_attributes (room + 2)
      | ⟨3, _⟩ => errorSet.position.encodes (room + 6)

/-- A member is written as its record with its kind before the other entries. -/
theorem Encodes.member {room : Nat} (kind : MemberKind) {entries : List (String × Document)}
    {value : kind.record.Value}
    (record : Encodes room (.record kind.record) (.record entries) value)
    (untagged : ∀ entry ∈ entries, entry.1 ≠ kindKey)
    : Encodes room .member (Member.toDocument.tagged kind.tag entries) (kind.wrap value) := by
  refine ⟨.member [] entries untagged record.represents, ?_⟩
  cases record.within with
  | record each => exact .record (List.forall_mem_cons.mpr ⟨.text kind.tag, each⟩)

/-- A member is written by cases on its kind; of an unrecognized one only that is left. -/
theorem Member.encodes (room : Nat) (member : Member)
    : Encodes (room + 8) .member member.toDocument member := by
  cases member with
  | method m =>
      refine .member .method (m.encodes room) ?_
      simp [Method.entries, Declaration.closingEntries, kindKey]
  | dataObject d =>
      refine .member .dataObject (d.encodes room) ?_
      simp [DataObject.entries, Declaration.closingEntries, kindKey]
  | enumeration e =>
      refine .member .enumeration (e.encodes room) ?_
      simp [Enumeration.entries, Declaration.closingEntries, kindKey]
  | errorSet s =>
      refine .member .errorSet (s.encodes room) ?_
      simp [ErrorSet.entries, Declaration.closingEntries, kindKey]
  | unrecognized =>
      refine ⟨.unrecognized [] [] (fun _ listed => nomatch listed) (by decide), .record ?_⟩
      exact List.forall_mem_singleton.mpr (.text "unrecognized")

/-- A service is written with at most ten open brackets around any part. -/
theorem Service.encodes (room : Nat) (service : Service)
    : Encodes (room + 10) (.record .service) service.toDocument service :=
  .record .service service
    (fun
      | ⟨0, _⟩ => some (.text service.name)
      | ⟨1, _⟩ => some (.list (service.attributes.map Attribute.toDocument))
      | ⟨2, _⟩ => some (.list (service.members.map Member.toDocument))
      | ⟨3, _⟩ => some service.position.toDocument)
    rfl
    fun
      | ⟨0, _⟩ => .text service.name
      | ⟨1, _⟩ => service.encodes_attributes (room + 4)
      | ⟨2, _⟩ => .list .member (Member.encodes room) service.members
      | ⟨3, _⟩ => service.position.encodes (room + 8)

end SchemaNames
