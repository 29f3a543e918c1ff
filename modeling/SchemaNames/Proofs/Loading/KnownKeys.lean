import SchemaNames.Proofs.Loading.DocumentReading
import SchemaNames.Proofs.Loading.Representation

/-! What the parts of a schema are written with. The keys of every kind of record, those that may
not be left out, what the others come to without an entry, and the words for the kinds of members.
-/

namespace SchemaNames

-----------------------------------------------------------------------------------------
-- Keys of records
-----------------------------------------------------------------------------------------

/-- What a value of a shape comes to when it is left out: an empty list, the origin or no text. -/
def Shape.omitted? : (shape : Shape) → Option shape.Value
  | .list _ => some []
  | .record .position => some { name := none, line := 0, column := 0 }
  | .optionalText => some none
  | _ => none

namespace RecordKind

/-- The keys of the records of a schema in their order, each with the shape of its value. -/
theorem map_fields_eq (kind : RecordKind)
    : let name : String × Shape := ("name", .text)
      let attributes : String × Shape := ("attributes", .list (.record .attributeUse))
      let position : String × Shape := ("position", .record .position)
      kind.fields.map (fun field => (field.key, field.shape))
      = match kind with
        | .service => [name, attributes, ("members", .list .member), position]
        | .method =>
            [name, ("requestFields", .list (.record .field)),
              ("responseFields", .list (.record .field)), attributes, position]
        | .dataObject => [name, ("fields", .list (.record .field)), attributes, position]
        | .enumeration => [name, ("values", .list (.record .enumValue)), attributes, position]
        | .errorSet => [name, ("errors", .list (.record .errorCase)), attributes, position]
        | .enumValue | .errorCase => [name, attributes, position]
        | .field => [name, ("typeName", .optionalText), attributes, position]
        | .attributeUse => [name, ("parameters", .list (.record .parameter)), position]
        | .parameter => [name, ("value", .text), position]
        | .position => [("name", .optionalText), ("line", .size), ("column", .size)]
        | .options =>
            [("language", .text), ("requestSuffix", .text), ("responseSuffix", .text)] := by
  cases kind <;> rfl

/-- A field that is left out comes to what its shape says, whatever record it stands in; settings
have fallbacks of their own.
-/
theorem fallback_eq_omitted? {kind : RecordKind} (notOptions : kind ≠ .options)
    (i : Fin kind.arity)
    : kind.fallback i = (kind.shape i).omitted? := by
  have each : ∀ field ∈ kind.fields, field.fallback = field.shape.omitted? := by
    cases kind with
    | options => exact absurd rfl notOptions
    | _ =>
        simp [fields, Shape.omitted?, FieldFormat.name, FieldFormat.required,
          FieldFormat.attributes, FieldFormat.listOf, FieldFormat.position, FieldFormat.optional]
  exact each _ (List.get_mem kind.fields i)

/-- (kind.Requires key) says that a record may not leave out a key: the name of any part but a
place, the value of a parameter, or the line or the column of a place.
-/
def Requires (kind : RecordKind) (key : String) : Prop :=
  key = "name" ∧ kind ≠ .position ∨ key ∈ ["value", "line", "column"]

instance (kind : RecordKind) (key : String) : Decidable (kind.Requires key) :=
  inferInstanceAs (Decidable (_ ∨ _))

/-- The fields without fallback are those that a record may not leave out, by cases on the kind. -/
theorem fallback_eq_none_iff {kind : RecordKind} {i : Fin kind.arity}
    : kind.fallback i = none ↔ kind.Requires (kind.key i) := by
  revert i
  cases kind <;> decide

end RecordKind

/-- A record that represents a part of a schema leaves out no key that it may not, and a field
without entry has the value that its shape says.
-/
theorem Represents.omitted_of_record {kind : RecordKind} (notOptions : kind ≠ .options)
    {entries : List (String × Document)} {value : kind.Value}
    (represents : Represents (.record kind) (.record entries) value)
    : ∃ values,
        value = kind.build values
        ∧ ∀ i,
            kind.key i ∉ entries.map (·.1)
            → ¬ kind.Requires (kind.key i) ∧ (kind.shape i).omitted? = some (values i) := by
  cases represents with
  | @record _ _ values _ _ omitted =>
      refine ⟨values, rfl, fun i absent => ?_⟩
      have fallsBack := omitted i absent
      constructor
      · intro required
        rw [RecordKind.fallback_eq_none_iff.mpr required] at fallsBack
        cases fallsBack
      · rw [← RecordKind.fallback_eq_omitted? notOptions, fallsBack]

-----------------------------------------------------------------------------------------
-- Kinds of members
-----------------------------------------------------------------------------------------

namespace MemberKind

/-- The words for the kinds of members, by cases on the kind. -/
theorem ofTag?_eq_some_iff {word : String} {kind : MemberKind}
    : ofTag? word = some kind
      ↔ (word, kind)
        ∈ [("method", .method), ("dto", .dataObject), ("enum", .enumeration),
          ("errorSet", .errorSet)] := by
  constructor
  · intro named
    obtain rfl := tag_of_ofTag? named
    cases kind <;> decide
  · intro listed
    have words : word = kind.tag := by
      cases kind <;> simpa [tag] using listed
    rw [words, ofTag?_tag]

/-- Any other word names no kind. -/
theorem ofTag?_eq_none_iff {word : String}
    : ofTag? word = none ↔ word ∉ ["method", "dto", "enum", "errorSet"] := by
  simp only [ofTag?, List.find?_eq_none, decide_eq_true_eq, List.mem_cons, List.not_mem_nil,
    or_false, forall_eq_or_imp, forall_eq, not_or]
  simp only [tag, @eq_comm _ word]

end MemberKind

/-- A record that represents a member has its kind in exactly one entry, under `kind`. The member
is of the kind that the word there names, and unrecognized if it names none.
-/
theorem Represents.exists_kind_of_member {entries : List (String × Document)} {member : Member}
    (represents : Represents .member (.record entries) member)
    : ∃ before word after,
        entries = before ++ ("kind", .text word) :: after
        ∧ (∀ entry ∈ before ++ after, entry.1 ≠ "kind")
        ∧ ((∃ kind value,
              (word, kind)
                ∈ [("method", MemberKind.method), ("dto", .dataObject), ("enum", .enumeration),
                  ("errorSet", .errorSet)]
              ∧ member = kind.wrap value)
          ∨ word ∉ ["method", "dto", "enum", "errorSet"] ∧ member = .unrecognized) := by
  cases represents with
  | @member kind before after value untagged =>
      have named := MemberKind.ofTag?_eq_some_iff.mp kind.ofTag?_tag
      exact ⟨before, kind.tag, after, rfl, untagged, .inl ⟨kind, value, named, rfl⟩⟩
  | @unrecognized word before after untagged unknown =>
      have unnamed := MemberKind.ofTag?_eq_none_iff.mp unknown
      exact ⟨before, word, after, rfl, untagged, .inr ⟨unnamed, rfl⟩⟩

end SchemaNames
