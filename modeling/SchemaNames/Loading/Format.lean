import SchemaNames.Naming.Options
import SchemaNames.Schema.Encode

/-! What a document must look like to be a part of a schema. Every part is a record with known
fields in a fixed order, each with the shape of its value and perhaps a fallback.
-/

namespace SchemaNames

/-- The kinds of records that can be loaded. -/
inductive RecordKind where
  | service
  | method
  | dataObject
  | enumeration
  | enumValue
  | errorSet
  | errorCase
  | field
  | attributeUse
  | parameter
  | position
  | options
deriving DecidableEq

/-- What is expected in one place of a document. -/
inductive Shape where
  | text
  /-- A number of 64 bits. -/
  | size
  /-- A text or null. -/
  | optionalText
  | list (item : Shape)
  | record (kind : RecordKind)
  | member
deriving DecidableEq

/-- What a record of a kind denotes. -/
@[reducible] def RecordKind.Value : RecordKind → Type
  | .service => Service
  | .method => Method
  | .dataObject => DataObject
  | .enumeration => Enumeration
  | .enumValue => Declaration
  | .errorSet => ErrorSet
  | .errorCase => Declaration
  | .field => Field
  | .attributeUse => Attribute
  | .parameter => Parameter
  | .position => Position
  | .options => Options

/-- What a document of a shape denotes. -/
@[reducible] def Shape.Value : Shape → Type
  | .text => String
  | .size => UInt64
  | .optionalText => Option String
  | .list item => List item.Value
  | .record kind => kind.Value
  | .member => Member

/-- A field of a record; one without fallback is required. -/
structure FieldFormat where
  key : String
  shape : Shape
  fallback : Option shape.Value

namespace FieldFormat

def required (key : String) (shape : Shape) : FieldFormat :=
  ⟨key, shape, none⟩

/-- A list that is empty when it is left out. -/
def listOf (key : String) (item : Shape) : FieldFormat :=
  ⟨key, .list item, some []⟩

/-- The name of a part. -/
def name : FieldFormat :=
  required "name" .text

def attributes : FieldFormat :=
  listOf "attributes" (.record .attributeUse)

/-- The place of a part, which is the origin when it is left out. -/
def position : FieldFormat :=
  ⟨"position", .record .position, some {}⟩

/-- A text that is absent when it is left out. -/
def optional (key : String) : FieldFormat :=
  ⟨key, .optionalText, some none⟩

/-- A text with a fallback. -/
def textOr (key : String) (fallback : String) : FieldFormat :=
  ⟨key, .text, some fallback⟩

end FieldFormat

namespace RecordKind

/-- The fields of a record, in the order in which a list gives their values. -/
def fields : RecordKind → List FieldFormat
  | .service => [.name, .attributes, .listOf "members" .member, .position]
  | .method =>
      [.name, .listOf "requestFields" (.record .field), .listOf "responseFields" (.record .field),
        .attributes, .position]
  | .dataObject => [.name, .listOf "fields" (.record .field), .attributes, .position]
  | .enumeration => [.name, .listOf "values" (.record .enumValue), .attributes, .position]
  | .enumValue => [.name, .attributes, .position]
  | .errorSet => [.name, .listOf "errors" (.record .errorCase), .attributes, .position]
  | .errorCase => [.name, .attributes, .position]
  | .field => [.name, .optional "typeName", .attributes, .position]
  | .attributeUse => [.name, .listOf "parameters" (.record .parameter), .position]
  | .parameter => [.name, .required "value" .text, .position]
  | .position => [.optional "name", .required "line" .size, .required "column" .size]
  | .options =>
      let options : Options := {}
      [.textOr "language" options.language, .textOr "requestSuffix" options.requestSuffix,
        .textOr "responseSuffix" options.responseSuffix]

/-- The number of fields. -/
abbrev arity (kind : RecordKind) : Nat :=
  kind.fields.length

/-- The shape of a field. -/
abbrev shape (kind : RecordKind) (i : Fin kind.arity) : Shape :=
  (kind.fields.get i).shape

/-- The field with a key, if there is one. -/
def index? (kind : RecordKind) (key : String) : Option (Fin kind.arity) :=
  kind.fields.findFinIdx? (·.key = key)

/-- A value for every field of a record. -/
abbrev FieldValues (kind : RecordKind) : Type :=
  (i : Fin kind.arity) → (kind.shape i).Value

/-- What a record denotes, given a value for every field. -/
def build : (kind : RecordKind) → kind.FieldValues → kind.Value
  | .service, v =>
      { name := v ⟨0, by decide⟩, attributes := v ⟨1, by decide⟩, members := v ⟨2, by decide⟩,
        position := v ⟨3, by decide⟩ }
  | .method, v =>
      { name := v ⟨0, by decide⟩, requestFields := v ⟨1, by decide⟩,
        responseFields := v ⟨2, by decide⟩, attributes := v ⟨3, by decide⟩,
        position := v ⟨4, by decide⟩ }
  | .dataObject, v =>
      { name := v ⟨0, by decide⟩, fields := v ⟨1, by decide⟩, attributes := v ⟨2, by decide⟩,
        position := v ⟨3, by decide⟩ }
  | .enumeration, v =>
      { name := v ⟨0, by decide⟩, values := v ⟨1, by decide⟩, attributes := v ⟨2, by decide⟩,
        position := v ⟨3, by decide⟩ }
  | .enumValue, v =>
      { name := v ⟨0, by decide⟩, attributes := v ⟨1, by decide⟩, position := v ⟨2, by decide⟩ }
  | .errorSet, v =>
      { name := v ⟨0, by decide⟩, errors := v ⟨1, by decide⟩, attributes := v ⟨2, by decide⟩,
        position := v ⟨3, by decide⟩ }
  | .errorCase, v =>
      { name := v ⟨0, by decide⟩, attributes := v ⟨1, by decide⟩, position := v ⟨2, by decide⟩ }
  | .field, v =>
      { name := v ⟨0, by decide⟩, typeName := v ⟨1, by decide⟩, attributes := v ⟨2, by decide⟩,
        position := v ⟨3, by decide⟩ }
  | .attributeUse, v =>
      { name := v ⟨0, by decide⟩, parameters := v ⟨1, by decide⟩, position := v ⟨2, by decide⟩ }
  | .parameter, v =>
      { name := v ⟨0, by decide⟩, value := v ⟨1, by decide⟩, position := v ⟨2, by decide⟩ }
  | .position, v =>
      { name := v ⟨0, by decide⟩, line := v ⟨1, by decide⟩, column := v ⟨2, by decide⟩ }
  | .options, v =>
      { language := v ⟨0, by decide⟩, requestSuffix := v ⟨1, by decide⟩,
        responseSuffix := v ⟨2, by decide⟩ }

/-- The word for a record in a message. -/
def title : RecordKind → String
  | .service => "ServiceDefinition"
  | .method => "MethodDef"
  | .dataObject => "DtoDef"
  | .enumeration => "EnumDef"
  | .enumValue => "EnumValueDef"
  | .errorSet => "ErrorSetDef"
  | .errorCase => "ErrorDef"
  | .field => "FieldDef"
  | .attributeUse => "AttributeDef"
  | .parameter => "AttributeParameter"
  | .position => "SourcePosition"
  | .options => "NamingOptions"

end RecordKind

namespace MemberKind

/-- The record that a member of a kind is. -/
def record : MemberKind → RecordKind
  | .method => .method
  | .dataObject => .dataObject
  | .enumeration => .enumeration
  | .errorSet => .errorSet

/-- The member that a record is. -/
def wrap : (kind : MemberKind) → kind.record.Value → Member
  | .method, m => .method m
  | .dataObject, d => .dataObject d
  | .enumeration, e => .enumeration e
  | .errorSet, s => .errorSet s

end MemberKind

end SchemaNames
