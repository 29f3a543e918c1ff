import SchemaNames.Schema.Service

/-! References to the fields of a service. A field is identified by where it stands, and its
identity also carries the names that are shown; identities are ordered as the fields stand.
-/

namespace SchemaNames

/-- The list of a member in which a field stands. -/
inductive FieldGroup where
  | request
  | response
  | dataObject
deriving DecidableEq

namespace FieldGroup

def tag : FieldGroup → String
  | .request => "request"
  | .response => "response"
  | .dataObject => "dto"

/-- The place of a group in the order of groups. -/
def rank : FieldGroup → Nat
  | .request => 0
  | .response => 1
  | .dataObject => 2

end FieldGroup

/-- The identity of a field. -/
structure FieldId where
  member : Nat
  group : FieldGroup
  index : Nat
  owner : String
  field : String
deriving DecidableEq

namespace FieldId

/-- The names on the way to a field. -/
def path (id : FieldId) : String :=
  match id.group with
  | .request => id.owner ++ ".request." ++ id.field
  | .response => id.owner ++ ".response." ++ id.field
  | .dataObject => id.owner ++ "." ++ id.field

/-- The order by member, group, index, owner and field name. -/
def compare (a b : FieldId) : Ordering :=
  (Ord.compare a.member b.member).then
    ((Ord.compare a.group.rank b.group.rank).then
      ((Ord.compare a.index b.index).then
        ((Ord.compare a.owner b.owner).then (Ord.compare a.field b.field))))

instance : Ord FieldId := ⟨compare⟩

def toDocument (id : FieldId) : Document :=
  .record
    [("member", .natural id.member), ("group", .text id.group.tag),
      ("index", .natural id.index), ("owner", .text id.owner), ("field", .text id.field)]

end FieldId

/-- A field with its identity. -/
structure FieldRef where
  id : FieldId
  field : Field
deriving DecidableEq

/-- References to the fields of one list of a member. -/
def fieldRefs (member : Nat) (group : FieldGroup) (owner : String) (fields : List Field)
    : List FieldRef :=
  fields.mapIdx fun index field =>
    { id := { member, group, index, owner, field := field.name }, field }

/-- The fields of a member that stands at an index; of a method first those of the request. -/
def Member.fields (index : Nat) : Member → List FieldRef
  | .method m =>
      fieldRefs index .request m.name m.requestFields
        ++ fieldRefs index .response m.name m.responseFields
  | .dataObject d =>
      fieldRefs index .dataObject d.name d.fields
  | .enumeration _ => []
  | .errorSet _ => []
  | .unrecognized => []

/-- Every field of a service, in the order of declaration. -/
def Service.fields (service : Service) : List FieldRef :=
  (service.members.mapIdx Member.fields).flatten

end SchemaNames
