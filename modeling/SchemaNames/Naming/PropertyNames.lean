import SchemaNames.Schema.FieldRef

/-! Property names by field. There is at most one name for a field, and the names are listed in
the order of the fields.
-/

namespace SchemaNames

structure PropertyNames where
  entries : List (FieldId × String) := []
deriving DecidableEq

namespace PropertyNames

/-- Puts an entry in its place, where it takes the place of an entry of the same field. -/
def insertEntry (id : FieldId) (name : String)
    : List (FieldId × String) → List (FieldId × String)
  | [] => [(id, name)]
  | (other, otherName) :: rest =>
      match compare id other with
      | .lt => (id, name) :: (other, otherName) :: rest
      | .eq => (id, name) :: rest
      | .gt => (other, otherName) :: insertEntry id name rest

/-- Names a field. -/
def insert (names : PropertyNames) (id : FieldId) (name : String) : PropertyNames :=
  { entries := insertEntry id name names.entries }

/-- The name of a field, if it has one. -/
def find? (names : PropertyNames) (id : FieldId) : Option String :=
  (names.entries.find? fun entry => compare entry.1 id = .eq).map (·.2)

/-- Every name with the path and the identity of its field. -/
def toDocument (names : PropertyNames) : Document :=
  .list (names.entries.map fun (id, name) =>
    .record [("path", .text id.path), ("field", id.toDocument), ("name", .text name)])

end PropertyNames

end SchemaNames
