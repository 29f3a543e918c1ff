import SchemaNames.Document.Fault
import SchemaNames.Document.Write
import SchemaNames.Loading.Format
import SchemaNames.Text.Diagnostic

/-! Why a text cannot be loaded: it is no document, or the document has not the expected shape.
-/

namespace SchemaNames

/-- What a document has where something else is expected. -/
inductive Found where
  | scalar (value : Scalar)
  | text (content : String)
  | list
  | record

/-- What is expected. -/
inductive Expected where
  | text
  | list
  | size
  | record (kind : RecordKind)
  | member
  | memberKind

inductive Problem where
  | malformed (fault : Fault)
  | wrongType (found : Found) (expected : Expected)
  /-- A number that is of the expected type but out of its range. -/
  | wrongValue (found : Found) (expected : Expected)
  | missingField (key : String)
  | duplicateField (key : String)
  /-- A list of so many values lacks the required field that comes next. -/
  | shortList (length : Nat) (kind : RecordKind)
  /-- A list of so many values has more than were expected. -/
  | longList (length : Nat) (expected : Nat)

/-- A number in a message. -/
def countText (n : Nat) : String :=
  String.ofList (Numeric.decimal n)

def Scalar.describe : Scalar → String
  | .null => "null"
  | .boolean value => "boolean `" ++ String.ofList (Scalar.boolean value).write ++ "`"
  | .integer value => "integer `" ++ String.ofList (Scalar.integer value).write ++ "`"
  | .float value => "floating point `" ++ String.ofList (Scalar.float value).write ++ "`"

def Found.describe : Found → String
  | .scalar value => value.describe
  | .text content => "string " ++ Text.showText content
  | .list => "sequence"
  | .record => "map"

def Expected.describe : Expected → String
  | .text => "a string"
  | .list => "a sequence"
  | .size => "usize"
  | .record kind => "struct " ++ kind.title
  | .member => "internally tagged enum ServiceMember"
  | .memberKind => "variant identifier"

def Problem.message : Problem → String
  | .malformed fault => fault.message
  | .wrongType found expected =>
      "invalid type: " ++ found.describe ++ ", expected " ++ expected.describe
  | .wrongValue found expected =>
      "invalid value: " ++ found.describe ++ ", expected " ++ expected.describe
  | .missingField key => "missing field `" ++ key ++ "`"
  | .duplicateField key => "duplicate field `" ++ key ++ "`"
  | .shortList length kind =>
      "invalid length " ++ countText length ++ ", expected " ++ (Expected.record kind).describe
        ++ " with " ++ countText kind.arity ++ " elements"
  | .longList length expected =>
      "invalid length " ++ countText length ++ ", expected " ++ countText expected
        ++ " elements in sequence"

/-- A result whose faults are problems. -/
def orMalformed {α : Type} (result : Except Fault α) : Except Problem α :=
  result.mapError .malformed

end SchemaNames
