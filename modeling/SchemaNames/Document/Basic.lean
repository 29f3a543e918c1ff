/-! Documents: the values that a JSON text denotes. A record keeps its entries in the order of
the text, repeated keys included.
-/

namespace SchemaNames

/-- A value without parts that is not text. -/
inductive Scalar where
  | null
  | boolean (value : Bool)
  | integer (value : Int)
  | float (value : Float)

inductive Document where
  | scalar (value : Scalar)
  | text (content : String)
  | list (items : List Document)
  | record (entries : List (String × Document))

namespace Document

def null : Document := .scalar .null
def boolean (value : Bool) : Document := .scalar (.boolean value)
def integer (value : Int) : Document := .scalar (.integer value)
def natural (value : Nat) : Document := .scalar (.integer value)

/-- The text that is there, or null. -/
def optionalText : Option String → Document
  | some content => .text content
  | none => null

end Document

end SchemaNames
