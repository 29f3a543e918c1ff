import SchemaNames.Schema.Element

/-! What is reported about a schema. Each error is of one of four kinds and points to a place;
its message names the element that it is about.
-/

namespace SchemaNames

namespace ValidationError

inductive Kind where
  | unexpectedAttribute
  | unexpectedParameter
  | duplicateAttribute
  | duplicateGeneratedType
deriving DecidableEq

/-- The word for a kind in a document. -/
def Kind.tag : Kind → String
  | .unexpectedAttribute => "unexpected_attribute"
  | .unexpectedParameter => "unexpected_parameter"
  | .duplicateAttribute => "duplicate_attribute"
  | .duplicateGeneratedType => "duplicate_generated_type"

end ValidationError

structure ValidationError where
  kind : ValidationError.Kind
  message : String
  position : Position
deriving DecidableEq

namespace ValidationError

/-- An attribute on an element that takes none. -/
def unexpectedAttribute (element : Element) (attr : Attribute) : ValidationError :=
  { kind := .unexpectedAttribute
    message := "unexpected '" ++ attr.name ++ "' attribute on " ++ element.describe
    position := attr.position }

/-- A parameter that the element does not know. -/
def unexpectedParameter (element : Element) (attr : Attribute) (parameter : Parameter)
    : ValidationError :=
  { kind := .unexpectedParameter
    message :=
      "unexpected '" ++ attr.name ++ "' parameter '" ++ parameter.name ++ "' on "
        ++ element.describe
    position := parameter.position }

/-- A second attribute of one tag on one element. -/
def duplicateAttribute (element : Element) (attr : Attribute) : ValidationError :=
  { kind := .duplicateAttribute
    message := "duplicate '" ++ attr.name ++ "' attribute on " ++ element.describe
    position := attr.position }

/-- A generated name that is taken; the earlier spelling is told if it is another one. -/
def duplicateGeneratedType (element : Element) (name existing : String) : ValidationError :=
  { kind := .duplicateGeneratedType
    message :=
      "duplicate generated type '" ++ name ++ "' for " ++ element.describe
        ++ (if existing = name then "" else " (conflicts with '" ++ existing ++ "')")
    position := element.position }

/-- The place and the message. -/
def display (error : ValidationError) : String :=
  error.position.display ++ ": " ++ error.message

def toDocument (error : ValidationError) : Document :=
  .record
    [("kind", .text error.kind.tag), ("message", .text error.message),
      ("position", error.position.toDocument)]

end ValidationError

end SchemaNames
