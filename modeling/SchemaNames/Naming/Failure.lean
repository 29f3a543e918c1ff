import SchemaNames.Naming.ValidationError

/-! Why no names are given: the schema is invalid, has a member that is not recognized, or could
not be loaded, or the names could not be written.
-/

namespace SchemaNames

inductive Failure where
  | invalid (errors : List ValidationError)
  /-- The member at an index of a service is not recognized. -/
  | unrecognizedMember (service : String) (index : Nat)
  | model (text : String)
  | output (text : String)
deriving DecidableEq

namespace Failure

/-- The first error and how many follow it. -/
def summarize : List ValidationError → String
  | [] => "no errors"
  | [error] => error.display
  | error :: rest =>
      error.display ++ " (and " ++ String.ofList (Numeric.decimal rest.length) ++ " more)"

def display : Failure → String
  | .invalid errors => "invalid service definition: " ++ summarize errors
  | .unrecognizedMember service index =>
      "internal consistency error: unrecognized kind for member #"
        ++ String.ofList (Numeric.decimal index) ++ " of '" ++ service ++ "'"
  | .model text => "model error: " ++ text
  | .output text => "serialization error: " ++ text

/-- The errors of an invalid schema; no other failure has any. -/
def validationErrors : Failure → List ValidationError
  | .invalid errors => errors
  | _ => []

end Failure

end SchemaNames
