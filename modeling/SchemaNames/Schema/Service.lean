import SchemaNames.Schema.Declaration

/-! Service schemas. A service has members of four kinds, and a member of any other kind is
kept as unrecognized.
-/

namespace SchemaNames

/-- A field of a request, a response or a data object. -/
structure Field extends Declaration where
  typeName : Option String := none
deriving DecidableEq

structure Method extends Declaration where
  requestFields : List Field := []
  responseFields : List Field := []
deriving DecidableEq

structure DataObject extends Declaration where
  fields : List Field := []
deriving DecidableEq

structure Enumeration extends Declaration where
  values : List Declaration := []
deriving DecidableEq

structure ErrorSet extends Declaration where
  errors : List Declaration := []
deriving DecidableEq

inductive Member where
  | method (method : Method)
  | dataObject (dataObject : DataObject)
  | enumeration (enumeration : Enumeration)
  | errorSet (errorSet : ErrorSet)
  | unrecognized
deriving DecidableEq

structure Service extends Declaration where
  members : List Member := []
deriving DecidableEq

/-- The service with one more member at the end. -/
def Service.withMember (service : Service) (member : Member) : Service :=
  { service with members := service.members ++ [member] }

/-- The service with one more attribute at the end. -/
def Service.withAttribute (service : Service) (attr : Attribute) : Service :=
  { service with attributes := service.attributes ++ [attr] }

end SchemaNames
