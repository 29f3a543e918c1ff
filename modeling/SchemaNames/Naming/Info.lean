import SchemaNames.Document.Write
import SchemaNames.Naming.Collisions
import SchemaNames.Naming.Overrides

/-! The names of the generated code of a service. They are given together with everything that
was reported about the schema, or, strictly, only if nothing was.
-/

namespace SchemaNames

/-- The names of generated code; property names are kept only where they are overridden. -/
structure NamingInfo where
  language : String
  /-- The namespace of the code, whether overridden or not. -/
  effectiveNamespace : String
  namespaceOverride : Option String
  propertyNames : PropertyNames
  typeNames : List String
deriving DecidableEq

namespace NamingInfo

/-- The property name that overrides the one of a field. -/
def propertyNameOverride (info : NamingInfo) (id : FieldId) : Option String :=
  info.propertyNames.find? id

/-- The property name of a field. -/
def propertyName (info : NamingInfo) (ref : FieldRef) : String :=
  (info.propertyNameOverride ref.id).getD (defaultPropertyName ref.field.name)

def toDocument (info : NamingInfo) : Document :=
  .record
    ([("language", .text info.language), ("namespace", .text info.effectiveNamespace)]
      ++ (match info.namespaceOverride with
        | some name => [("namespaceOverride", .text name)]
        | none => [])
      ++ [("propertyNames", info.propertyNames.toDocument),
        ("typeNames", .list (info.typeNames.map .text))])

end NamingInfo

/-- Names together with what was reported about the schema. -/
structure NamingOutcome where
  info : NamingInfo
  errors : List ValidationError
deriving DecidableEq

namespace NamingOutcome

/-- Holds when nothing was reported. -/
def isValid (outcome : NamingOutcome) : Bool :=
  outcome.errors.isEmpty

/-- The names of a valid schema. -/
def toResult (outcome : NamingOutcome) : Except Failure NamingInfo :=
  if outcome.isValid then .ok outcome.info else .error (.invalid outcome.errors)

def toDocument (outcome : NamingOutcome) : Document :=
  .record
    [("info", outcome.info.toDocument),
      ("errors", .list (outcome.errors.map ValidationError.toDocument))]

/-- The outcome as text, over several lines if it is to be pretty. -/
def toText (outcome : NamingOutcome) (pretty : Bool) : String :=
  if pretty then outcome.toDocument.indented else outcome.toDocument.compact

end NamingOutcome

namespace Service

/-- The names of a service with everything that is reported about it: first the attributes and
then the collisions. Only a member that is not recognized makes this fail. -/
def tryResolve (service : Service) (options : Options) : Except Failure NamingOutcome := do
  let overrides := service.overrides options.language
  let collisions := service.collisions options
  let typeNames ← collisions.typeNames
  return {
    info :=
      { language := options.language
        effectiveNamespace := overrides.serviceNamespace.getD service.defaultNamespace
        namespaceOverride := overrides.serviceNamespace
        propertyNames := overrides.propertyNames
        typeNames }
    errors := service.attributeErrors options.language ++ collisions.errors }

/-- The names of a service about which nothing is reported. -/
def resolve (service : Service) (options : Options) : Except Failure NamingInfo := do
  let outcome ← service.tryResolve options
  outcome.toResult

end Service

end SchemaNames
