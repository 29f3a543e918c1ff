import SchemaNames.Naming.Options
import SchemaNames.Schema.Service
import SchemaNames.Text.Case

/-! Default names of generated code. Every name is a schema name with its first character in
upper case; the two types of a method also take the configured suffixes.
-/

namespace SchemaNames

/-- The name of the root type of a service. -/
def Service.typeName (service : Service) : String :=
  Text.capitalize service.name

/-- The namespace of the code of a service, unless it is overridden. -/
def Service.defaultNamespace (service : Service) : String :=
  Text.capitalize service.name

/-- The name of the property of a field, unless it is overridden. -/
def defaultPropertyName (fieldName : String) : String :=
  Text.capitalize fieldName

/-- The names of the request type and the response type of a method. -/
def methodTypeNames (methodName : String) (options : Options) : List String :=
  [Text.capitalize methodName ++ options.requestSuffix,
    Text.capitalize methodName ++ options.responseSuffix]

/-- The names of the types of a member; an unrecognized one has none. -/
def Member.typeNames? (options : Options) : Member → Option (List String)
  | .method m => some (methodTypeNames m.name options)
  | .dataObject d => some [Text.capitalize d.name]
  | .enumeration e => some [Text.capitalize e.name]
  | .errorSet s => some [Text.capitalize s.name]
  | .unrecognized => none

end SchemaNames
