import SchemaNames.Naming.ValidationError

/-! Overrides of names by attributes. Of the attributes of one tag on an element the first counts
and the second is reported; in it a parameter counts where its name first stands.
-/

namespace SchemaNames

inductive Override where
  /-- The namespace of the code of a service. -/
  | serviceNamespace (name : String)
  /-- The name of the property of a field. -/
  | propertyName (name : String)
deriving DecidableEq

/-- The override that a parameter is on an element; a service knows `namespace` and a field
knows `name`. -/
def Override.decode (kind : ElementKind) (parameter : Parameter) : Option Override :=
  match kind with
  | .service =>
      if parameter.name = "namespace" then some (.serviceNamespace parameter.value) else none
  | .field => if parameter.name = "name" then some (.propertyName parameter.value) else none
  | _ => none

/-- Holds for the elements that know a parameter. -/
def ElementKind.acceptsParameters : ElementKind → Bool
  | .service | .field => true
  | _ => false

/-- Holds for the elements whose parameters are reported one by one; on any other element the
attribute is reported as a whole. -/
def ElementKind.checksParameters : ElementKind → Bool
  | .service | .method | .dataObject | .field => true
  | _ => false

/-- An override with the attribute and the parameter that it comes from. -/
structure DecodedOverride where
  value : Override
  source : Attribute
  parameter : Parameter
deriving DecidableEq

/-- What the attributes of one tag on an element come to. -/
structure ElementReport where
  overrides : List DecodedOverride := []
  errors : List ValidationError := []
deriving DecidableEq

/-- The parameters whose name is neither among the given ones nor stands earlier. -/
def firstUses (seen : List String) : List Parameter → List Parameter
  | [] => []
  | parameter :: rest =>
      if parameter.name ∈ seen then
        firstUses seen rest
      else
        parameter :: firstUses (parameter.name :: seen) rest

namespace Element

/-- What the parameters of an attribute come to. -/
def decodeParameters (element : Element) (attr : Attribute) : ElementReport :=
  let uses := firstUses [] attr.parameters
  { overrides := uses.filterMap fun parameter =>
      (Override.decode element.kind parameter).map fun value =>
        { value, source := attr, parameter }
    errors :=
      (uses.filter fun parameter => (Override.decode element.kind parameter).isNone).map
        (ValidationError.unexpectedParameter element attr) }

/-- What the first attribute of a tag comes to. An element that knows no parameter refuses it
when it has none. -/
def decodeFirst (element : Element) (attr : Attribute) : ElementReport :=
  if element.kind.checksParameters
      && (element.kind.acceptsParameters || !attr.parameters.isEmpty) then
    element.decodeParameters attr
  else
    { errors := [.unexpectedAttribute element attr] }

/-- What the attributes of a tag come to. -/
def decode (element : Element) (tag : String) : ElementReport :=
  match element.attributesTagged tag with
  | [] => {}
  | [first] => element.decodeFirst first
  | first :: second :: _ =>
      let report := element.decodeFirst first
      { report with errors := report.errors ++ [.duplicateAttribute element second] }

end Element

end SchemaNames
