import SchemaNames.Schema.Service

/-! The elements of a service: everything that carries attributes. They are the service itself
and, member by member, the member followed by its children.
-/

namespace SchemaNames

inductive ElementKind where
  | service
  | method
  | dataObject
  | enumeration
  | enumValue
  | errorSet
  | errorCase
  | field
deriving DecidableEq

/-- The noun for an element in a message. -/
def ElementKind.describe : ElementKind → String
  | .service => "service"
  | .method => "method"
  | .dataObject => "data object"
  | .enumeration => "enumeration"
  | .enumValue => "enumeration value"
  | .errorSet => "error set"
  | .errorCase => "error"
  | .field => "field"

/-- A declaration together with what it declares. -/
structure Element extends Declaration where
  kind : ElementKind
deriving DecidableEq

/-- The noun and the name of an element in a message. -/
def Element.describe (element : Element) : String :=
  element.kind.describe ++ " '" ++ element.name ++ "'"

def Declaration.element (declaration : Declaration) (kind : ElementKind) : Element :=
  { declaration with kind }

def Service.element (service : Service) : Element :=
  service.toDeclaration.element .service

def Field.element (field : Field) : Element :=
  field.toDeclaration.element .field

/-- The member as an element; an unrecognized one is none. -/
def Member.element? : Member → Option Element
  | .method m => some (m.toDeclaration.element .method)
  | .dataObject d => some (d.toDeclaration.element .dataObject)
  | .enumeration e => some (e.toDeclaration.element .enumeration)
  | .errorSet s => some (s.toDeclaration.element .errorSet)
  | .unrecognized => none

/-- The list of a member in which a child stands. -/
inductive ChildGroup where
  | request
  | response
  | fields
  | values
  | errors
deriving DecidableEq

/-- Where an element stands in its service. -/
inductive ElementAddress where
  | service
  | member (index : Nat)
  | child (member : Nat) (group : ChildGroup) (index : Nat)
deriving DecidableEq

/-- An element with its place in the service. -/
structure PlacedElement where
  address : ElementAddress
  element : Element

/-- The elements of one list of a member. -/
def placeChildren (member : Nat) (group : ChildGroup) (elements : List Element)
    : List PlacedElement :=
  elements.mapIdx fun index element => { address := .child member group index, element }

/-- The children of the member at an index. -/
def Member.children (index : Nat) : Member → List PlacedElement
  | .method m =>
      placeChildren index .request (m.requestFields.map Field.element)
        ++ placeChildren index .response (m.responseFields.map Field.element)
  | .dataObject d =>
      placeChildren index .fields (d.fields.map Field.element)
  | .enumeration e =>
      placeChildren index .values (e.values.map (·.element .enumValue))
  | .errorSet s =>
      placeChildren index .errors (s.errors.map (·.element .errorCase))
  | .unrecognized => []

/-- The member at an index and its children. -/
def Member.elements (index : Nat) (member : Member) : List PlacedElement :=
  match member.element? with
  | some element => { address := .member index, element } :: member.children index
  | none => []

/-- Every element of a service, unrecognized members left out but counted. -/
def Service.elements (service : Service) : List PlacedElement :=
  { address := .service, element := service.element }
    :: (service.members.mapIdx Member.elements).flatten

/-- The element at an address. -/
def Service.element? (service : Service) (address : ElementAddress) : Option Element :=
  (service.elements.find? (·.address = address)).map (·.element)

end SchemaNames
