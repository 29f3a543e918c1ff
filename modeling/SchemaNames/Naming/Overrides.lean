import SchemaNames.Naming.Override
import SchemaNames.Naming.PropertyNames

/-! The overrides of a whole service. The service and then member after member is looked at: the
member itself, its fields, and the values or errors that it lists.
-/

namespace SchemaNames

structure Overrides where
  serviceNamespace : Option String
  propertyNames : PropertyNames
deriving DecidableEq

/-- The namespace that an override gives. -/
def Override.serviceNamespace? : Override → Option String
  | .serviceNamespace name => some name
  | .propertyName _ => none

/-- The property name that an override gives. -/
def Override.propertyName? : Override → Option String
  | .serviceNamespace _ => none
  | .propertyName name => some name

/-- What the attributes of a tag on a field come to. -/
def FieldRef.report (ref : FieldRef) (tag : String) : ElementReport :=
  ref.field.element.decode tag

/-- The property names with those that the attributes of one more field give. -/
def PropertyNames.addField (tag : String) (names : PropertyNames) (ref : FieldRef)
    : PropertyNames :=
  ((ref.report tag).overrides.filterMap (·.value.propertyName?)).foldl
    (fun names name => names.insert ref.id name) names

/-- The values of an enumeration or the errors of an error set. -/
def Member.cases : Member → List Element
  | .enumeration e => e.values.map (·.element .enumValue)
  | .errorSet s => s.errors.map (·.element .errorCase)
  | _ => []

/-- What is reported about the attributes of a member that stands at an index. -/
def Member.attributeErrors (tag : String) (index : Nat) (member : Member)
    : List ValidationError :=
  match member.element? with
  | none => []
  | some element =>
      (element.decode tag).errors
        ++ (member.fields index).flatMap (fun ref => (ref.report tag).errors)
        ++ member.cases.flatMap (fun element => (element.decode tag).errors)

namespace Service

/-- What is reported about the attributes of a tag. -/
def attributeErrors (service : Service) (tag : String) : List ValidationError :=
  (service.element.decode tag).errors
    ++ (service.members.mapIdx (Member.attributeErrors tag)).flatten

/-- The overrides that the attributes of a tag give. -/
def overrides (service : Service) (tag : String) : Overrides :=
  { serviceNamespace :=
      ((service.element.decode tag).overrides.filterMap (·.value.serviceNamespace?)).head?
    propertyNames := service.fields.foldl (PropertyNames.addField tag) {} }

end Service

end SchemaNames
