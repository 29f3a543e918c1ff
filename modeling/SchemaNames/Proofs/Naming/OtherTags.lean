import SchemaNames.Proofs.Naming.MemberOutlines
import SchemaNames.Proofs.Schema.ElementTree

/-! Attributes of other tags. Naming looks at the attributes of one tag only, so that a service
from which all others are deleted has the same outcome, with every position and message.
-/

namespace SchemaNames

-----------------------------------------------------------------------------------------
-- Services without the attributes of other tags
-----------------------------------------------------------------------------------------

/-- The declaration with only its attributes of exactly one tag. -/
def Declaration.restrictedTo (declaration : Declaration) (tag : String) : Declaration :=
  { declaration with attributes := declaration.attributes.filter (·.name = tag) }

/-- The field with only its attributes of a tag, and without the name of its type. -/
def Field.restrictedTo (field : Field) (tag : String) : Field :=
  { field.toDeclaration.restrictedTo tag with typeName := none }

/-- The member in which every element has only its attributes of a tag. -/
def Member.restrictedTo (tag : String) : Member → Member
  | .method m =>
      .method
        { m.toDeclaration.restrictedTo tag with
          requestFields := m.requestFields.map (·.restrictedTo tag)
          responseFields := m.responseFields.map (·.restrictedTo tag) }
  | .dataObject d =>
      .dataObject
        { d.toDeclaration.restrictedTo tag with fields := d.fields.map (·.restrictedTo tag) }
  | .enumeration e =>
      .enumeration
        { e.toDeclaration.restrictedTo tag with values := e.values.map (·.restrictedTo tag) }
  | .errorSet s =>
      .errorSet
        { s.toDeclaration.restrictedTo tag with errors := s.errors.map (·.restrictedTo tag) }
  | .unrecognized => .unrecognized

/-- The service in which every element has only its attributes of a tag, and no field has the
name of a type.
-/
def Service.restrictedTo (service : Service) (tag : String) : Service :=
  { service.toDeclaration.restrictedTo tag with
    members := service.members.map (Member.restrictedTo tag) }

/-- The element with only its attributes of a tag. -/
def Element.restrictedTo (element : Element) (tag : String) : Element :=
  (element.toDeclaration.restrictedTo tag).element element.kind

/-- The reference to the field with only its attributes of a tag, under the same identity. -/
def FieldRef.restrictedTo (ref : FieldRef) (tag : String) : FieldRef :=
  { ref with field := ref.field.restrictedTo tag }

-----------------------------------------------------------------------------------------
-- Elements
-----------------------------------------------------------------------------------------

/-- The attributes of the tag are the same, as deleting the others twice is deleting them once. -/
theorem Declaration.attributesTagged_restrictedTo (declaration : Declaration) (tag : String)
    : (declaration.restrictedTo tag).attributesTagged tag = declaration.attributesTagged tag := by
  simp only [attributesTagged, restrictedTo, List.filter_filter, Bool.and_self]

/-- What the attributes of the tag come to is the same. Witness: they are the same attributes, and
a message names the element only by its kind and its name.
-/
theorem Element.decode_restrictedTo (element : Element) (tag : String)
    : (element.restrictedTo tag).decode tag = element.decode tag := by
  have tagged : (element.restrictedTo tag).attributesTagged tag = element.attributesTagged tag :=
    element.toDeclaration.attributesTagged_restrictedTo tag
  rw [decode, tagged]
  rfl

/-- What the attributes of a field come to is the same. -/
theorem FieldRef.report_restrictedTo (ref : FieldRef) (tag : String)
    : (ref.restrictedTo tag).report tag = ref.report tag :=
  ref.field.element.decode_restrictedTo tag

/-- A field gives its own identity the same property name. -/
theorem PropertyNames.addField_restrictedTo (tag : String) (names : PropertyNames)
    (ref : FieldRef)
    : names.addField tag (ref.restrictedTo tag) = names.addField tag ref := by
  rw [addField, ref.report_restrictedTo tag]
  rfl

-----------------------------------------------------------------------------------------
-- Members
-----------------------------------------------------------------------------------------

/-- The fields of one list keep their places, their names and so their identities. -/
theorem fieldRefs_restrictedTo (tag : String) (member : Nat) (group : FieldGroup)
    (owner : String) (fields : List Field)
    : fieldRefs member group owner (fields.map (·.restrictedTo tag))
      = (fieldRefs member group owner fields).map (·.restrictedTo tag) := by
  rw [fieldRefs, fieldRefs, mapIdx_map, map_mapIdx]
  rfl

namespace Member

/-- The fields of a member keep their identities, by cases on its kind. -/
theorem fields_restrictedTo (member : Member) (tag : String) (index : Nat)
    : (member.restrictedTo tag).fields index
      = (member.fields index).map (·.restrictedTo tag) := by
  cases member with
  | method m =>
      simp only [restrictedTo, fields, fieldRefs_restrictedTo, List.map_append]
      rfl
  | dataObject d => exact fieldRefs_restrictedTo tag index .dataObject d.name d.fields
  | enumeration _ | errorSet _ | unrecognized => rfl

/-- The values or errors of a member stay in their order, by cases on its kind. -/
theorem cases_restrictedTo (member : Member) (tag : String)
    : (member.restrictedTo tag).cases = member.cases.map (·.restrictedTo tag) := by
  cases member with
  | enumeration _ | errorSet _ => simp only [restrictedTo, cases, List.map_map]; rfl
  | method _ | dataObject _ | unrecognized => rfl

theorem element?_restrictedTo (member : Member) (tag : String)
    : (member.restrictedTo tag).element? = member.element?.map (·.restrictedTo tag) := by
  cases member <;> rfl

/-- A member keeps its kind, its name and its place. -/
theorem outline?_restrictedTo (member : Member) (tag : String)
    : (member.restrictedTo tag).outline? = member.outline? := by
  rw [outline?, element?_restrictedTo, Option.map_map]
  rfl

/-- The same is reported about the attributes of a member: about itself, then about each of its
fields, then about each of its values or errors.
-/
theorem attributeErrors_restrictedTo (member : Member) (tag : String) (index : Nat)
    : (member.restrictedTo tag).attributeErrors tag index = member.attributeErrors tag index := by
  rw [attributeErrors, attributeErrors, element?_restrictedTo]
  cases member.element? with
  | none => rfl
  | some element =>
      simp only [Option.map_some, element.decode_restrictedTo tag, fields_restrictedTo,
        cases_restrictedTo, List.flatMap_map, FieldRef.report_restrictedTo,
        Element.decode_restrictedTo]

end Member

-----------------------------------------------------------------------------------------
-- Services
-----------------------------------------------------------------------------------------

namespace Service

/-- The fields of a service keep their identities. -/
theorem fields_restrictedTo (service : Service) (tag : String)
    : (service.restrictedTo tag).fields = service.fields.map (·.restrictedTo tag) := by
  simp only [fields, restrictedTo, mapIdx_map, List.map_flatten, map_mapIdx,
    Member.fields_restrictedTo]

theorem overrides_restrictedTo (service : Service) (tag : String)
    : (service.restrictedTo tag).overrides tag = service.overrides tag := by
  have root : (service.restrictedTo tag).element.decode tag = service.element.decode tag :=
    service.element.decode_restrictedTo tag
  rw [overrides, root, service.fields_restrictedTo tag, List.foldl_map]
  simp only [PropertyNames.addField_restrictedTo]
  rfl

theorem attributeErrors_restrictedTo (service : Service) (tag : String)
    : (service.restrictedTo tag).attributeErrors tag = service.attributeErrors tag := by
  have root : (service.restrictedTo tag).element.decode tag = service.element.decode tag :=
    service.element.decode_restrictedTo tag
  rw [attributeErrors, attributeErrors, root]
  simp only [restrictedTo, mapIdx_map, Member.attributeErrors_restrictedTo]

/-- The type names and the collisions are the same, as the members keep their outlines. -/
theorem collisions_restrictedTo (service : Service) (tag : String) (options : Options)
    : (service.restrictedTo tag).collisions options = service.collisions options := by
  have outlines
      : (service.restrictedTo tag).members.map Member.outline?
        = service.members.map Member.outline? := by
    simp only [restrictedTo, List.map_map, Function.comp_def, Member.outline?_restrictedTo]
  have name : (service.restrictedTo tag).name = service.name := rfl
  exact collisions_of_sameOutlines name outlines rfl rfl

/-- Attributes of other tags than the language and names of field types make no difference to
the outcome of a service, be it names with errors or a failure. So two services that are the
same without them have the same outcome. Witness: the three passes over the service, of which
each is blind to them.
-/
theorem tryResolve_ignores_otherTags (service : Service) (options : Options)
    : (service.restrictedTo options.language).tryResolve options = service.tryResolve options
      ∧ ∀ other : Service,
          other.restrictedTo options.language = service.restrictedTo options.language
          → other.tryResolve options = service.tryResolve options := by
  have blind (service : Service)
      : (service.restrictedTo options.language).tryResolve options
        = service.tryResolve options := by
    simp only [tryResolve, overrides_restrictedTo, attributeErrors_restrictedTo,
      collisions_restrictedTo]
    rfl
  refine ⟨blind service, fun other same => ?_⟩
  rw [← blind other, same, blind service]

/-- A field with two attributes of the language has the same outcome when attributes of other
tags, one of which differs in case only, stand before, between and behind them.
-/
theorem tryResolve_ignores_otherTags_interleaved
    : let named (tag value : String) : Attribute :=
        { name := tag, parameters := [{ name := "name", value }] }
      let ofField (field : Field) : Service :=
        { name := "api", members := [.dataObject { name := "item", fields := [field] }] }
      let plain : Service :=
        ofField { name := "id", attributes := [named "csharp" "Key", named "csharp" "Id"] }
      let interleaved : Service :=
        ofField
          { name := "id"
            typeName := some "int64"
            attributes :=
              [named "java" "key", named "csharp" "Key", named "CSharp" "KEY",
                named "csharp" "Id", named "java" "id"] }
      interleaved ≠ plain
      ∧ interleaved.restrictedTo "csharp" = plain.restrictedTo "csharp"
      ∧ interleaved.tryResolve {} = plain.tryResolve {} := by
  intro named ofField plain interleaved
  have alike : interleaved.restrictedTo "csharp" = plain.restrictedTo "csharp" := by decide
  exact ⟨by decide, alike,
    (tryResolve_ignores_otherTags plain {}).2 interleaved alike⟩

end Service

end SchemaNames
