import SchemaNames.Naming.Overrides
import SchemaNames.Proofs.Schema.ElementTree

/-! What is reported about the attributes of a service, element by element. The pass over the
service looks at every element once, in the order in which the elements are listed.
-/

namespace SchemaNames

/-- Collecting over the elements of a member goes from the member to its fields and then to
its values or errors, by cases on its kind.
-/
theorem Member.flatMap_elements {γ : Type} (f : Element → List γ) (index : Nat) (member : Member)
    : (member.elements index).flatMap (fun placed => f placed.element)
      = match member.element? with
        | none => []
        | some element =>
            f element
              ++ (member.fields index).flatMap (fun ref => f ref.field.element)
              ++ member.cases.flatMap f := by
  have fields := flatMap_fieldRefs (fun field => f field.element) index
  have children := flatMap_placeChildren f index
  cases member with
  | method m =>
      simp only [elements, element?, Member.children, Member.fields, Member.cases,
        List.flatMap_cons, List.flatMap_append, List.flatMap_nil, List.append_nil,
        List.flatMap_map, fields, children]
  | dataObject d =>
      simp only [elements, element?, Member.children, Member.fields, Member.cases,
        List.flatMap_cons, List.flatMap_nil, List.append_nil, List.flatMap_map, fields, children]
  | enumeration e =>
      simp only [elements, element?, Member.children, Member.fields, Member.cases,
        List.flatMap_cons, List.flatMap_nil, List.append_nil, children]
  | errorSet s =>
      simp only [elements, element?, Member.children, Member.fields, Member.cases,
        List.flatMap_cons, List.flatMap_nil, List.append_nil, children]
  | unrecognized => rfl

/-- What is reported about a member is what is reported about each of its elements in turn. -/
theorem Member.attributeErrors_eq (tag : String) (index : Nat) (member : Member)
    : member.attributeErrors tag index
      = (member.elements index).flatMap fun placed => (placed.element.decode tag).errors := by
  rw [member.flatMap_elements (fun element => (element.decode tag).errors) index]
  rfl

/-- What is reported about a member does not tell where it stands. -/
theorem Member.attributeErrors_eq_selfAndChildren (tag : String) (index : Nat) (member : Member)
    : member.attributeErrors tag index
      = member.selfAndChildren.flatMap fun element => (element.decode tag).errors := by
  rw [attributeErrors_eq, ← member.map_element_elements index, List.flatMap_map]

/-- What is reported about a service is what is reported about each of its elements in turn. -/
theorem Service.attributeErrors_eq (service : Service) (tag : String)
    : service.attributeErrors tag
      = service.elements.flatMap fun placed => (placed.element.decode tag).errors := by
  rw [attributeErrors, elements, List.flatMap_cons, flatMap_flatten_mapIdx]
  congr 2
  exact List.mapIdx_eq_mapIdx_iff.mpr fun index bound => Member.attributeErrors_eq tag index _

/-- What is reported about a service is told by its elements without their places. -/
theorem Service.attributeErrors_eq_selfAndMembers (service : Service) (tag : String)
    : service.attributeErrors tag
      = service.selfAndMembers.flatMap fun element => (element.decode tag).errors := by
  rw [attributeErrors_eq, ← map_element_elements, List.flatMap_map]

end SchemaNames
