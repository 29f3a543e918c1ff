import SchemaNames.Schema.Element
import SchemaNames.Schema.FieldRef

/-! The elements of a service in the order of the document, and collecting something over them. The
element list of a member is the member, then its fields, then the values or errors that it lists.
-/

namespace SchemaNames

-----------------------------------------------------------------------------------------
-- Numbered items
-----------------------------------------------------------------------------------------

/-- Collecting from a list whose items were numbered ignores the numbers when the collected
things do, by induction on the list.
-/
theorem flatMap_mapIdx_eq {α β γ : Type} (place : Nat → α → β) (f : β → List γ) (g : α → List γ)
    (same : ∀ index item, f (place index item) = g item) (items : List α)
    : (items.mapIdx place).flatMap f = items.flatMap g := by
  induction items generalizing place with
  | nil => rfl
  | cons item rest ih =>
      rw [List.mapIdx_cons, List.flatMap_cons, List.flatMap_cons, same,
        ih _ fun index item => same (index + 1) item]

/-- Numbering mapped items is numbering the items and mapping each. -/
theorem mapIdx_map {α β γ : Type} (f : α → β) (place : Nat → β → γ) (items : List α)
    : (items.map f).mapIdx place = items.mapIdx fun index item => place index (f item) := by
  apply List.ext_getElem?
  intro index
  simp only [List.getElem?_mapIdx, List.getElem?_map, Option.map_map, Function.comp_def]

/-- Mapping numbered items is mapping each with its number. -/
theorem map_mapIdx {α β γ : Type} (place : Nat → α → β) (f : β → γ) (items : List α)
    : (items.mapIdx place).map f = items.mapIdx fun index item => f (place index item) := by
  apply List.ext_getElem?
  intro index
  simp only [List.getElem?_mapIdx, List.getElem?_map, Option.map_map, Function.comp_def]

/-- Collecting from a flattened list of parts is collecting from each part. -/
theorem flatMap_flatten_mapIdx {α β γ : Type} (f : β → List γ) (part : Nat → α → List β)
    (items : List α)
    : (items.mapIdx part).flatten.flatMap f
      = (items.mapIdx fun index item => (part index item).flatMap f).flatten := by
  induction items generalizing part with
  | nil => rfl
  | cons item rest ih => simp only [List.mapIdx_cons, List.flatten_cons, List.flatMap_append, ih]

-----------------------------------------------------------------------------------------
-- Placed elements
-----------------------------------------------------------------------------------------

theorem flatMap_placeChildren {γ : Type} (f : Element → List γ) (member : Nat)
    (group : ChildGroup) (elements : List Element)
    : (placeChildren member group elements).flatMap (fun placed => f placed.element)
      = elements.flatMap f :=
  flatMap_mapIdx_eq _ (fun placed : PlacedElement => f placed.element) f (fun _ _ => rfl)
    elements

theorem flatMap_fieldRefs {γ : Type} (f : Field → List γ) (member : Nat) (group : FieldGroup)
    (owner : String) (fields : List Field)
    : (fieldRefs member group owner fields).flatMap (fun ref => f ref.field)
      = fields.flatMap f :=
  flatMap_mapIdx_eq _ (fun ref : FieldRef => f ref.field) f (fun _ _ => rfl) fields

-----------------------------------------------------------------------------------------
-- Elements in the order of the document
-----------------------------------------------------------------------------------------

/-- A member and its children; of a method first the fields of the request. -/
def Member.selfAndChildren : Member → List Element
  | .method m =>
      { m.toDeclaration with kind := .method }
        :: (m.requestFields ++ m.responseFields).map fun field =>
            { field.toDeclaration with kind := .field }
  | .dataObject d =>
      { d.toDeclaration with kind := .dataObject }
        :: d.fields.map fun field => { field.toDeclaration with kind := .field }
  | .enumeration e =>
      { e.toDeclaration with kind := .enumeration }
        :: e.values.map fun value => { value with kind := .enumValue }
  | .errorSet s =>
      { s.toDeclaration with kind := .errorSet }
        :: s.errors.map fun error => { error with kind := .errorCase }
  | .unrecognized => []

/-- A service, and then each of its members with the children of that. -/
def Service.selfAndMembers (service : Service) : List Element :=
  { service.toDeclaration with kind := .service }
    :: service.members.flatMap Member.selfAndChildren

/-- Placed children are the children, without their places. -/
theorem map_element_placeChildren (member : Nat) (group : ChildGroup) (elements : List Element)
    : (placeChildren member group elements).map (·.element) = elements := by
  have collected := flatMap_placeChildren (fun element => [element]) member group elements
  rwa [List.flatMap_singleton', ← List.map_eq_flatMap] at collected

/-- The elements of a member are the member and its children, by cases on its kind. -/
theorem Member.map_element_elements (member : Member) (index : Nat)
    : (member.elements index).map (·.element) = member.selfAndChildren := by
  cases member <;>
    simp only [elements, element?, children, selfAndChildren, List.map_cons, List.map_append,
      List.map_nil, map_element_placeChildren] <;>
    rfl

/-- The elements of a service are the service and then each member with its children. -/
theorem Service.map_element_elements (service : Service)
    : service.elements.map (·.element) = service.selfAndMembers := by
  rw [elements, List.map_cons, List.map_flatten, ← List.flatMap_def,
    flatMap_mapIdx_eq _ _ _ fun index member => member.map_element_elements index]
  rfl

end SchemaNames
