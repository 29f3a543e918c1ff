import SchemaNames.Proofs.Naming.ElementReports
import SchemaNames.Proofs.Naming.SharedErrors

/-! The order in which the attributes of a service are looked at. Every element has its turn once, a
member before its children, and what is reported comes in that order, before any collision.
-/

namespace SchemaNames

-----------------------------------------------------------------------------------------
-- Places of elements
-----------------------------------------------------------------------------------------

/-- The index of the member in which an element stands; the service stands in none. -/
def ElementAddress.member? : ElementAddress → Option Nat
  | .service => none
  | .member index => some index
  | .child parent _ _ => some parent

/-- The children in one list of a member stand at different places of that list. -/
theorem pairwise_placeChildren (member : Nat) (group : ChildGroup) (elements : List Element)
    : (placeChildren member group elements).Pairwise fun a b => a.address ≠ b.address := by
  rw [List.pairwise_iff_getElem]
  intro i j boundI boundJ earlier same
  simp only [placeChildren, List.getElem_mapIdx, ElementAddress.child.injEq] at same
  omega

/-- A child in one list of a member stands there. -/
theorem exists_address_of_mem_placeChildren {member : Nat} {group : ChildGroup}
    {elements : List Element} {placed : PlacedElement}
    (listed : placed ∈ placeChildren member group elements)
    : ∃ index, placed.address = .child member group index := by
  obtain ⟨index, _, rfl⟩ := List.mem_mapIdx.mp listed
  exact ⟨index, rfl⟩

namespace Member

/-- The children of a member stand in one of its lists, by cases on its kind. -/
theorem exists_address_of_mem_children {member : Member} {index : Nat} {placed : PlacedElement}
    (listed : placed ∈ member.children index)
    : ∃ group position, placed.address = .child index group position := by
  cases member with
  | method m =>
      rcases List.mem_append.mp listed with request | response
      · exact ⟨_, exists_address_of_mem_placeChildren request⟩
      · exact ⟨_, exists_address_of_mem_placeChildren response⟩
  | dataObject _ | enumeration _ | errorSet _ =>
      exact ⟨_, exists_address_of_mem_placeChildren listed⟩
  | unrecognized => cases listed

/-- The elements of a member stand in that member. -/
theorem member?_of_mem_elements {member : Member} {index : Nat} {placed : PlacedElement}
    (listed : placed ∈ member.elements index)
    : placed.address.member? = some index := by
  unfold elements at listed
  split at listed
  · rcases List.mem_cons.mp listed with rfl | child
    · rfl
    · obtain ⟨group, position, address⟩ := exists_address_of_mem_children child
      rw [address]
      rfl
  · cases listed

/-- The children of a member stand at different places, as a request is not a response. -/
theorem pairwise_children (member : Member) (index : Nat)
    : (member.children index).Pairwise fun a b => a.address ≠ b.address := by
  cases member with
  | method m =>
      refine List.pairwise_append.mpr
        ⟨pairwise_placeChildren _ _ _, pairwise_placeChildren _ _ _, ?_⟩
      intro a request b response same
      obtain ⟨i, first⟩ := exists_address_of_mem_placeChildren request
      obtain ⟨j, second⟩ := exists_address_of_mem_placeChildren response
      rw [first, second] at same
      cases same
  | dataObject _ | enumeration _ | errorSet _ => exact pairwise_placeChildren _ _ _
  | unrecognized => exact List.Pairwise.nil

/-- The elements of a member stand at different places, as the member is not its own child. -/
theorem pairwise_elements (member : Member) (index : Nat)
    : (member.elements index).Pairwise fun a b => a.address ≠ b.address := by
  unfold elements
  split
  · refine List.pairwise_cons.mpr ⟨?_, member.pairwise_children index⟩
    intro child listed same
    obtain ⟨group, position, address⟩ := exists_address_of_mem_children listed
    rw [address] at same
    cases same
  · exact List.Pairwise.nil

end Member

namespace Service

/-- No element of a service is listed twice. Witness: the elements of one member stand at different
places, and those of different members stand in different members.
-/
theorem nodup_addresses (service : Service) : (service.elements.map (·.address)).Nodup := by
  refine List.pairwise_map.mpr (List.pairwise_cons.mpr ⟨?_, List.pairwise_flatten.mpr ⟨?_, ?_⟩⟩)
  · intro placed listed same
    obtain ⟨part, inMembers, inPart⟩ := List.mem_flatten.mp listed
    obtain ⟨index, _, rfl⟩ := List.mem_mapIdx.mp inMembers
    have inMember := Member.member?_of_mem_elements inPart
    rw [← same] at inMember
    cases inMember
  · intro part listed
    obtain ⟨index, _, rfl⟩ := List.mem_mapIdx.mp listed
    exact Member.pairwise_elements _ index
  · rw [List.pairwise_iff_getElem]
    intro i j boundI boundJ earlier a inEarlier b inLater same
    simp only [List.getElem_mapIdx] at inEarlier inLater
    have inMember := Member.member?_of_mem_elements inEarlier
    rw [same, Member.member?_of_mem_elements inLater, Option.some.injEq] at inMember
    omega

-----------------------------------------------------------------------------------------
-- Errors in the order of the document
-----------------------------------------------------------------------------------------

/-- Lenient naming fails if the type names do, and otherwise reports what is reported about the
attributes, followed by what is reported about the type names.
-/
theorem map_errors_tryResolve (service : Service) (options : Options)
    : (service.tryResolve options).map (·.errors)
      = (service.collisions options).typeNames.map fun _ =>
          service.attributeErrors options.language ++ (service.collisions options).errors := by
  rw [tryResolve]
  cases (service.collisions options).typeNames <;> rfl

/-- The attributes of a service are looked at in the order of the document: first those of the
service, then those of each member and of its children, and no element twice. The walk leaves the
errors that were there before, followed by what each element in that order reports on its own.
Lenient naming reports what the walk leaves of an empty list and then the collisions, which come
behind it when they are written to the same list.
-/
theorem overridesAfter_documentOrder (service : Service) (tag : String)
    (errors : List ValidationError) (options : Options)
    : let attributeErrors := (service.overridesAfter options.language []).errors
      let collisions := service.collisionsAfter options []
      service.elements.map (·.element)
        = service.element :: service.members.flatMap Member.selfAndChildren
      ∧ (service.elements.map (·.address)).Nodup
      ∧ (service.overridesAfter tag errors).errors
        = errors
          ++ service.elements.flatMap (fun placed => (placed.element.decodeAfter tag []).errors)
      ∧ (service.tryResolve options).map (·.errors)
        = collisions.typeNames.map (fun _ => attributeErrors ++ collisions.errors)
      ∧ (service.collisionsAfter options attributeErrors).errors
        = attributeErrors ++ collisions.errors := by
  intro attributeErrors collisions
  refine ⟨service.map_element_elements, service.nodup_addresses, ?_, ?_, ?_⟩
  · simp only [overridesAfter_eq, service.attributeErrors_eq tag, Element.decodeAfter_eq,
      ElementReport.behind, List.nil_append]
  · simp only [map_errors_tryResolve, attributeErrors, collisions, overridesAfter_eq,
      collisionsAfter_eq, CollisionReport.behind, List.nil_append]
  · simp only [attributeErrors, collisions, collisionsAfter_eq, CollisionReport.behind,
      List.nil_append]

end Service

end SchemaNames
