import SchemaNames.Proofs.Schema.LinearOrders
import SchemaNames.Schema.Element

/-! The identities of the fields of a service. An identity leads back to its field, and they are
listed in strictly increasing order, so that a field is found by its identity even where records and
fields share their names.
-/

namespace SchemaNames

-----------------------------------------------------------------------------------------
-- Places of fields
-----------------------------------------------------------------------------------------

/-- The fields in one list of a member; a member has no fields in the lists of other kinds. -/
def Member.fieldsIn : Member → FieldGroup → List Field
  | .method m, .request => m.requestFields
  | .method m, .response => m.responseFields
  | .dataObject d, .dataObject => d.fields
  | _, _ => []

/-- (ref.StandsIn member) says that a field stands in a member where its identity says it does, and
that the identity tells the names of the two.
-/
structure FieldRef.StandsIn (ref : FieldRef) (member : Member) : Prop where
  place : (member.fieldsIn ref.id.group)[ref.id.index]? = some ref.field
  owner : member.element?.map (·.name) = some ref.id.owner
  field : ref.id.field = ref.field.name

/-- The references to one list are those that stand in it under the name of its owner. -/
theorem mem_fieldRefs_iff {member : Nat} {group : FieldGroup} {owner : String}
    {fields : List Field} {ref : FieldRef}
    : ref ∈ fieldRefs member group owner fields
      ↔ ref.id.member = member
        ∧ ref.id.group = group
        ∧ ref.id.owner = owner
        ∧ fields[ref.id.index]? = some ref.field
        ∧ ref.id.field = ref.field.name := by
  obtain ⟨⟨_, _, index, _, name⟩, field⟩ := ref
  simp only [fieldRefs, List.mem_mapIdx, FieldRef.mk.injEq, FieldId.mk.injEq,
    List.getElem?_eq_some_iff]
  constructor
  · rintro ⟨_, bound, ⟨rfl, rfl, rfl, rfl, rfl⟩, rfl⟩
    exact ⟨rfl, rfl, rfl, ⟨bound, rfl⟩, rfl⟩
  · rintro ⟨rfl, rfl, rfl, ⟨bound, rfl⟩, rfl⟩
    exact ⟨index, bound, ⟨rfl, rfl, rfl, rfl, rfl⟩, rfl⟩

/-- The fields of a member are those that stand in it, by cases on its kind and on the list. -/
theorem Member.mem_fields_iff {member : Member} {index : Nat} {ref : FieldRef}
    : ref ∈ member.fields index ↔ ref.id.member = index ∧ ref.StandsIn member := by
  obtain ⟨⟨at', group, position, owner, name⟩, field⟩ := ref
  constructor
  · intro listed
    cases member with
    | method m =>
        rcases List.mem_append.mp listed with request | response
        · obtain ⟨rfl, rfl, rfl, place, named⟩ := mem_fieldRefs_iff.mp request
          exact ⟨rfl, place, rfl, named⟩
        · obtain ⟨rfl, rfl, rfl, place, named⟩ := mem_fieldRefs_iff.mp response
          exact ⟨rfl, place, rfl, named⟩
    | dataObject d =>
        obtain ⟨rfl, rfl, rfl, place, named⟩ := mem_fieldRefs_iff.mp listed
        exact ⟨rfl, place, rfl, named⟩
    | enumeration _ | errorSet _ | unrecognized => cases listed
  · rintro ⟨rfl, place, owned, named⟩
    cases member with
    | method m =>
        obtain rfl := Option.some.inj owned
        cases group with
        | request =>
            exact List.mem_append_left _ (mem_fieldRefs_iff.mpr ⟨rfl, rfl, rfl, place, named⟩)
        | response =>
            exact List.mem_append_right _ (mem_fieldRefs_iff.mpr ⟨rfl, rfl, rfl, place, named⟩)
        | dataObject => cases place
    | dataObject d =>
        obtain rfl := Option.some.inj owned
        cases group with
        | dataObject => exact mem_fieldRefs_iff.mpr ⟨rfl, rfl, rfl, place, named⟩
        | request | response => cases place
    | enumeration _ | errorSet _ | unrecognized => cases place

-----------------------------------------------------------------------------------------
-- The order of identities
-----------------------------------------------------------------------------------------

/-- The references to one list increase with their indices. -/
theorem pairwise_fieldRefs (member : Nat) (group : FieldGroup) (owner : String)
    (fields : List Field)
    : (fieldRefs member group owner fields).Pairwise fun a b =>
        Ord.compare a.id b.id = .lt := by
  rw [List.pairwise_iff_getElem]
  intro i j boundI boundJ earlier
  simp only [fieldRefs, List.getElem_mapIdx]
  exact FieldId.compare_eq_lt_iff.mpr (.index rfl rfl earlier)

/-- The fields of a member stand at its index. -/
theorem Member.member_of_mem_fields {member : Member} {index : Nat} {ref : FieldRef}
    (listed : ref ∈ member.fields index)
    : ref.id.member = index :=
  (mem_fields_iff.mp listed).1

/-- The references to the fields of a member increase, those of a request before those of the
response.
-/
theorem Member.pairwise_fields (member : Member) (index : Nat)
    : (member.fields index).Pairwise fun a b => Ord.compare a.id b.id = .lt := by
  cases member with
  | method m =>
      refine List.pairwise_append.mpr
        ⟨pairwise_fieldRefs _ _ _ _, pairwise_fieldRefs _ _ _ _, ?_⟩
      intro a request b response
      obtain ⟨memberA, groupA, -⟩ := mem_fieldRefs_iff.mp request
      obtain ⟨memberB, groupB, -⟩ := mem_fieldRefs_iff.mp response
      refine FieldId.compare_eq_lt_iff.mpr (.group (memberA.trans memberB.symm) ?_)
      rw [groupA, groupB]
      exact .requestResponse
  | dataObject d => exact pairwise_fieldRefs _ _ _ _
  | enumeration _ | errorSet _ | unrecognized => exact List.Pairwise.nil

/-- The references to the fields of a service increase strictly. Witness: they increase within
each member, and a later member has a greater index.
-/
theorem Service.pairwise_fields (service : Service)
    : service.fields.Pairwise fun a b => Ord.compare a.id b.id = .lt := by
  rw [fields, List.pairwise_flatten]
  constructor
  · intro part listed
    obtain ⟨index, bound, rfl⟩ := List.mem_mapIdx.mp listed
    exact Member.pairwise_fields _ index
  · rw [List.pairwise_iff_getElem]
    intro i j boundI boundJ earlier a inEarlier b inLater
    simp only [List.getElem_mapIdx] at inEarlier inLater
    refine FieldId.compare_eq_lt_iff.mpr (.member ?_)
    rw [Member.member_of_mem_fields inEarlier, Member.member_of_mem_fields inLater]
    exact earlier

/-- No two fields of a service share an identity. -/
theorem Service.pairwise_fields_ne (service : Service)
    : service.fields.Pairwise fun a b => a.id ≠ b.id :=
  service.pairwise_fields.imp ne_of_compare_eq_lt

/-- Where no two items share a key, an item is found by its key. -/
theorem find?_key_eq_some_iff {α κ : Type} [DecidableEq κ] {key : α → κ} {items : List α}
    (apart : items.Pairwise fun a b => key a ≠ key b) {sought : κ} {item : α}
    : items.find? (key · = sought) = some item ↔ item ∈ items ∧ key item = sought := by
  constructor
  · intro found
    exact ⟨List.mem_of_find?_eq_some found, by simpa using List.find?_some found⟩
  · rintro ⟨listed, rfl⟩
    obtain ⟨before, after, rfl⟩ := List.append_of_mem listed
    have absent : before.find? (key · = key item) = none := by
      rw [List.find?_eq_none]
      intro other earlier
      simpa using (List.pairwise_append.mp apart).2.2 other earlier item List.mem_cons_self
    rw [List.find?_append, absent, Option.none_or, List.find?_cons_of_pos (by simp)]

/-- A field of a service is found by its identity. -/
theorem Service.find?_fields_eq_some_iff {service : Service} {id : FieldId} {ref : FieldRef}
    : service.fields.find? (·.id = id) = some ref ↔ ref ∈ service.fields ∧ ref.id = id :=
  find?_key_eq_some_iff service.pairwise_fields_ne

end SchemaNames
