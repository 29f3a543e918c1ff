import SchemaNames.Proofs.Naming.EffectiveNames
import SchemaNames.Proofs.Naming.SharedErrors

/-! The fields of a service by their places. The identity of a field leads back to it, every field
is listed once, and the property names come in the order in which the fields are listed.
-/

namespace SchemaNames

-----------------------------------------------------------------------------------------
-- Fields by place
-----------------------------------------------------------------------------------------

/-- A member with fields is recognized, and so has a name. -/
theorem Member.exists_owner {member : Member} {group : FieldGroup} {field : Field}
    (listed : field ∈ member.fieldsIn group)
    : ∃ owner, member.element?.map (·.name) = some owner := by
  cases member with
  | unrecognized => cases listed
  | method _ | dataObject _ | enumeration _ | errorSet _ => exact ⟨_, rfl⟩

namespace Service

/-- The fields of a service are those that stand in one of its members. -/
theorem mem_fields_iff {service : Service} {ref : FieldRef}
    : ref ∈ service.fields
      ↔ ∃ member, service.members[ref.id.member]? = some member ∧ ref.StandsIn member := by
  simp only [fields, List.mem_flatten, List.mem_mapIdx]
  constructor
  · rintro ⟨_, ⟨index, bound, rfl⟩, listed⟩
    obtain ⟨rfl, stands⟩ := Member.mem_fields_iff.mp listed
    exact ⟨_, List.getElem?_eq_getElem bound, stands⟩
  · rintro ⟨member, found, stands⟩
    obtain ⟨bound, rfl⟩ := List.getElem?_eq_some_iff.mp found
    exact ⟨_, ⟨_, bound, rfl⟩, Member.mem_fields_iff.mpr ⟨rfl, stands⟩⟩

/-- Every field of a member is listed at its place. -/
theorem exists_mem_fields {service : Service} {index position : Nat} {member : Member}
    {group : FieldGroup} {field : Field} (found : service.members[index]? = some member)
    (stands : (member.fieldsIn group)[position]? = some field)
    : ∃ ref ∈ service.fields,
        ref.field = field
        ∧ ref.id.member = index
        ∧ ref.id.group = group
        ∧ ref.id.index = position := by
  obtain ⟨owner, owned⟩ := Member.exists_owner (List.mem_of_getElem? stands)
  let ref : FieldRef :=
    { id := { member := index, group, index := position, owner, field := field.name }, field }
  exact ⟨ref, mem_fields_iff.mpr ⟨member, found, stands, owned, rfl⟩, rfl, rfl, rfl, rfl⟩

-----------------------------------------------------------------------------------------
-- Property names by place
-----------------------------------------------------------------------------------------

/-- The fields that have a property name are those whose attributes give one. -/
theorem map_fst_filterMap_entry? (tag : String) (refs : List FieldRef)
    : (refs.filterMap (FieldRef.entry? tag)).map (·.1)
      = (refs.filter fun ref => (ref.field.parameterValue? tag "name").isSome).map (·.id) := by
  induction refs with
  | nil => rfl
  | cons ref rest ih =>
      rw [List.filterMap_cons, List.filter_cons, FieldRef.entry?]
      cases ref.field.parameterValue? tag "name" with
      | none => exact ih
      | some name => exact congrArg (ref.id :: ·) ih

/-- Every field of a service is listed once, in the order of the identities, and is found again
where its identity says. So the property names that attributes give, kept in the order of the
identities, are those of the overridden fields in the order in which the fields are listed, one for
each, and the outcome lists them so.
-/
theorem fields_inOrder (service : Service) (tag : String) (errors : List ValidationError)
    : let names := (service.overridesAfter tag errors).overrides.propertyNames
      let overridden (ref : FieldRef) := (ref.field.parameterValue? tag "name").isSome
      service.fields.Pairwise (fun a b => compare a.id b.id = .lt)
      ∧ (service.fields.map (·.id)).Nodup
      ∧ (∀ ref,
          ref ∈ service.fields
          ↔ ∃ member, service.members[ref.id.member]? = some member ∧ ref.StandsIn member)
      ∧ (∀ index member group position field,
          service.members[index]? = some member
          → (member.fieldsIn group)[position]? = some field
          → ∃ ref ∈ service.fields,
              ref.field = field
              ∧ ref.id.member = index
              ∧ ref.id.group = group
              ∧ ref.id.index = position)
      ∧ names.entries = service.fields.filterMap (FieldRef.entry? tag)
      ∧ names.entries.map (·.1) = (service.fields.filter overridden).map (·.id)
      ∧ (names.entries.map (·.1)).Pairwise (fun a b => compare a b = .lt)
      ∧ ∀ (options : Options) (outcome : NamingOutcome),
          options.language = tag
          → service.tryResolve options = .ok outcome
          → outcome.info.propertyNames = names := by
  intro names overridden
  have walked : names = (service.overrides tag).propertyNames := by
    simp only [names, overridesAfter_eq]
  have entries : names.entries = service.fields.filterMap (FieldRef.entry? tag) := by
    rw [walked, entries_propertyNames]
  have ids : names.entries.map (·.1) = (service.fields.filter overridden).map (·.id) := by
    rw [entries, map_fst_filterMap_entry?]
  refine ⟨service.pairwise_fields, List.pairwise_map.mpr service.pairwise_fields_ne,
    fun _ => mem_fields_iff, fun _ _ _ _ _ => exists_mem_fields, entries, ids, ?_, ?_⟩
  · rw [ids]
    exact List.pairwise_map.mpr (service.pairwise_fields.sublist List.filter_sublist)
  · rintro options outcome rfl lenient
    rw [tryResolve_of_recognized (recognized_of_tryResolve lenient)] at lenient
    cases lenient
    exact walked.symm

/-- An override counts behind an attribute of another language, which gives no name itself. -/
example
    : let java : Attribute :=
        { name := "java", parameters := [{ name := "name", value := "ident" }] }
      let csharp : Attribute :=
        { name := "csharp", parameters := [{ name := "name", value := "Key" }] }
      let item : DataObject :=
        { name := "item"
          fields :=
            [{ name := "id", attributes := [java] },
              { name := "id", attributes := [java, csharp] }] }
      let service : Service := { name := "api", members := [.dataObject item] }
      (service.overridesAfter "csharp" []).overrides.propertyNames.entries
      = [(⟨0, .dataObject, 1, "item", "id"⟩, "Key")] := by
  decide +kernel

end Service

end SchemaNames
