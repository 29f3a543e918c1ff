import SchemaNames.Proofs.Naming.Outcome
import SchemaNames.Proofs.Naming.OverrideOrder

/-! The names that code gets in the end. An override lands on exactly the field that carries it,
and everything that is not overridden keeps its capitalized schema name.
-/

namespace SchemaNames

/-- The property names of a service give for an identity the override of the field that has
it, as the fields of a service have different identities.
-/
theorem Service.find?_propertyNames (service : Service) (tag : String) (id : FieldId)
    : (service.overrides tag).propertyNames.find? id
      = (service.fields.find? (·.id = id)).bind fun ref =>
          ref.field.parameterValue? tag "name" := by
  have increasing := service.pairwise_entries tag
  rw [← service.entries_propertyNames] at increasing
  apply Option.ext
  intro name
  rw [← PropertyNames.mem_entries_iff increasing, entries_propertyNames, List.mem_filterMap,
    Option.bind_eq_some_iff]
  simp only [FieldRef.entry?_eq_some_iff, find?_fields_eq_some_iff, and_assoc]

/-- The property names of a service give for one of its fields the override of that field. -/
theorem Service.find?_propertyNames_of_mem {service : Service} {ref : FieldRef}
    (listed : ref ∈ service.fields) (tag : String)
    : (service.overrides tag).propertyNames.find? ref.id
      = ref.field.parameterValue? tag "name" := by
  rw [find?_propertyNames, find?_fields_eq_some_iff.mpr ⟨listed, rfl⟩, Option.bind_some]

/-- In the outcome of a service the property name of a field is its override, or its capitalized
name.
-/
theorem Service.propertyName_of_mem {service : Service} {options : Options}
    {outcome : NamingOutcome} (lenient : service.tryResolve options = .ok outcome)
    {ref : FieldRef} (listed : ref ∈ service.fields)
    : outcome.info.propertyName ref
      = (ref.field.parameterValue? options.language "name").getD
          (defaultPropertyName ref.field.name) := by
  rw [tryResolve_of_recognized (recognized_of_tryResolve lenient)] at lenient
  cases lenient
  rw [NamingInfo.propertyName, NamingInfo.propertyNameOverride,
    find?_propertyNames_of_mem listed]

/-- In the outcome of a service the namespace is the override of the service, or its capitalized
name; the property name of a field is the override of that very field, or its capitalized name;
and an identity has an override exactly if a field of the service with that identity has it.
-/
theorem Service.effectiveNames (service : Service) (options : Options)
    (recognized : Member.unrecognized ∉ service.members)
    : ∃ outcome,
        service.tryResolve options = .ok outcome
        ∧ outcome.info.namespaceOverride
          = service.parameterValue? options.language "namespace"
        ∧ outcome.info.effectiveNamespace
          = (service.parameterValue? options.language "namespace").getD
              (Text.capitalize service.name)
        ∧ (∀ ref ∈ service.fields,
            outcome.info.propertyName ref
              = (ref.field.parameterValue? options.language "name").getD
                  (Text.capitalize ref.field.name))
        ∧ (∀ id value,
            outcome.info.propertyNameOverride id = some value
            ↔ ∃ ref ∈ service.fields,
                ref.id = id
                ∧ ref.field.parameterValue? options.language "name" = some value) := by
  refine ⟨_, service.tryResolve_of_recognized recognized options, ?_, ?_, ?_, ?_⟩
  · exact service.serviceNamespace_overrides options.language
  · rw [service.serviceNamespace_overrides options.language, defaultNamespace]
  · intro ref listed
    have found := find?_fields_eq_some_iff.mpr ⟨listed, rfl⟩
    rw [NamingInfo.propertyName, NamingInfo.propertyNameOverride, service.find?_propertyNames,
      found, Option.bind_some, defaultPropertyName]
  · intro id value
    rw [NamingInfo.propertyNameOverride, service.find?_propertyNames, Option.bind_eq_some_iff]
    simp only [find?_fields_eq_some_iff, and_assoc]

/-- In a service with two data types of one name whose fields have one name, only the field that
carries the override has its name, and the namespace is the first of two overrides; attributes of
another language that stand before these give no names.
-/
theorem Service.effectiveNames_sameNames
    : let tagged (tag key value : String) : Attribute :=
        { name := tag, parameters := [{ name := key, value }] }
      let service : Service :=
        { name := "api"
          attributes :=
            [tagged "java" "namespace" "org.api",
              tagged "csharp" "namespace" "First",
              tagged "csharp" "namespace" "Second"]
          members :=
            [.dataObject
                { name := "item"
                  fields := [{ name := "id", attributes := [tagged "java" "name" "ident"] }] },
              .dataObject
                { name := "item"
                  fields :=
                    [{ name := "id"
                       attributes :=
                        [tagged "java" "name" "ident", tagged "csharp" "name" "Key"] }] }] }
      Member.unrecognized ∉ service.members
      ∧ ∃ outcome,
          service.tryResolve {} = .ok outcome
          ∧ outcome.info.namespaceOverride = some "First"
          ∧ outcome.info.effectiveNamespace = "First"
          ∧ outcome.info.propertyNameOverride ⟨0, .dataObject, 0, "item", "id"⟩ = none
          ∧ outcome.info.propertyNameOverride ⟨1, .dataObject, 0, "item", "id"⟩
            = some "Key"
          ∧ service.fields.map outcome.info.propertyName = ["Id", "Key"] := by
  intro tagged service
  have recognized : Member.unrecognized ∉ service.members := by decide
  obtain ⟨outcome, lenient, overriding, namespaced, named, overridden⟩ :=
    Service.effectiveNames service {} recognized
  refine ⟨recognized, outcome, lenient, ?_, ?_, ?_, ?_, ?_⟩
  · exact overriding.trans (by decide +kernel)
  · exact namespaced.trans (by decide +kernel)
  · rw [Option.eq_none_iff_forall_ne_some]
    intro value
    rw [Ne, overridden]
    revert value
    simp [service, tagged, Service.fields, Member.fields, fieldRefs,
      Declaration.parameterValue?]
  · rw [overridden]
    decide +kernel
  · rw [List.map_congr_left named]
    decide +kernel

end SchemaNames
