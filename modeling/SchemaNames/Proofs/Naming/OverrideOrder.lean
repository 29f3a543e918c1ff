import SchemaNames.Proofs.Naming.OverrideValues
import SchemaNames.Proofs.Naming.PropertyMap

/-! The order of the property names of a service. They are inserted field by field in increasing
order of the identities, and as that order is linear every override keeps an entry of its own.
-/

namespace SchemaNames

/-- The entry of the property name that an attribute of a tag gives to a field. -/
def FieldRef.entry? (tag : String) (ref : FieldRef) : Option (FieldId × String) :=
  (ref.field.parameterValue? tag "name").map (ref.id, ·)

/-- Exactly the fields with a property name give an entry, under their identities. -/
theorem FieldRef.entry?_eq_some_iff {tag : String} {ref : FieldRef} {id : FieldId} {name : String}
    : ref.entry? tag = some (id, name)
      ↔ ref.id = id ∧ ref.field.parameterValue? tag "name" = some name := by
  simp only [Option.map_eq_some_iff, Prod.mk.injEq, FieldRef.entry?]
  constructor
  · rintro ⟨_, given, rfl, rfl⟩
    exact ⟨rfl, given⟩
  · rintro ⟨rfl, given⟩
    exact ⟨name, given, rfl, rfl⟩

/-- Looking at fields is inserting the names that they give, by induction on the fields. -/
theorem PropertyNames.foldl_addField (tag : String) (names : PropertyNames) (refs : List FieldRef)
    : refs.foldl (addField tag) names
      = (refs.filterMap (FieldRef.entry? tag)).foldl
          (fun names entry => names.insert entry.1 entry.2) names := by
  induction refs generalizing names with
  | nil => rfl
  | cons ref rest ih =>
      rw [List.foldl_cons, ih, addField, ref.propertyNames_report tag, List.filterMap_cons,
        FieldRef.entry?]
      cases ref.field.parameterValue? tag "name" <;> rfl

namespace Service

/-- The property names of a service come of inserting the names that its fields give. -/
theorem propertyNames_eq_insertAll (service : Service) (tag : String)
    : (service.overrides tag).propertyNames
      = .insertAll (service.fields.filterMap (FieldRef.entry? tag)) :=
  PropertyNames.foldl_addField tag {} service.fields

/-- The entries of the fields of a service increase as the fields do. -/
theorem pairwise_entries (service : Service) (tag : String)
    : (service.fields.filterMap (FieldRef.entry? tag)).Pairwise fun a b =>
        compare a.1 b.1 = .lt := by
  rw [List.pairwise_filterMap]
  refine service.pairwise_fields.imp ?_
  rintro a b less ⟨_, _⟩ first ⟨_, _⟩ second
  obtain ⟨rfl, -⟩ := FieldRef.entry?_eq_some_iff.mp first
  obtain ⟨rfl, -⟩ := FieldRef.entry?_eq_some_iff.mp second
  exact less

/-- The property names of a service are those that its fields give, in the order of the fields. -/
theorem entries_propertyNames (service : Service) (tag : String)
    : (service.overrides tag).propertyNames.entries
      = service.fields.filterMap (FieldRef.entry? tag) := by
  rw [propertyNames_eq_insertAll,
    PropertyNames.entries_insertAll_of_increasing (service.pairwise_entries tag)]

end Service

/-- Identities of fields and places are ordered linearly by the first part in which they differ, and
are equal only if they agree in every part. So property names are a map of whatever is inserted: no
identity has two entries, and no two identities share one. The property names of a service are such
a map, with an entry for each field that gives one, in the order of the fields.
-/
theorem linearOrders_keep_overrides_apart
    : ComparesBy FieldId.Precedes
      ∧ ComparesBy Position.Precedes
      ∧ (∀ given : List (FieldId × String), (PropertyNames.insertAll given).MapOf given)
      ∧ ∀ (service : Service) (tag : String),
          (service.overrides tag).propertyNames
            = .insertAll (service.fields.filterMap (FieldRef.entry? tag))
          ∧ (service.overrides tag).propertyNames.entries
            = service.fields.filterMap (FieldRef.entry? tag) := by
  refine ⟨.of_less_iff fun _ _ => FieldId.compare_eq_lt_iff,
    .of_less_iff Position.compare_eq_lt_iff, PropertyNames.mapOf_insertAll, ?_⟩
  intro service tag
  exact ⟨service.propertyNames_eq_insertAll tag, service.entries_propertyNames tag⟩

/-- A field of a response comes behind one of the request, whatever their indices and names, and
keeps its entry beside it.
-/
example
    : (PropertyNames.insertAll
        [(⟨0, .response, 0, "", ""⟩, "a"), (⟨0, .request, 9, "Z", "z"⟩, "b"),
          (⟨0, .response, 0, "", ""⟩, "c")]).entries
      = [(⟨0, .request, 9, "Z", "z"⟩, "b"), (⟨0, .response, 0, "", ""⟩, "c")] := by
  decide +kernel

end SchemaNames
