import Mathlib.Data.List.Induction
import SchemaNames.Proofs.Naming.OfferedNames
import SchemaNames.Proofs.Text.LowerCase

/-! Registries after any number of offers. The map and the ordered names stay in step, each name
that is taken is answered with its first spelling, and all others are registered.
-/

namespace SchemaNames.TypeRegistry

/-- Offers names one after the other, and lists what each offer answers. -/
def offerAll (registry : TypeRegistry) : List String → TypeRegistry × List (Option String)
  | [] => (registry, [])
  | name :: rest =>
      let (next, answer) := registry.tryInsert name
      let (last, answers) := next.offerAll rest
      (last, answer :: answers)

-----------------------------------------------------------------------------------------
-- The map and the ordered names
-----------------------------------------------------------------------------------------

/-- Holds of a registry whose map has exactly the ordered names, each under its lower-case form,
and whose ordered names all differ in lower case.
-/
structure InStep (registry : TypeRegistry) : Prop where
  distinct : registry.ordered.Pairwise fun a b => Text.lowerCase a ≠ Text.lowerCase b
  spelling_iff
    : ∀ key name,
        registry.spellings[key]? = some name
        ↔ name ∈ registry.ordered ∧ Text.lowerCase name = key

theorem inStep_empty : InStep {} where
  distinct := .nil
  spelling_iff _ _ := by simp

/-- A name that is added keeps the two in step if its lower-case form was not there. -/
theorem InStep.add {registry : TypeRegistry} (inStep : registry.InStep) {name : String}
    (absent : registry.existing? name = none)
    : (registry.add name).InStep := by
  have fresh : ∀ other ∈ registry.ordered, Text.lowerCase other ≠ Text.lowerCase name := by
    intro other listed same
    have taken := (inStep.spelling_iff _ other).mpr ⟨listed, same⟩
    rw [existing?, taken] at absent
    cases absent
  constructor
  · refine List.pairwise_append.mpr ⟨inStep.distinct, List.pairwise_singleton _ _, ?_⟩
    intro other listed _ last
    obtain rfl := List.mem_singleton.mp last
    exact fresh other listed
  · intro key other
    simp only [TypeRegistry.add, Std.TreeMap.getElem?_insert, Std.LawfulEqOrd.compare_eq_iff_eq,
      List.mem_append, List.mem_singleton]
    by_cases same : Text.lowerCase name = key
    · subst same
      rw [if_pos rfl, Option.some.injEq]
      constructor
      · rintro rfl
        exact ⟨.inr rfl, rfl⟩
      · rintro ⟨listed | rfl, agrees⟩
        · exact absurd agrees (fresh other listed)
        · rfl
    · rw [if_neg same, inStep.spelling_iff]
      refine and_congr_left fun agrees => (or_iff_left ?_).symm
      rintro rfl
      exact same agrees

/-- An offer keeps the map and the ordered names in step. -/
theorem InStep.tryInsert {registry : TypeRegistry} (inStep : registry.InStep) (name : String)
    : (registry.tryInsert name).1.InStep := by
  cases taken : registry.existing? name with
  | some earlier => rwa [tryInsert_of_taken taken]
  | none =>
      rw [tryInsert_of_absent taken]
      exact inStep.add taken

/-- The keys of the map are the lower-case forms of the ordered names, each of them once. -/
theorem InStep.keys_perm {registry : TypeRegistry} (inStep : registry.InStep)
    : registry.spellings.keys.Perm (registry.ordered.map Text.lowerCase) := by
  have forms : (registry.ordered.map Text.lowerCase).Nodup :=
    List.pairwise_map.mpr inStep.distinct
  refine (List.perm_ext_iff_of_nodup Std.TreeMap.nodup_keys forms).mpr fun key => ?_
  rw [Std.TreeMap.mem_keys, Std.TreeMap.mem_iff_isSome_getElem?, Option.isSome_iff_exists,
    List.mem_map]
  exact exists_congr fun name => inStep.spelling_iff key name

-----------------------------------------------------------------------------------------
-- Any number of offers
-----------------------------------------------------------------------------------------

/-- One more offer comes after all others, by induction on these. -/
theorem offerAll_append_singleton (registry : TypeRegistry) (offered : List String)
    (name : String)
    : registry.offerAll (offered ++ [name])
      = (((registry.offerAll offered).1.tryInsert name).1,
          (registry.offerAll offered).2 ++ [((registry.offerAll offered).1.tryInsert name).2]) := by
  induction offered generalizing registry with
  | nil => rfl
  | cons first rest ih =>
      rw [List.cons_append, offerAll, offerAll]
      simp only [ih, List.cons_append]

/-- Offers keep a registry a view of what was offered. -/
theorem holds_offerAll (offered : List String) : (offerAll {} offered).1.Holds offered := by
  induction offered using List.reverseRecOn with
  | nil => exact holds_empty
  | append_singleton offered name ih =>
      rw [offerAll_append_singleton]
      exact ih.tryInsert name

/-- Offers keep a registry in step. -/
theorem inStep_offerAll (offered : List String) : (offerAll {} offered).1.InStep := by
  induction offered using List.reverseRecOn with
  | nil => exact inStep_empty
  | append_singleton offered name ih =>
      rw [offerAll_append_singleton]
      exact ih.tryInsert name

/-- The registry grows with each offer that is not answered with a spelling. -/
theorem size_offerAll (offered : List String)
    : (offerAll {} offered).1.size = (offerAll {} offered).2.count none := by
  induction offered using List.reverseRecOn with
  | nil => rfl
  | append_singleton offered name ih =>
      rw [offerAll_append_singleton, List.count_append, ← ih]
      cases taken : (offerAll {} offered).1.existing? name with
      | some earlier => simp [tryInsert_of_taken taken]
      | none => simp [tryInsert_of_absent taken, add, size]

/-- A registry after any offers. The lower-case forms of its ordered names are all different, the
keys of its map are exactly these forms, and each key stands for the name it was folded from; it
has as many names as there were offers without an answer. One more offer of a name that agrees
with an earlier one in lower case is answered with the first such spelling and changes nothing,
and any other is added to the map and the ordered names without an answer. A name is there exactly
if it agrees with an offered one, which its lower-case form then does as well.
-/
theorem offerAll_invariant (offered : List String)
    : match offerAll {} offered with
      | (registry, answers) =>
          registry.names.Pairwise (fun a b => Text.lowerCase a ≠ Text.lowerCase b)
          ∧ registry.spellings.keys.Perm (registry.names.map Text.lowerCase)
          ∧ (∀ key name,
              registry.spellings[key]? = some name
              ↔ name ∈ registry.names ∧ Text.lowerCase name = key)
          ∧ registry.size = answers.count none
          ∧ (∀ name,
              offerAll {} (offered ++ [name])
              = match
                  offered.find? fun earlier => Text.lowerCase earlier = Text.lowerCase name
                with
                | some first => (registry, answers ++ [some first])
                | none => (registry.add name, answers ++ [none]))
          ∧ (∀ name,
              registry.contains name
              = offered.any fun earlier => Text.lowerCase earlier = Text.lowerCase name)
          ∧ ∀ name,
              Text.lowerCase (Text.lowerCase name) = Text.lowerCase name
              ∧ registry.contains (Text.lowerCase name) = registry.contains name := by
  have holds := holds_offerAll offered
  have inStep := inStep_offerAll offered
  have size_eq := size_offerAll offered
  have next (name : String) := offerAll_append_singleton {} offered name
  generalize offerAll {} offered = outcome at *
  obtain ⟨registry, answers⟩ := outcome
  have contains_eq (name : String)
      : registry.contains name
        = offered.any fun earlier => Text.lowerCase earlier = Text.lowerCase name := by
    rw [contains, Std.TreeMap.contains_eq_isSome_getElem?, ← existing?, holds name,
      List.isSome_find?]
  refine ⟨inStep.distinct, inStep.keys_perm, inStep.spelling_iff, size_eq, ?_, contains_eq, ?_⟩
  · intro name
    rw [next, ← holds name]
    cases taken : registry.existing? name with
    | some first => rw [tryInsert_of_taken taken]
    | none => rw [tryInsert_of_absent taken]
  · intro name
    have settled := Text.lowerCase_lowerCase name
    exact ⟨settled, by rw [contains_eq, contains_eq, settled]⟩

/-- A capital sigma at the end of a word agrees with a final one, and not with another small one. -/
example
    : (offerAll {} ["ΟΔΟς", "ΟΔΟΣ", "οδοσ"]).2 = [none, some "ΟΔΟς", none] := by
  decide +kernel

end SchemaNames.TypeRegistry
