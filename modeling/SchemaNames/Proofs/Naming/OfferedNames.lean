import SchemaNames.Naming.TypeRegistry

/-! What a registry holds after names were offered to it one after the other. A look-up finds the
first offered name that agrees in lower case, so that the registry is a view of the offers.
-/

namespace SchemaNames.TypeRegistry

/-- The spelling that stands under the lower-case form of a name. -/
def existing? (registry : TypeRegistry) (name : String) : Option String :=
  registry.spellings[Text.lowerCase name]?

/-- The registry with one more name under its lower-case form and behind all others. -/
def add (registry : TypeRegistry) (name : String) : TypeRegistry :=
  { spellings := registry.spellings.insert (Text.lowerCase name) name
    ordered := registry.ordered ++ [name] }

-----------------------------------------------------------------------------------------
-- One name
-----------------------------------------------------------------------------------------

/-- A name that is taken is answered and leaves the registry as it is. -/
theorem tryInsert_of_taken {registry : TypeRegistry} {name earlier : String}
    (taken : registry.existing? name = some earlier)
    : registry.tryInsert name = (registry, some earlier) := by
  rw [existing?] at taken
  simp only [tryInsert, Std.TreeMap.contains_eq_isSome_getElem?, taken, Option.isSome_some,
    ↓reduceIte]

/-- A name that is not there is added without an answer. -/
theorem tryInsert_of_absent {registry : TypeRegistry} {name : String}
    (absent : registry.existing? name = none)
    : registry.tryInsert name = (registry.add name, none) := by
  rw [existing?] at absent
  simp only [tryInsert, Std.TreeMap.contains_eq_isSome_getElem?, absent, Option.isSome_none,
    Bool.false_eq_true, ↓reduceIte, add]

/-- The answer is the spelling that was there, whether there was one or not. -/
theorem answer_tryInsert (registry : TypeRegistry) (name : String)
    : (registry.tryInsert name).2 = registry.existing? name := by
  cases taken : registry.existing? name with
  | some earlier => rw [tryInsert_of_taken taken]
  | none => rw [tryInsert_of_absent taken]

/-- A name that was added stands for all that agree with it in lower case. -/
theorem existing?_add (registry : TypeRegistry) (name other : String)
    : (registry.add name).existing? other
      = if Text.lowerCase name = Text.lowerCase other then some name
        else registry.existing? other := by
  simp only [existing?, add, Std.TreeMap.getElem?_insert, Std.LawfulEqOrd.compare_eq_iff_eq]

/-- The names of a registry grow by a new name and stay as they are at one that is taken. -/
theorem names_tryInsert (registry : TypeRegistry) (name : String)
    : (registry.tryInsert name).1.names
      = registry.names ++ (if (registry.existing? name).isNone then [name] else []) := by
  cases taken : registry.existing? name with
  | some earlier => simp [tryInsert_of_taken taken]
  | none => simp [tryInsert_of_absent taken, add, names]

-----------------------------------------------------------------------------------------
-- All names that were offered
-----------------------------------------------------------------------------------------

/-- (registry.Holds offered) says that the registry finds for every name the first offered
one that agrees with it in lower case.
-/
def Holds (registry : TypeRegistry) (offered : List String) : Prop :=
  ∀ name,
    registry.existing? name
      = offered.find? fun earlier => Text.lowerCase earlier = Text.lowerCase name

/-- A new registry holds nothing, as its map is empty. -/
theorem holds_empty : ({} : TypeRegistry).Holds [] :=
  fun _ => Std.TreeMap.getElem?_emptyc

/-- Offering one more name keeps the registry a view of the offers. Witness: a name that is
taken has an earlier offer that every equal look-up finds first.
-/
theorem Holds.tryInsert {registry : TypeRegistry} {offered : List String}
    (holds : registry.Holds offered) (name : String)
    : (registry.tryInsert name).1.Holds (offered ++ [name]) := by
  intro other
  rw [List.find?_append]
  cases taken : registry.existing? name with
  | none =>
      rw [tryInsert_of_absent taken, existing?_add]
      by_cases same : Text.lowerCase name = Text.lowerCase other
      · have absent : registry.existing? other = none := by
          rw [existing?, ← same, ← existing?, taken]
        rw [← holds other, absent]
        simp [same]
      · simp [same, holds other]
  | some earlier =>
      rw [tryInsert_of_taken taken, holds other]
      by_cases same : Text.lowerCase name = Text.lowerCase other
      · rw [← same, ← holds name, taken, Option.some_or]
      · simp [same]

end SchemaNames.TypeRegistry
