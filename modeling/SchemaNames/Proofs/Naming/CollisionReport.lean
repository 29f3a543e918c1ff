import SchemaNames.Proofs.Naming.Outcome

/-! The exact collision report of a service. It is read off the candidates alone, and lenient
naming passes it on unchanged.
-/

namespace SchemaNames

/-- Every error about a candidate is one about a generated type, by induction on the candidates. -/
theorem kind_of_mem_collectAfter_collision? {earlier rest : List Candidate}
    {error : ValidationError}
    (reported : error ∈ collectAfter Candidate.collision? earlier rest)
    : error.kind = .duplicateGeneratedType := by
  induction rest generalizing earlier with
  | nil => cases reported
  | cons candidate rest ih =>
      rw [collectAfter_cons] at reported
      rcases List.mem_append.mp reported with here | later
      · obtain ⟨taker, _, rfl⟩ := Option.map_eq_some_iff.mp (Option.mem_toList.mp here)
        rfl
      · exact ih later

/-- No error about attributes is one about a generated type, element by element. -/
theorem Service.kind_ne_of_mem_attributeErrors {service : Service} {tag : String}
    {error : ValidationError} (reported : error ∈ service.attributeErrors tag)
    : error.kind ≠ .duplicateGeneratedType := by
  rw [service.attributeErrors_eq tag] at reported
  obtain ⟨placed, _, reported⟩ := List.mem_flatMap.mp reported
  exact Element.kind_ne_of_mem_errors_decode reported

/-- The errors of an outcome that are about generated types are those about the candidates. -/
theorem Service.filter_errors_eq (service : Service) (options : Options)
    : (service.attributeErrors options.language
          ++ collisionErrors (service.candidates options)).filter
        (·.kind = .duplicateGeneratedType)
      = collisionErrors (service.candidates options) := by
  rw [List.filter_append,
    List.filter_eq_nil_iff.mpr fun error reported => by
      simpa using service.kind_ne_of_mem_attributeErrors reported,
    List.filter_eq_self.mpr fun error reported => by
      simpa using kind_of_mem_collectAfter_collision? reported,
    List.nil_append]

/-- The names that are kept are exactly the candidates that agree with no earlier one in lower
case, and each other candidate is reported once, at its own member and with the first earlier
candidate that agrees. Lenient naming gives the same names and errors. Witness: registration
is first occurrence among the candidates.
-/
theorem Service.collisions_exact (service : Service) (options : Options)
    (recognized : Member.unrecognized ∉ service.members)
    : let candidates := service.candidates options
      service.collisions options
        = { typeNames := .ok (keptNames candidates), errors := collisionErrors candidates }
      ∧ (∃ outcome,
          service.tryResolve options = .ok outcome
          ∧ outcome.info.typeNames = keptNames candidates
          ∧ outcome.errors.filter (·.kind = .duplicateGeneratedType)
            = collisionErrors candidates)
      ∧ (keptNames candidates).length + (collisionErrors candidates).length
        = candidates.length
      ∧ (keptNames candidates).Pairwise fun a b => Text.lowerCase a ≠ Text.lowerCase b :=
  ⟨Service.collisions_eq recognized options,
    ⟨_, Service.tryResolve_of_recognized recognized options, rfl,
      service.filter_errors_eq options⟩,
    length_kept_add_length_collision [] _, (pairwise_collectAfter_kept? [] _).2⟩

/-- A service whose three data types agree in lower case keeps the first, and each of the others
is reported with the spelling of the first; so is a data object that has the name of a request,
and a method is reported for its request and its response.
-/
theorem Service.collisions_exact_threeSpellings
    : let service : Service :=
        { name := "api"
          members :=
            [.dataObject { name := "item" }, .enumeration { name := "ITEM" },
              .errorSet { name := "Item", position := { line := 7, column := 3 } },
              .method { name := "get", position := { line := 9, column := 3 } },
              .dataObject { name := "getRequest", position := { line := 12, column := 3 } },
              .method { name := "GET", position := { line := 15, column := 3 } }] }
      Member.unrecognized ∉ service.members
      ∧ (∃ outcome,
          service.tryResolve {} = .ok outcome
          ∧ outcome.info.typeNames = ["Api", "Item", "GetRequest", "GetResponse"]
          ∧ outcome.errors.filter (·.kind = .duplicateGeneratedType)
            = [⟨.duplicateGeneratedType,
                "duplicate generated type 'ITEM' for enumeration 'ITEM' (conflicts with 'Item')",
                {}⟩,
              ⟨.duplicateGeneratedType, "duplicate generated type 'Item' for error set 'Item'",
                { line := 7, column := 3 }⟩,
              ⟨.duplicateGeneratedType,
                "duplicate generated type 'GetRequest' for data object 'getRequest'",
                { line := 12, column := 3 }⟩,
              ⟨.duplicateGeneratedType,
                "duplicate generated type 'GETRequest' for method 'GET'"
                  ++ " (conflicts with 'GetRequest')",
                { line := 15, column := 3 }⟩,
              ⟨.duplicateGeneratedType,
                "duplicate generated type 'GETResponse' for method 'GET'"
                  ++ " (conflicts with 'GetResponse')",
                { line := 15, column := 3 }⟩]) := by
  intro service
  have recognized : Member.unrecognized ∉ service.members := by decide
  obtain ⟨_, ⟨outcome, lenient, names, errors⟩, _⟩ :=
    Service.collisions_exact service {} recognized
  exact ⟨recognized, outcome, lenient, names.trans (by decide +kernel),
    errors.trans (by decide +kernel)⟩

end SchemaNames
