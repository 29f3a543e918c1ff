import SchemaNames.Proofs.Naming.Outcome

/-! Services about which nothing is reported. Validity is stated of the elements and the generated
names of a service, and the strict entry point accepts exactly the valid services.
-/

namespace SchemaNames

-----------------------------------------------------------------------------------------
-- Valid elements and services
-----------------------------------------------------------------------------------------

/-- At most one attribute of an element has the tag as its name; it stands only on the service
or on a field, and there with no other parameter than the known one.
-/
structure Element.WellTagged (element : Element) (tag : String) : Prop where
  once : (element.attributes.filter (·.name = tag)).length ≤ 1
  whereKnown
    : ∀ attr ∈ element.attributes,
        attr.name = tag → element.kind = .service ∨ element.kind = .field
  namespaceOnly
    : element.kind = .service
      → ∀ attr ∈ element.attributes,
          attr.name = tag → ∀ parameter ∈ attr.parameters, parameter.name = "namespace"
  nameOnly
    : element.kind = .field
      → ∀ attr ∈ element.attributes,
          attr.name = tag → ∀ parameter ∈ attr.parameters, parameter.name = "name"

/-- Every element is well tagged for the language, and the generated names differ in lower
case.
-/
structure Service.Valid (service : Service) (options : Options) : Prop where
  wellTagged : ∀ element ∈ service.selfAndMembers, element.WellTagged options.language
  namesApart
    : ((service.candidates options).map (·.name)).Pairwise fun a b =>
        Text.lowerCase a ≠ Text.lowerCase b

-----------------------------------------------------------------------------------------
-- Nothing is reported about them
-----------------------------------------------------------------------------------------

/-- A parameter is known on services and fields only, by cases on the kind. -/
theorem ElementKind.exists_knownParameter?_iff {kind : ElementKind} {parameters : List Parameter}
    : (∃ name,
          kind.knownParameter? = some name ∧ ∀ parameter ∈ parameters, parameter.name = name)
      ↔ (kind = .service ∨ kind = .field)
        ∧ (kind = .service → ∀ parameter ∈ parameters, parameter.name = "namespace")
        ∧ (kind = .field → ∀ parameter ∈ parameters, parameter.name = "name") := by
  cases kind <;> simp [knownParameter?]

/-- Nothing is reported about an element exactly when it is well tagged. Witness: the attributes
that decoding looks at are those whose name is the tag.
-/
theorem Element.errors_decode_eq_nil_iff_wellTagged {element : Element} {tag : String}
    : (element.decode tag).errors = [] ↔ element.WellTagged tag := by
  simp only [errors_decode_eq_nil_iff, ElementKind.exists_knownParameter?_iff,
    Declaration.attributesTagged, List.mem_filter, decide_eq_true_eq, and_imp]
  constructor
  · rintro ⟨once, accepted⟩
    refine ⟨once, ?_, ?_, ?_⟩
    · exact fun attr member tagged => (accepted attr member tagged).1
    · exact fun isService attr member tagged => (accepted attr member tagged).2.1 isService
    · exact fun isField attr member tagged => (accepted attr member tagged).2.2 isField
  · intro wellTagged
    refine ⟨wellTagged.once, fun attr member tagged => ⟨?_, ?_, ?_⟩⟩
    · exact wellTagged.whereKnown attr member tagged
    · exact fun isService => wellTagged.namespaceOnly isService attr member tagged
    · exact fun isField => wellTagged.nameOnly isField attr member tagged

/-- Nothing is reported about the attributes of a service exactly when all its elements are well
tagged.
-/
theorem Service.attributeErrors_eq_nil_iff {service : Service} {tag : String}
    : service.attributeErrors tag = []
      ↔ ∀ element ∈ service.selfAndMembers, element.WellTagged tag := by
  simp only [service.attributeErrors_eq_selfAndMembers tag, List.flatMap_eq_nil_iff,
    Element.errors_decode_eq_nil_iff_wellTagged]

/-- Nothing is reported about a service exactly when it is valid. -/
theorem Service.errors_eq_nil_iff_valid (service : Service) (options : Options)
    : service.attributeErrors options.language ++ collisionErrors (service.candidates options)
        = []
      ↔ service.Valid options := by
  have apart : (service.candidates options).Pairwise Candidate.Apart
      ↔ ((service.candidates options).map (·.name)).Pairwise fun a b =>
          Text.lowerCase a ≠ Text.lowerCase b := by
    rw [List.pairwise_map]
    exact Iff.rfl
  rw [List.append_eq_nil_iff, attributeErrors_eq_nil_iff, collisionErrors_eq_nil_iff, apart]
  exact ⟨fun ⟨wellTagged, namesApart⟩ => ⟨wellTagged, namesApart⟩,
    fun valid => ⟨valid.wellTagged, valid.namesApart⟩⟩

-----------------------------------------------------------------------------------------
-- Strict naming accepts the valid services
-----------------------------------------------------------------------------------------

/-- Strict naming succeeds exactly on valid services whose members are recognized; of any other
service with recognized members it gives the errors that lenient naming reports. Witness: the
errors are those about attributes and those about candidates, and neither exist exactly if the
service is valid.
-/
theorem Service.resolve_isOk_iff_valid (service : Service) (options : Options)
    : ((∃ info, service.resolve options = .ok info)
        ↔ Member.unrecognized ∉ service.members ∧ service.Valid options)
      ∧ (Member.unrecognized ∉ service.members
          → ∃ outcome,
              service.tryResolve options = .ok outcome
              ∧ (service.Valid options → service.resolve options = .ok outcome.info)
              ∧ (¬ service.Valid options
                  → outcome.errors ≠ []
                    ∧ service.resolve options = .error (.invalid outcome.errors))) := by
  have strict {outcome} (lenient : service.tryResolve options = .ok outcome)
      : service.resolve options = outcome.toResult := by
    rw [resolve, lenient]
    rfl
  by_cases unrecognized : Member.unrecognized ∈ service.members
  · refine ⟨⟨?_, fun both => absurd unrecognized both.1⟩, fun recognized =>
      absurd unrecognized recognized⟩
    rintro ⟨info, accepted⟩
    rw [resolve, tryResolve_of_unrecognized unrecognized options] at accepted
    cases accepted
  · have lenient := tryResolve_of_recognized unrecognized options
    have silent := service.errors_eq_nil_iff_valid options
    by_cases valid : service.Valid options
    · have accepted := (strict lenient).trans
        (NamingOutcome.toResult_of_silent (silent.mpr valid))
      exact ⟨iff_of_true ⟨_, accepted⟩ ⟨unrecognized, valid⟩,
        fun _ => ⟨_, lenient, fun _ => accepted, fun invalid => absurd valid invalid⟩⟩
    · have reported := mt silent.mp valid
      have refused := (strict lenient).trans (NamingOutcome.toResult_of_reported reported)
      refine ⟨iff_of_false ?_ fun both => valid both.2, fun _ =>
        ⟨_, lenient, fun isValid => absurd isValid valid, fun _ => ⟨reported, refused⟩⟩⟩
      rintro ⟨info, accepted⟩
      rw [refused] at accepted
      cases accepted

end SchemaNames
