import SchemaNames.Proofs.Naming.Candidates

/-! The collision report of a service in terms of its candidates. Registering member after member
keeps the first of the names that agree in lower case and reports each later one, and it breaks
off at the first member that is not recognized.
-/

namespace SchemaNames

-----------------------------------------------------------------------------------------
-- Members that are recognized
-----------------------------------------------------------------------------------------

/-- A recognized member is one element, and its candidates are its type names with that
element, by cases on its kind.
-/
theorem Member.candidates_of_recognized {member : Member} (recognized : member ≠ .unrecognized)
    (options : Options)
    : ∃ element names,
        member.element? = some element
        ∧ member.typeNames? options = some names
        ∧ member.candidates options = names.map (Candidate.mk element) := by
  cases member with
  | method m => exact ⟨_, _, rfl, rfl, rfl⟩
  | dataObject d => exact ⟨_, _, rfl, rfl, rfl⟩
  | enumeration e => exact ⟨_, _, rfl, rfl, rfl⟩
  | errorSet s => exact ⟨_, _, rfl, rfl, rfl⟩
  | unrecognized => exact absurd rfl recognized

/-- The error that is reported is the one that a candidate asks for, as the texts of the two
differ in bracketing only.
-/
theorem Candidate.duplicateGeneratedType_eq (candidate taker : Candidate)
    : ValidationError.duplicateGeneratedType candidate.element candidate.name taker.name
      = candidate.collision taker := by
  simp only [ValidationError.duplicateGeneratedType, Candidate.collision, Element.describe,
    String.append_assoc]

-----------------------------------------------------------------------------------------
-- Registries that hold candidates
-----------------------------------------------------------------------------------------

/-- A registry that holds the names of candidates finds the first taker of a name. -/
theorem TypeRegistry.Holds.existing?_eq {registry : TypeRegistry} {earlier : List Candidate}
    (holds : registry.Holds (earlier.map (·.name))) (candidate : Candidate)
    : registry.existing? candidate.name = (candidate.taker? earlier).map (·.name) := by
  rw [holds candidate.name, List.find?_map]
  rfl

/-- A registry that holds the earlier candidates keeps the same names. -/
theorem TypeRegistry.Holds.kept?_eq {registry : TypeRegistry} {earlier : List Candidate}
    (holds : registry.Holds (earlier.map (·.name))) (candidate : Candidate)
    : candidate.kept? earlier
      = if (registry.existing? candidate.name).isNone then some candidate.name else none := by
  simp only [Candidate.kept?, holds.existing?_eq, Option.isNone_map]

/-- A registry that holds the earlier candidates reports the same errors. -/
theorem TypeRegistry.Holds.collision?_eq {registry : TypeRegistry} {earlier : List Candidate}
    (holds : registry.Holds (earlier.map (·.name))) (candidate : Candidate)
    : candidate.collision? earlier
      = (registry.existing? candidate.name).map
          (ValidationError.duplicateGeneratedType candidate.element candidate.name) := by
  rw [holds.existing?_eq, Option.map_map, Candidate.collision?]
  congr 1
  exact funext fun taker => (candidate.duplicateGeneratedType_eq taker).symm

/-- Registering the names of one element makes the registry hold them, keeps those that are
free and reports the others. Witness: induction on the names, where the registry holds the
earlier candidates.
-/
theorem TypeRegistry.register_eq {registry : TypeRegistry} {earlier : List Candidate}
    (holds : registry.Holds (earlier.map (·.name))) (element : Element) (names : List String)
    : let own := names.map (Candidate.mk element)
      (registry.register element names).1.Holds ((earlier ++ own).map (·.name))
      ∧ (registry.register element names).1.names
        = registry.names ++ collectAfter Candidate.kept? earlier own
      ∧ (registry.register element names).2 = collectAfter Candidate.collision? earlier own := by
  induction names generalizing registry earlier with
  | nil => simpa [register] using holds
  | cons name rest ih =>
      have holdsMore
          : (registry.tryInsert name).1.Holds
              ((earlier ++ [(⟨element, name⟩ : Candidate)]).map (·.name)) := by
        simpa using holds.tryInsert name
      obtain ⟨registered, kept, reported⟩ := ih holdsMore
      rw [names_tryInsert] at kept
      simp only [register, List.map_cons, collectAfter_cons, holds.kept?_eq,
        holds.collision?_eq, answer_tryInsert]
      refine ⟨?_, ?_, ?_⟩
      · cases registry.existing? name <;> simpa using registered
      · cases taken : registry.existing? name <;> simp [kept, taken]
      · cases registry.existing? name <;> simp [reported]

/-- Registering recognized members keeps the free candidates and reports the others, by
induction on the members with a registry that holds the earlier candidates.
-/
theorem TypeRegistry.registerMembers_eq (service : Service) (options : Options)
    {registry : TypeRegistry} {earlier : List Candidate}
    (holds : registry.Holds (earlier.map (·.name))) (index : Nat) {members : List Member}
    (recognized : Member.unrecognized ∉ members)
    : let candidates := members.flatMap (Member.candidates options)
      registry.registerMembers service options index members
        = { typeNames := .ok (registry.names ++ collectAfter Candidate.kept? earlier candidates)
            errors := collectAfter Candidate.collision? earlier candidates } := by
  induction members generalizing registry earlier index with
  | nil => simp [registerMembers]
  | cons member rest ih =>
      obtain ⟨here, later⟩ := not_or.mp (mt List.mem_cons.mpr recognized)
      obtain ⟨element, names, isElement, hasNames, own⟩ :=
        Member.candidates_of_recognized (Ne.symm here) options
      obtain ⟨holdsMore, kept, reported⟩ := register_eq holds element names
      rw [← own] at holdsMore kept reported
      simp only [registerMembers, isElement, hasNames, ih holdsMore (index + 1) later, kept,
        reported, List.flatMap_cons, collectAfter_append, List.append_assoc]

/-- The registry with only the type name of a service holds the candidate of the root. -/
theorem Service.holds_typeName (service : Service)
    : (TypeRegistry.tryInsert {} service.typeName).1.Holds
        ([(⟨service.element, service.typeName⟩ : Candidate)].map (·.name)) :=
  TypeRegistry.holds_empty.tryInsert service.typeName

/-- The collision report of a service whose members are recognized, by registering the root
and then the members.
-/
theorem Service.collisions_eq {service : Service}
    (recognized : Member.unrecognized ∉ service.members) (options : Options)
    : service.collisions options
      = { typeNames := .ok (keptNames (service.candidates options))
          errors := collisionErrors (service.candidates options) } := by
  have names := TypeRegistry.names_tryInsert {} service.typeName
  have registered :=
    TypeRegistry.registerMembers_eq service options service.holds_typeName 0 recognized
  rw [Service.collisions, registered, names]
  rfl

/-- A registration ends at a member that is not recognized, with the errors of the members before
it; what follows has no say. Witness: induction on the members before it.
-/
theorem TypeRegistry.registerMembers_append_unrecognized (service : Service) (options : Options)
    (registry : TypeRegistry) (index : Nat) {before : List Member}
    (recognized : Member.unrecognized ∉ before) (after : List Member)
    : registry.registerMembers service options index (before ++ .unrecognized :: after)
      = { typeNames := .error (.unrecognizedMember service.name (index + before.length))
          errors := (registry.registerMembers service options index before).errors } := by
  induction before generalizing registry index with
  | nil => rfl
  | cons member rest ih =>
      obtain ⟨here, later⟩ := not_or.mp (mt List.mem_cons.mpr recognized)
      obtain ⟨element, names, isElement, hasNames, -⟩ :=
        Member.candidates_of_recognized (Ne.symm here) options
      simp only [List.cons_append, registerMembers, isElement, hasNames, ih _ _ later,
        List.length_cons, Nat.add_assoc, Nat.add_comm 1]

/-- The first member that is not recognized stands behind all that are before it. -/
theorem exists_before_unrecognized {members : List Member}
    (unrecognized : Member.unrecognized ∈ members)
    : ∃ before after,
        members = before ++ .unrecognized :: after
        ∧ Member.unrecognized ∉ before
        ∧ members.idxOf .unrecognized = before.length := by
  obtain ⟨before, after, rfl, recognized⟩ := List.eq_append_cons_of_mem unrecognized
  refine ⟨before, after, rfl, recognized, ?_⟩
  rw [List.idxOf_append, if_neg recognized, List.idxOf_cons_self, Nat.zero_add]

/-- The first member that is not recognized decides the failure of a registration. -/
theorem TypeRegistry.typeNames_registerMembers_of_unrecognized (service : Service)
    (options : Options) (registry : TypeRegistry) (index : Nat) {members : List Member}
    (unrecognized : Member.unrecognized ∈ members)
    : (registry.registerMembers service options index members).typeNames
      = .error (.unrecognizedMember service.name (index + members.idxOf .unrecognized)) := by
  obtain ⟨before, after, rfl, recognized, first⟩ := exists_before_unrecognized unrecognized
  rw [first, registerMembers_append_unrecognized service options registry index recognized]

/-- A service with a member that is not recognized has no type names. -/
theorem Service.typeNames_collisions_of_unrecognized {service : Service}
    (unrecognized : Member.unrecognized ∈ service.members) (options : Options)
    : (service.collisions options).typeNames
      = .error (.unrecognizedMember service.name (service.members.idxOf .unrecognized)) := by
  rw [Service.collisions,
    TypeRegistry.typeNames_registerMembers_of_unrecognized service options _ 0 unrecognized,
    Nat.zero_add]

end SchemaNames
