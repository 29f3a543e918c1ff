import SchemaNames.Proofs.Naming.EffectiveNames

/-! Services with more members at the end. What was named or reported before stays: new names and
overrides come behind the old ones, and new errors come behind the old ones of the same pass.
-/

namespace SchemaNames

-----------------------------------------------------------------------------------------
-- What is kept and what is added
-----------------------------------------------------------------------------------------

/-- (outcome.KeptBy other) says that another outcome has everything that this one has: the same
namespace, the names of types in front of others, the property names, and the errors in their
order.
-/
structure NamingOutcome.KeptBy (outcome other : NamingOutcome) : Prop where
  effectiveNamespace : other.info.effectiveNamespace = outcome.info.effectiveNamespace
  namespaceOverride : other.info.namespaceOverride = outcome.info.namespaceOverride
  typeNames : outcome.info.typeNames <+: other.info.typeNames
  overrides
    : ∀ id name,
        outcome.info.propertyNameOverride id = some name
        → other.info.propertyNameOverride id = some name
  errors : outcome.errors.Sublist other.errors

/-- (outcome.ExtendedBy service options member other) says what a member at the end of a service
adds to the outcome of the service. The errors about its attributes come from the member alone;
those about its type names are each about a candidate of the member that an earlier one has taken.
-/
structure NamingOutcome.ExtendedBy (outcome : NamingOutcome) (service : Service)
    (options : Options) (member : Member) (other : NamingOutcome)
    : Prop extends outcome.KeptBy other where
  propertyNames
    : ∃ added,
        other.info.propertyNames.entries = outcome.info.propertyNames.entries ++ added
        ∧ ∀ entry ∈ added, entry.1.member = service.members.length
  errorsBefore
    : outcome.errors
      = service.attributeErrors options.language ++ (service.collisions options).errors
  errorsAfter
    : ∃ collisions,
        other.errors
          = service.attributeErrors options.language
            ++ member.attributeErrors options.language service.members.length
            ++ (service.collisions options).errors
            ++ collisions
        ∧ ∀ error ∈ collisions,
            ∃ candidate ∈ member.candidates options,
              ∃ taker ∈ service.candidates options ++ member.candidates options,
                error = candidate.collision taker

namespace NamingOutcome.KeptBy

theorem refl (outcome : NamingOutcome) : outcome.KeptBy outcome :=
  ⟨rfl, rfl, List.prefix_rfl, fun _ _ found => found, .refl _⟩

theorem trans {first second third : NamingOutcome} (earlier : first.KeptBy second)
    (later : second.KeptBy third)
    : first.KeptBy third where
  effectiveNamespace := later.effectiveNamespace.trans earlier.effectiveNamespace
  namespaceOverride := later.namespaceOverride.trans earlier.namespaceOverride
  typeNames := earlier.typeNames.trans later.typeNames
  overrides id name found := later.overrides id name (earlier.overrides id name found)
  errors := earlier.errors.trans later.errors

end NamingOutcome.KeptBy

/-- A name is found as before when entries are added behind the others. -/
theorem PropertyNames.find?_of_append {names more : PropertyNames}
    {added : List (FieldId × String)} (grown : more.entries = names.entries ++ added)
    {id : FieldId} {name : String} (found : names.find? id = some name)
    : more.find? id = some name := by
  rw [find?_eq] at found ⊢
  rw [grown, List.find?_append, Option.map_or, found, Option.some_or]

/-- Every collision is about one of the candidates and an earlier one, by induction on the
candidates.
-/
theorem exists_of_mem_collectAfter_collision? {earlier rest : List Candidate}
    {error : ValidationError}
    (reported : error ∈ collectAfter Candidate.collision? earlier rest)
    : ∃ candidate ∈ rest, ∃ taker ∈ earlier ++ rest, error = candidate.collision taker := by
  induction rest generalizing earlier with
  | nil => cases reported
  | cons candidate rest ih =>
      rw [collectAfter_cons] at reported
      rcases List.mem_append.mp reported with here | later
      · obtain ⟨taker, taken, rfl⟩ := Option.map_eq_some_iff.mp (Option.mem_toList.mp here)
        exact ⟨candidate, List.mem_cons_self, taker,
          List.mem_append_left _ (List.mem_of_find?_eq_some taken), rfl⟩
      · obtain ⟨other, inRest, taker, known, same⟩ := ih later
        rw [List.append_assoc] at known
        exact ⟨other, List.mem_cons_of_mem _ inRest, taker, known, same⟩

-----------------------------------------------------------------------------------------
-- One more member
-----------------------------------------------------------------------------------------

namespace Service

theorem candidates_withMember (service : Service) (member : Member) (options : Options)
    : (service.withMember member).candidates options
      = service.candidates options ++ member.candidates options := by
  simp [candidates, withMember, Service.element]

theorem fields_withMember (service : Service) (member : Member)
    : (service.withMember member).fields
      = service.fields ++ member.fields service.members.length := by
  simp [fields, withMember, List.mapIdx_concat]

theorem attributeErrors_withMember (service : Service) (member : Member) (tag : String)
    : (service.withMember member).attributeErrors tag
      = service.attributeErrors tag ++ member.attributeErrors tag service.members.length := by
  simp [attributeErrors, withMember, List.mapIdx_concat, Service.element]

/-- The property names of the fields of one more member come behind the others, and their fields
stand in that member.
-/
theorem exists_entries_withMember (service : Service) (member : Member) (tag : String)
    : ∃ added,
        ((service.withMember member).overrides tag).propertyNames.entries
          = (service.overrides tag).propertyNames.entries ++ added
        ∧ ∀ entry ∈ added, entry.1.member = service.members.length := by
  refine ⟨(member.fields service.members.length).filterMap (FieldRef.entry? tag), ?_, ?_⟩
  · rw [entries_propertyNames, entries_propertyNames, fields_withMember, List.filterMap_append]
  · intro entry listed
    obtain ⟨ref, inMember, given⟩ := List.mem_filterMap.mp listed
    obtain ⟨name, _, rfl⟩ := Option.map_eq_some_iff.mp given
    exact Member.member_of_mem_fields inMember

variable {service : Service} {options : Options}

/-- A failure stays the same when a member is added, as the first member that is not recognized
does.
-/
theorem tryResolve_withMember_of_error {failure : Failure}
    (failed : service.tryResolve options = .error failure) (member : Member)
    : (service.withMember member).tryResolve options = .error failure := by
  obtain ⟨unrecognized, rfl⟩ := unrecognized_of_tryResolve failed
  have still : Member.unrecognized ∈ (service.withMember member).members :=
    List.mem_append_left _ unrecognized
  rw [tryResolve_of_unrecognized still, withMember, List.idxOf_append, if_pos unrecognized]

/-- A member that is not recognized is the first one of its kind if the service had an outcome. -/
theorem tryResolve_withMember_unrecognized
    (recognized : Member.unrecognized ∉ service.members) (options : Options)
    : (service.withMember .unrecognized).tryResolve options
      = .error (.unrecognizedMember service.name service.members.length) := by
  have last : Member.unrecognized ∈ (service.withMember .unrecognized).members :=
    List.mem_append_right _ List.mem_cons_self
  rw [tryResolve_of_unrecognized last, withMember, List.idxOf_append, if_neg recognized,
    List.idxOf_cons_self, Nat.zero_add]

/-- A recognized member extends the outcome of the service. Witness: each of the passes goes over
the members before it as if it were not there.
-/
theorem exists_extendedBy_withMember {outcome : NamingOutcome}
    (lenient : service.tryResolve options = .ok outcome) {member : Member}
    (recognized : member ≠ .unrecognized)
    : ∃ other,
        (service.withMember member).tryResolve options = .ok other
        ∧ outcome.ExtendedBy service options member other := by
  have recognizedBefore := recognized_of_tryResolve lenient
  have recognizedAfter : Member.unrecognized ∉ (service.withMember member).members := by
    intro unrecognized
    rcases List.mem_append.mp unrecognized with before | last
    · exact recognizedBefore before
    · exact recognized (List.mem_singleton.mp last).symm
  have candidates := service.candidates_withMember member options
  have names := keptNames_append (service.candidates options) (member.candidates options)
  have collisions := collisionErrors_append (service.candidates options) (member.candidates options)
  rw [← candidates] at names collisions
  have attributes := service.attributeErrors_withMember member options.language
  obtain ⟨added, entries, ofMember⟩ := service.exists_entries_withMember member options.language
  have sameNamespace
      : ((service.withMember member).overrides options.language).serviceNamespace
        = (service.overrides options.language).serviceNamespace := rfl
  rw [tryResolve_of_recognized recognizedBefore] at lenient
  cases lenient
  refine ⟨_, tryResolve_of_recognized recognizedAfter options, ?_⟩
  exact
    { effectiveNamespace := congrArg (·.getD service.defaultNamespace) sameNamespace
      namespaceOverride := sameNamespace
      typeNames := ⟨_, names.symm⟩
      overrides := fun id name => PropertyNames.find?_of_append entries
      errors := by
        rw [attributes, collisions]
        exact (List.sublist_append_left _ _).append (List.sublist_append_left _ _)
      propertyNames := ⟨added, entries, ofMember⟩
      errorsBefore := by rw [collisions_eq recognizedBefore]
      errorsAfter := by
        refine ⟨_, ?_, fun error => exists_of_mem_collectAfter_collision?⟩
        rw [attributes, collisions, collisions_eq recognizedBefore, List.append_assoc _ _
          (collectAfter _ _ _)] }

-----------------------------------------------------------------------------------------
-- Any number of further members
-----------------------------------------------------------------------------------------

/-- A failure stays the same however many members are added, by induction on them. -/
theorem tryResolve_foldl_withMember_of_error {failure : Failure} (members : List Member)
    (failed : service.tryResolve options = .error failure)
    : (members.foldl withMember service).tryResolve options = .error failure := by
  induction members generalizing service with
  | nil => exact failed
  | cons member rest ih => exact ih (tryResolve_withMember_of_error failed member)

/-- However many members are added, the outcome of the service is kept. Witness: induction on the
members, where a member that is not recognized would be the end of all outcomes.
-/
theorem keptBy_foldl_withMember {outcome other : NamingOutcome} (members : List Member)
    (lenient : service.tryResolve options = .ok outcome)
    (grown : (members.foldl withMember service).tryResolve options = .ok other)
    : outcome.KeptBy other := by
  induction members generalizing service outcome with
  | nil =>
      obtain rfl : outcome = other := Except.ok.inj (lenient.symm.trans grown)
      exact .refl outcome
  | cons member rest ih =>
      by_cases unrecognized : member = .unrecognized
      · have failed :=
          tryResolve_withMember_unrecognized (recognized_of_tryResolve lenient) options
        rw [List.foldl_cons, unrecognized, tryResolve_foldl_withMember_of_error rest failed]
          at grown
        cases grown
      · obtain ⟨middle, extended, step⟩ := exists_extendedBy_withMember lenient unrecognized
        exact step.toKeptBy.trans (ih extended grown)

/-- A member at the end of a service never disturbs what came before it. If the service fails, it
fails in the same way with the member; if not, a member that is not recognized fails at its own
index, and any other member extends the outcome. So what a service has is kept by every service
that further members make of it and that has an outcome.
-/
theorem tryResolve_withMember (service : Service) (options : Options)
    : (∀ failure,
        service.tryResolve options = .error failure
        → (∃ index, failure = .unrecognizedMember service.name index)
          ∧ ∀ member, (service.withMember member).tryResolve options = .error failure)
      ∧ ∀ outcome,
          service.tryResolve options = .ok outcome
          → (service.withMember .unrecognized).tryResolve options
              = .error (.unrecognizedMember service.name service.members.length)
            ∧ (∀ member,
                member ≠ .unrecognized
                → ∃ other,
                    (service.withMember member).tryResolve options = .ok other
                    ∧ outcome.ExtendedBy service options member other)
            ∧ ∀ (members : List Member) other,
                (members.foldl withMember service).tryResolve options = .ok other
                → outcome.KeptBy other := by
  constructor
  · intro failure failed
    obtain ⟨-, named⟩ := unrecognized_of_tryResolve failed
    exact ⟨⟨_, named⟩, tryResolve_withMember_of_error failed⟩
  · intro outcome lenient
    exact ⟨tryResolve_withMember_unrecognized (recognized_of_tryResolve lenient) options,
      fun _ => exists_extendedBy_withMember lenient,
      fun members _ => keptBy_foldl_withMember members lenient⟩

/-- A service with two errors gets a member with two more, and the new ones come behind the old
ones of the same pass. With a member that is not recognized it fails, and fails in the same way
however it goes on.
-/
theorem tryResolve_withMember_secondSpelling
    : let tagged (parameters : List Parameter) : Attribute := { name := "csharp", parameters }
      let named (value : String) : Parameter := { name := "name", value }
      let field (name value : String) (others : List Parameter) : Field :=
        { name, attributes := [tagged (named value :: others)] }
      let service : Service :=
        { name := "api"
          members :=
            [.dataObject
                { name := "item", attributes := [tagged []], fields := [field "id" "Key" []] },
              .enumeration { name := "ITEM" }] }
      let member : Member :=
        .dataObject
          { name := "Item", fields := [field "id" "Id" [{ name := "type", value := "int" }]] }
      ∃ outcome other,
        service.tryResolve {} = .ok outcome
        ∧ (service.withMember member).tryResolve {} = .ok other
        ∧ outcome.ExtendedBy service {} member other
        ∧ outcome.KeptBy other
        ∧ outcome.errors.map (·.kind) = [.unexpectedAttribute, .duplicateGeneratedType]
        ∧ other.errors.map (·.kind)
          = [.unexpectedAttribute, .unexpectedParameter, .duplicateGeneratedType,
            .duplicateGeneratedType]
        ∧ ((service.withMember .unrecognized).withMember member).tryResolve {}
          = .error (.unrecognizedMember "api" 2) := by
  intro tagged named field service member
  have recognized : Member.unrecognized ∉ service.members := by decide
  have recognizedAfter : Member.unrecognized ∉ (service.withMember member).members := by decide
  have lenient := tryResolve_of_recognized recognized {}
  obtain ⟨refused, extended, kept⟩ := (tryResolve_withMember service {}).2 _ lenient
  obtain ⟨other, grown, byMember⟩ := extended member (by decide)
  obtain ⟨-, stillRefused⟩ :=
    (tryResolve_withMember (service.withMember .unrecognized) {}).1 _ refused
  refine ⟨_, other, lenient, grown, byMember, kept [member] other grown, by decide +kernel, ?_,
    stillRefused member⟩
  rw [tryResolve_of_recognized recognizedAfter] at grown
  cases grown
  decide +kernel

end Service

end SchemaNames
