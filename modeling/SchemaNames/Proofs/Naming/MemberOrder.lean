import SchemaNames.Proofs.Naming.CollisionReport
import SchemaNames.Proofs.Naming.EffectiveNames

/-! Services whose members stand in another order. The order only decides which of the candidates
that agree in lower case is kept and which are reported, but not how many; attributes are reported
and fields are named as before.
-/

namespace SchemaNames

-----------------------------------------------------------------------------------------
-- Candidates in another order
-----------------------------------------------------------------------------------------

/-- Together with the earlier candidates the kept names have all names in lower case that the
candidates have. Witness: induction on the candidates, of which a taken one has the lower case of
its taker.
-/
theorem mem_map_collectAfter_kept?_iff {earlier rest : List Candidate} {folded : String}
    : folded ∈ earlier.map (Text.lowerCase ·.name)
        ∨ folded ∈ (collectAfter Candidate.kept? earlier rest).map Text.lowerCase
      ↔ folded ∈ (earlier ++ rest).map (Text.lowerCase ·.name) := by
  induction rest generalizing earlier with
  | nil => simp
  | cons candidate rest ih =>
      rw [List.append_cons, ← ih, collectAfter_cons]
      cases taken : candidate.taker? earlier with
      | none =>
          simp only [Candidate.kept?, taken, Option.isNone_none, ↓reduceIte, Option.toList_some,
            List.map_append, List.map_cons, List.map_nil, List.mem_append, or_assoc]
      | some taker =>
          have agrees : Text.lowerCase taker.name = Text.lowerCase candidate.name := by
            simpa using List.find?_some taken
          have known : Text.lowerCase candidate.name ∈ earlier.map (Text.lowerCase ·.name) :=
            agrees ▸ List.mem_map_of_mem (List.mem_of_find?_eq_some taken)
          simp only [Candidate.kept?, taken, Option.isNone_some, Bool.false_eq_true, ↓reduceIte,
            Option.toList_none, List.nil_append, List.map_append, List.map_cons, List.map_nil,
            List.mem_append, List.mem_singleton]
          constructor
          · rintro (before | later)
            · exact .inl (.inl before)
            · exact .inr later
          · rintro ((before | rfl) | later)
            · exact .inl before
            · exact .inl known
            · exact .inr later

/-- The kept names in lower case are those of all candidates. -/
theorem mem_map_keptNames_iff {candidates : List Candidate} {folded : String}
    : folded ∈ (keptNames candidates).map Text.lowerCase
      ↔ folded ∈ candidates.map (Text.lowerCase ·.name) := by
  simpa [keptNames] using @mem_map_collectAfter_kept?_iff [] candidates folded

section Reordered

variable {candidates reordered : List Candidate}

/-- Candidates in another order keep the same names in lower case, each of them once. -/
theorem keptNames_perm (order : candidates.Perm reordered)
    : ((keptNames candidates).map Text.lowerCase).Perm
        ((keptNames reordered).map Text.lowerCase) := by
  have distinct (candidates : List Candidate)
      : ((keptNames candidates).map Text.lowerCase).Nodup :=
    List.pairwise_map.mpr (pairwise_collectAfter_kept? [] candidates).2
  rw [List.perm_ext_iff_of_nodup (distinct candidates) (distinct reordered)]
  intro folded
  rw [mem_map_keptNames_iff, mem_map_keptNames_iff]
  exact (order.map _).mem_iff

/-- Candidates in another order have as many collisions, as all that are not kept collide. -/
theorem length_collisionErrors_perm (order : candidates.Perm reordered)
    : (collisionErrors candidates).length = (collisionErrors reordered).length := by
  have kept := (keptNames_perm order).length_eq
  have all := length_kept_add_length_collision [] candidates
  have allReordered := length_kept_add_length_collision [] reordered
  have same := order.length_eq
  simp only [List.length_map, keptNames] at kept
  simp only [collisionErrors]
  omega

end Reordered

-----------------------------------------------------------------------------------------
-- Members at another index
-----------------------------------------------------------------------------------------

namespace Member

/-- The fields of a member do not depend on its index, only their identities do. -/
theorem map_field_fields (member : Member) (i j : Nat)
    : (member.fields i).map (·.field) = (member.fields j).map (·.field) := by
  have fields (index : Nat) (group : FieldGroup) (owner : String) (fields : List Field)
      : (fieldRefs index group owner fields).map (·.field) = fields := by
    apply List.ext_getElem?
    intro position
    simp only [fieldRefs, List.getElem?_map, List.getElem?_mapIdx, Option.map_map]
    exact Option.map_id_apply
  cases member with
  | method m => simp only [Member.fields, List.map_append, fields]
  | dataObject d => simp only [Member.fields, fields]
  | enumeration _ | errorSet _ | unrecognized => rfl

end Member

-----------------------------------------------------------------------------------------
-- Services
-----------------------------------------------------------------------------------------

/-- (a.SameUpToOrder b) says what two outcomes share if only the order of the members differs.
The names of types in lower case are the same set of the same size, as none is there twice.
-/
structure NamingOutcome.SameUpToOrder (a b : NamingOutcome) : Prop where
  effectiveNamespace : a.info.effectiveNamespace = b.info.effectiveNamespace
  namespaceOverride : a.info.namespaceOverride = b.info.namespaceOverride
  typeNames : (a.info.typeNames.map Text.lowerCase).Perm (b.info.typeNames.map Text.lowerCase)
  collisions
    : (a.errors.filter (·.kind = .duplicateGeneratedType)).length
      = (b.errors.filter (·.kind = .duplicateGeneratedType)).length
  attributeErrors
    : (a.errors.filter (·.kind ≠ .duplicateGeneratedType)).Perm
        (b.errors.filter (·.kind ≠ .duplicateGeneratedType))

namespace Service

/-- The errors of an outcome that are not about generated types are those about attributes. -/
theorem filter_errors_eq_attributeErrors (service : Service) (options : Options)
    : (service.attributeErrors options.language
          ++ collisionErrors (service.candidates options)).filter
        (·.kind ≠ .duplicateGeneratedType)
      = service.attributeErrors options.language := by
  rw [List.filter_append,
    List.filter_eq_self.mpr fun error reported => by
      simpa using service.kind_ne_of_mem_attributeErrors reported,
    List.filter_eq_nil_iff.mpr fun error reported => by
      simpa using kind_of_mem_collectAfter_collision? reported,
    List.append_nil]

/-- Strict naming succeeds exactly if lenient naming reports nothing. -/
theorem resolve_isOk_iff_silent {service : Service} {options : Options} {outcome : NamingOutcome}
    (lenient : service.tryResolve options = .ok outcome)
    : (∃ info, service.resolve options = .ok info) ↔ outcome.errors = [] := by
  have strict : service.resolve options = outcome.toResult := by
    rw [resolve, lenient]
    rfl
  rw [strict]
  constructor
  · rintro ⟨info, accepted⟩
    refine Decidable.of_not_not fun reported => ?_
    rw [NamingOutcome.toResult_of_reported reported] at accepted
    cases accepted
  · intro silent
    exact ⟨outcome.info, NamingOutcome.toResult_of_silent silent⟩

/-- The property names of the fields of a member come from the member alone. -/
theorem map_propertyName_fields {service : Service} {options : Options} {outcome : NamingOutcome}
    (lenient : service.tryResolve options = .ok outcome) {index : Nat} {member : Member}
    (stands : service.members[index]? = some member)
    : (member.fields index).map outcome.info.propertyName
      = ((member.fields index).map (·.field)).map fun field =>
          (field.parameterValue? options.language "name").getD
            (defaultPropertyName field.name) := by
  rw [List.map_map]
  apply List.map_congr_left
  intro ref inMember
  have listed : ref ∈ service.fields := by
    apply List.mem_flatten.mpr
    refine ⟨member.fields index, List.mem_of_getElem? (i := index) ?_, inMember⟩
    rw [List.getElem?_mapIdx, stands, Option.map_some]
  exact propertyName_of_mem lenient listed

/-- The candidates of the members come in the order of the members. -/
theorem candidates_perm {service : Service} {members : List Member}
    (order : service.members.Perm members) (options : Options)
    : (service.candidates options).Perm ({ service with members }.candidates options) :=
  (order.flatMap_right (Member.candidates options)).cons _

/-- What is reported about attributes comes in the order of the members. -/
theorem attributeErrors_perm {service : Service} {members : List Member}
    (order : service.members.Perm members) (tag : String)
    : (service.attributeErrors tag).Perm ({ service with members }.attributeErrors tag) := by
  rw [attributeErrors_eq_selfAndMembers, attributeErrors_eq_selfAndMembers]
  exact ((order.flatMap_right Member.selfAndChildren).cons _).flatMap_right _

/-- The order of the members only decides who is blamed. The namespace, the set of type names in
lower case and the number of collisions stay, the errors about attributes are reordered, so that
strict naming succeeds in both orders or in none, and the fields of a member have the same
property names under their identities in either order. Witness: all candidates are kept once in
lower case or collide, and attributes are looked at member by member.
-/
theorem tryResolve_reordered {service : Service} {members : List Member}
    (recognized : Member.unrecognized ∉ service.members)
    (order : service.members.Perm members) (options : Options)
    : let reordered : Service := { service with members }
      ∃ outcome other,
        service.tryResolve options = .ok outcome
        ∧ reordered.tryResolve options = .ok other
        ∧ outcome.SameUpToOrder other
        ∧ ((∃ info, service.resolve options = .ok info)
            ↔ ∃ info, reordered.resolve options = .ok info)
        ∧ ∀ (i j : Nat) member,
            service.members[i]? = some member
            → reordered.members[j]? = some member
            → (member.fields i).map outcome.info.propertyName
              = (member.fields j).map other.info.propertyName := by
  intro reordered
  have recognizedReordered : Member.unrecognized ∉ reordered.members :=
    mt order.mem_iff.mpr recognized
  have lenient := tryResolve_of_recognized recognized options
  have lenientReordered := tryResolve_of_recognized recognizedReordered options
  have collisions := length_collisionErrors_perm (service.candidates_perm order options)
  have attributes := service.attributeErrors_perm order options.language
  refine ⟨_, _, lenient, lenientReordered, ?_, ?_, ?_⟩
  · have namespaces
        : (service.overrides options.language).serviceNamespace
          = (reordered.overrides options.language).serviceNamespace := by
      rw [serviceNamespace_overrides, serviceNamespace_overrides]
    refine
      { effectiveNamespace := congrArg (·.getD service.defaultNamespace) namespaces
        namespaceOverride := namespaces
        typeNames := keptNames_perm (service.candidates_perm order options)
        collisions := ?_
        attributeErrors := ?_ }
    · rw [filter_errors_eq, filter_errors_eq]
      exact collisions
    · rw [filter_errors_eq_attributeErrors, filter_errors_eq_attributeErrors]
      exact attributes
  · rw [resolve_isOk_iff_silent lenient, resolve_isOk_iff_silent lenientReordered,
      ← List.length_eq_zero_iff, ← List.length_eq_zero_iff, List.length_append,
      List.length_append, attributes.length_eq, collisions]
  · intro i j member stands standsReordered
    rw [map_propertyName_fields lenient stands,
      map_propertyName_fields lenientReordered standsReordered, member.map_field_fields i j]

/-- Of two data types that agree in lower case the one that comes first is kept, in either order,
and the field of one of them keeps its property name.
-/
theorem tryResolve_reordered_twoSpellings
    : let record : Member := .dataObject { name := "item", fields := [{ name := "id" }] }
      let enumeration : Member := .enumeration { name := "ITEM" }
      let service : Service := { name := "api", members := [record, enumeration] }
      let reordered : Service := { name := "api", members := [enumeration, record] }
      Member.unrecognized ∉ service.members
      ∧ service.members.Perm reordered.members
      ∧ ∃ outcome other,
          service.tryResolve {} = .ok outcome
          ∧ reordered.tryResolve {} = .ok other
          ∧ outcome.SameUpToOrder other
          ∧ outcome.info.typeNames = ["Api", "Item"]
          ∧ other.info.typeNames = ["Api", "ITEM"]
          ∧ (record.fields 0).map outcome.info.propertyName
            = (record.fields 1).map other.info.propertyName := by
  intro record enumeration service reordered
  have recognized : Member.unrecognized ∉ service.members := by decide
  have order : service.members.Perm reordered.members := .swap enumeration record []
  obtain ⟨outcome, other, lenient, lenientReordered, same, -, named⟩ :=
    tryResolve_reordered recognized order {}
  refine ⟨recognized, order, outcome, other, lenient, lenientReordered, same, ?_, ?_,
    named 0 1 record rfl rfl⟩
  · rw [tryResolve_of_recognized recognized] at lenient
    cases lenient
    decide +kernel
  · rw [tryResolve_of_recognized (by decide)] at lenientReordered
    cases lenientReordered
    decide +kernel

end Service

end SchemaNames
