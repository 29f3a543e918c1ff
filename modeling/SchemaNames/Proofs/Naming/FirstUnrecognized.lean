import Mathlib.Data.List.Basic
import Mathlib.Order.Bounds.Basic
import SchemaNames.Proofs.Naming.DocumentOrder
import SchemaNames.Proofs.Naming.MemberOutlines

/-! Members that are not recognized. The type names end at the first one, with the errors of the
members before it, and so does naming as a whole; the attributes are looked at as if each were a
member of which there is nothing to say.
-/

namespace SchemaNames

-----------------------------------------------------------------------------------------
-- Type names up to the first one
-----------------------------------------------------------------------------------------

/-- The service with only so many of its members. -/
def Service.truncated (service : Service) (count : Nat) : Service :=
  { service with members := service.members.take count }

namespace Service

variable {service : Service}

/-- The first member that is not recognized stands at the least index of such a member. -/
theorem isLeast_idxOf_unrecognized (unrecognized : Member.unrecognized ∈ service.members)
    : IsLeast {index | service.members[index]? = some .unrecognized}
        (service.members.idxOf .unrecognized) := by
  refine ⟨List.getElem?_idxOf unrecognized, ?_⟩
  intro index found
  by_contra earlier
  have taken : Member.unrecognized ∈ service.members.take (service.members.idxOf .unrecognized) :=
    List.mem_of_getElem? ((List.getElem?_take_of_lt (Nat.lt_of_not_le earlier)).trans found)
  exact Nat.lt_irrefl _ ((List.mem_take_iff_idxOf_lt unrecognized).mp taken)

/-- The collision report of a service ends at the first member that is not recognized, with the
errors of the service that has only the members before it.
-/
theorem collisions_of_unrecognized (unrecognized : Member.unrecognized ∈ service.members)
    (options : Options)
    : let first := service.members.idxOf .unrecognized
      service.collisions options
        = { typeNames := .error (.unrecognizedMember service.name first)
            errors := ((service.truncated first).collisions options).errors } := by
  intro first
  obtain ⟨before, after, split, recognized, length⟩ := exists_before_unrecognized unrecognized
  have taken : service.members.take first = before := by
    rw [show first = before.length from length, split, List.take_left]
  have others (registry : TypeRegistry)
      : registry.registerMembers service options 0 before
        = registry.registerMembers (service.truncated first) options 0
            (service.truncated first).members :=
    TypeRegistry.registerMembers_of_sameOutlines (a := service) (b := service.truncated first)
      rfl rfl rfl registry 0 (congrArg _ taken.symm)
  rw [collisions, split,
    TypeRegistry.registerMembers_append_unrecognized service options _ 0 recognized, others,
    Nat.zero_add, ← length]
  rfl

/-- The type names of a service fail exactly if a member is not recognized. -/
theorem exists_typeNames_collisions_eq_error_iff {options : Options}
    : (∃ failure, (service.collisions options).typeNames = .error failure)
      ↔ Member.unrecognized ∈ service.members := by
  constructor
  · rintro ⟨failure, failed⟩
    by_contra recognized
    rw [collisions_eq recognized] at failed
    cases failed
  · intro unrecognized
    exact ⟨_, typeNames_collisions_of_unrecognized unrecognized options⟩

/-- Strict naming fails at a member that is not recognized as lenient naming does. -/
theorem resolve_of_unrecognized (unrecognized : Member.unrecognized ∈ service.members)
    (options : Options)
    : service.resolve options
      = .error (.unrecognizedMember service.name (service.members.idxOf .unrecognized)) := by
  rw [resolve, tryResolve_of_unrecognized unrecognized]
  rfl

/-- Lenient naming says that a member is not recognized exactly if one is not. -/
theorem tryResolve_eq_unrecognizedMember_iff {options : Options}
    : (∃ name index, service.tryResolve options = .error (.unrecognizedMember name index))
      ↔ Member.unrecognized ∈ service.members :=
  ⟨fun ⟨_, _, failed⟩ => (unrecognized_of_tryResolve failed).1,
    fun unrecognized => ⟨_, _, tryResolve_of_unrecognized unrecognized options⟩⟩

/-- Strict naming says so for the same services, as it refuses all others for their errors. -/
theorem resolve_eq_unrecognizedMember_iff {options : Options}
    : (∃ name index, service.resolve options = .error (.unrecognizedMember name index))
      ↔ Member.unrecognized ∈ service.members := by
  constructor
  · rintro ⟨name, index, failed⟩
    by_contra recognized
    rw [resolve, tryResolve_of_recognized recognized] at failed
    change NamingOutcome.toResult _ = _ at failed
    rw [NamingOutcome.toResult] at failed
    split at failed <;> cases failed
  · intro unrecognized
    exact ⟨_, _, resolve_of_unrecognized unrecognized options⟩

end Service

-----------------------------------------------------------------------------------------
-- Attributes as if there were nothing to say
-----------------------------------------------------------------------------------------

/-- (member.IsBare) says that a member is recognized and has neither attributes nor children. -/
def Member.IsBare (member : Member) : Prop :=
  ∃ element, member.selfAndChildren = [element] ∧ element.attributes = []

namespace Member.IsBare

variable {member : Member}

theorem fields_eq_nil (bare : member.IsBare) (index : Nat) : member.fields index = [] := by
  obtain ⟨element, alone, -⟩ := bare
  cases member with
  | method m =>
      obtain ⟨request, response⟩ : m.requestFields = [] ∧ m.responseFields = [] := by
        simpa [selfAndChildren] using (List.cons.inj alone).2
      simp [fields, request, response, fieldRefs]
  | dataObject d =>
      have fields : d.fields = [] := by simpa [selfAndChildren] using (List.cons.inj alone).2
      simp [Member.fields, fields, fieldRefs]
  | enumeration _ | errorSet _ | unrecognized => rfl

/-- Nothing is reported about a member without attributes and children. -/
theorem attributeErrors_eq_nil (bare : member.IsBare) (tag : String) (index : Nat)
    : member.attributeErrors tag index = [] := by
  obtain ⟨element, alone, untagged⟩ := bare
  have silent : element.decode tag = {} := by
    rw [Element.decode, Declaration.attributesTagged, untagged]
    rfl
  rw [attributeErrors_eq_selfAndChildren, alone, List.flatMap_singleton, silent]

end Member.IsBare

/-- Numbered items give the same when one is replaced by another that gives the same there. -/
theorem mapIdx_set_of_eq {α β : Type} {f : Nat → α → β} {items : List α} {index : Nat}
    {old new : α} (found : items[index]? = some old) (same : f index new = f index old)
    : (items.set index new).mapIdx f = items.mapIdx f := by
  obtain ⟨bound, rfl⟩ := List.getElem?_eq_some_iff.mp found
  have numbered : index < (items.mapIdx f).length := by rwa [List.length_mapIdx]
  calc (items.set index new).mapIdx f
      = (items.mapIdx f).set index (f index items[index]) := by rw [List.mapIdx_set, same]
    _ = (items.mapIdx f).set index (items.mapIdx f)[index] := by rw [List.getElem_mapIdx]
    _ = items.mapIdx f := List.set_getElem_self numbered

namespace Service

/-- The attributes of a service come to the same with a member without attributes and children in
the place of one that is not recognized.
-/
theorem overridesAfter_set_of_isBare {service : Service} {index : Nat} {member : Member}
    (unrecognized : service.members[index]? = some .unrecognized) (bare : member.IsBare)
    (tag : String) (errors : List ValidationError)
    : ({ service with members := service.members.set index member } : Service).overridesAfter
        tag errors
      = service.overridesAfter tag errors := by
  have sameFields : (service.members.set index member).mapIdx Member.fields
      = service.members.mapIdx Member.fields :=
    mapIdx_set_of_eq unrecognized (bare.fields_eq_nil index)
  have sameErrors : (service.members.set index member).mapIdx (Member.attributeErrors tag)
      = service.members.mapIdx (Member.attributeErrors tag) :=
    mapIdx_set_of_eq unrecognized (bare.attributeErrors_eq_nil tag index)
  simp only [overridesAfter_eq, overrides, attributeErrors, fields, sameFields, sameErrors]
  rfl

/-- Type names end at the first member that is not recognized, and naming ends with them. They fail
exactly if there is such a member; the failure then tells the name of the service and the least
index, and to a list the same errors are added as by the service that ends before that member. Both
ways of naming fail there too, whatever was reported, and on no other service in this way, and the
failure has no errors of its own. The attributes come to the same with a member without attributes
and children in the place of one that is not recognized.
-/
theorem collisionsAfter_firstUnrecognized (service : Service) (options : Options) (tag : String)
    (errors : List ValidationError)
    : ((∃ failure, (service.collisionsAfter options errors).typeNames = .error failure)
        ↔ Member.unrecognized ∈ service.members)
      ∧ (Member.unrecognized ∈ service.members
        → ∃ first,
            let failure : Failure := .unrecognizedMember service.name first
            IsLeast {index | service.members[index]? = some .unrecognized} first
            ∧ service.collisionsAfter options errors
              = { typeNames := .error failure
                  errors :=
                    errors ++ ((service.truncated first).collisionsAfter options []).errors }
            ∧ service.tryResolve options = .error failure
            ∧ service.resolve options = .error failure
            ∧ failure.validationErrors = [])
      ∧ ((∃ name index, service.tryResolve options = .error (.unrecognizedMember name index))
        ↔ Member.unrecognized ∈ service.members)
      ∧ ((∃ name index, service.resolve options = .error (.unrecognizedMember name index))
        ↔ Member.unrecognized ∈ service.members)
      ∧ ∀ index member,
          service.members[index]? = some .unrecognized
          → member.IsBare
          → ({ service with members := service.members.set index member } : Service).overridesAfter
              tag errors
            = service.overridesAfter tag errors := by
  refine ⟨?_, ?_, tryResolve_eq_unrecognizedMember_iff, resolve_eq_unrecognizedMember_iff,
    fun _ _ unrecognized bare => overridesAfter_set_of_isBare unrecognized bare tag errors⟩
  · rw [collisionsAfter_eq]
    exact exists_typeNames_collisions_eq_error_iff
  · intro unrecognized
    refine ⟨_, isLeast_idxOf_unrecognized unrecognized, ?_,
      tryResolve_of_unrecognized unrecognized options,
      resolve_of_unrecognized unrecognized options, rfl⟩
    simp only [collisionsAfter_eq, CollisionReport.behind, List.nil_append,
      collisions_of_unrecognized unrecognized options]

/-- A service with two unrecognized members among others ends at the first one, with the collision
before it and without the one behind it, and its attributes come to the same with an enumeration in
the place of that member.
-/
theorem collisionsAfter_firstUnrecognized_amongCollisions
    : let item : Member := .dataObject { name := "item" }
      let other : Member :=
        .enumeration { name := "ITEM", attributes := [{ name := "csharp" }] }
      let service : Service :=
        { name := "api", members := [item, other, .unrecognized, item, .unrecognized] }
      let replaced : Service :=
        { name := "api"
          members := [item, other, .enumeration { name := "e" }, item, .unrecognized] }
      let earlier : ValidationError :=
        .unexpectedAttribute { kind := .service, name := "api" } { name := "csharp" }
      let failure : Failure := .unrecognizedMember "api" 2
      Member.unrecognized ∈ service.members
      ∧ service.collisionsAfter {} [earlier]
        = { typeNames := .error failure
            errors :=
              [earlier,
                .duplicateGeneratedType { kind := .enumeration, name := "ITEM" } "ITEM" "Item"] }
      ∧ service.tryResolve {} = .error failure
      ∧ service.resolve {} = .error failure
      ∧ (service.overridesAfter "csharp" []).errors.length = 1
      ∧ replaced.overridesAfter "csharp" [] = service.overridesAfter "csharp" [] := by
  intro item other service replaced earlier failure
  have unrecognized : Member.unrecognized ∈ service.members := by decide
  obtain ⟨-, fails, -⟩ := collisionsAfter_firstUnrecognized service {} "csharp" [earlier]
  obtain ⟨-, -, -, -, bare⟩ := collisionsAfter_firstUnrecognized service {} "csharp" []
  obtain ⟨first, least, report, lenient, strict, -⟩ := fails unrecognized
  obtain rfl : first = 2 := least.unique (isLeast_idxOf_unrecognized unrecognized)
  have added
      : ((service.truncated 2).collisionsAfter {} []).errors
        = [.duplicateGeneratedType { kind := .enumeration, name := "ITEM" } "ITEM" "Item"] := by
    decide +kernel
  rw [added] at report
  exact ⟨unrecognized, report, lenient, strict, by decide +kernel,
    bare 2 (.enumeration { name := "e" }) rfl ⟨_, rfl, rfl⟩⟩

end Service

end SchemaNames
