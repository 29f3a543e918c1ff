import SchemaNames.Proofs.Naming.CollisionReport
import SchemaNames.Proofs.Naming.SharedErrors

/-! What type names depend on. They and the collisions come from the kinds, the names and the places
of members and from the suffixes; neither attributes nor children nor the language have a say.
-/

namespace SchemaNames

-----------------------------------------------------------------------------------------
-- Outlines
-----------------------------------------------------------------------------------------

/-- What a message about an element and its place tell. -/
structure Outline where
  kind : ElementKind
  name : String
  position : Position
deriving DecidableEq

def Element.outline (element : Element) : Outline :=
  { kind := element.kind, name := element.name, position := element.position }

/-- The outline of a member; one that is not recognized has none. -/
def Member.outline? (member : Member) : Option Outline :=
  member.element?.map Element.outline

/-- The names of the types of a member come from its outline, by cases on its kind. -/
theorem Member.typeNames?_eq (member : Member) (options : Options)
    : member.typeNames? options
      = member.outline?.map fun outline =>
          if outline.kind = .method then methodTypeNames outline.name options
          else [Text.capitalize outline.name] := by
  cases member <;> rfl

/-- Members with the same outlines have the same type names, whatever the language is. -/
theorem Member.typeNames?_of_sameOutline {a b : Member} {options other : Options}
    (outline : a.outline? = b.outline?)
    (request : options.requestSuffix = other.requestSuffix)
    (response : options.responseSuffix = other.responseSuffix)
    : a.typeNames? options = b.typeNames? other := by
  simp only [typeNames?_eq, outline, methodTypeNames, request, response]

/-- The error about a taken name tells no more of the element than its outline. -/
theorem ValidationError.duplicateGeneratedType_of_sameOutline {a b : Element}
    (outline : a.outline = b.outline) (name existing : String)
    : duplicateGeneratedType a name existing = duplicateGeneratedType b name existing := by
  simp only [Element.outline, Outline.mk.injEq] at outline
  obtain ⟨kind, named, position⟩ := outline
  simp only [duplicateGeneratedType, Element.describe, kind, named, position]

-----------------------------------------------------------------------------------------
-- Registration
-----------------------------------------------------------------------------------------

/-- Registering names for elements with the same outline gives the same registry and the same
errors, by induction on the names.
-/
theorem TypeRegistry.register_of_sameOutline {a b : Element} (outline : a.outline = b.outline)
    (registry : TypeRegistry) (names : List String)
    : registry.register a names = registry.register b names := by
  induction names generalizing registry with
  | nil => rfl
  | cons name rest ih =>
      simp only [register, ih,
        ValidationError.duplicateGeneratedType_of_sameOutline outline name]

section

variable {a b : Service} {options other : Options}

/-- Registering members with the same outlines gives the same report, by induction on the members.
The services themselves only give their name to a failure.
-/
theorem TypeRegistry.registerMembers_of_sameOutlines (name : a.name = b.name)
    (request : options.requestSuffix = other.requestSuffix)
    (response : options.responseSuffix = other.responseSuffix) (registry : TypeRegistry)
    (index : Nat) {members others : List Member}
    (outlines : members.map Member.outline? = others.map Member.outline?)
    : registry.registerMembers a options index members
      = registry.registerMembers b other index others := by
  induction members generalizing others registry index with
  | nil =>
      obtain rfl := List.map_eq_nil_iff.mp outlines.symm
      rfl
  | cons member rest ih =>
      obtain ⟨twin, twins, rfl, here, later⟩ := List.map_eq_cons_iff.mp outlines.symm
      have names : twin.typeNames? other = member.typeNames? options :=
        Member.typeNames?_of_sameOutline here request.symm response.symm
      simp only [registerMembers, names]
      rw [Member.outline?, Member.outline?] at here
      cases first : member.element? with
      | none =>
          rw [first, Option.map_none, Option.map_eq_none_iff] at here
          simp only [here, name]
      | some element =>
          rw [first, Option.map_some, Option.map_eq_some_iff] at here
          obtain ⟨element', second, outline⟩ := here
          simp only [second]
          cases member.typeNames? options with
          | none => simp only [name]
          | some own =>
              simp only [register_of_sameOutline outline, ih _ _ later.symm]

namespace Service

/-- Services of one name whose members have the same outlines have the same collisions. -/
theorem collisions_of_sameOutlines (name : a.name = b.name)
    (outlines : a.members.map Member.outline? = b.members.map Member.outline?)
    (request : options.requestSuffix = other.requestSuffix)
    (response : options.responseSuffix = other.responseSuffix)
    : a.collisions options = b.collisions other := by
  rw [collisions, collisions, typeName, typeName, name]
  exact TypeRegistry.registerMembers_of_sameOutlines name request response _ 0 outlines

/-- Lenient naming passes on the type names and all that is reported about them. -/
theorem map_typeNames_tryResolve (service : Service) (options : Options)
    : (service.tryResolve options).map (fun outcome =>
        (outcome.info.typeNames,
          outcome.errors.filter fun error => error.kind = .duplicateGeneratedType))
      = (service.collisions options).typeNames.map fun names =>
          (names, (service.collisions options).errors) := by
  by_cases unrecognized : Member.unrecognized ∈ service.members
  · rw [tryResolve_of_unrecognized unrecognized, typeNames_collisions_of_unrecognized unrecognized]
    rfl
  · rw [tryResolve_of_recognized unrecognized, collisions_eq unrecognized, Except.map,
      service.filter_errors_eq options]
    rfl

/-- Nothing but the suffixes, the name of a service and the kinds, names and places of its members
has a say in the type names. Two services that share these get the same names or the same failure
and have the same errors added to a list, whatever is in it, and lenient naming passes on the same
names and the same collisions. Witness: the registry is only ever asked about names, and an error
tells no more of a member than its outline.
-/
theorem collisionsAfter_of_sameOutlines (name : a.name = b.name)
    (outlines : a.members.map Member.outline? = b.members.map Member.outline?)
    (request : options.requestSuffix = other.requestSuffix)
    (response : options.responseSuffix = other.responseSuffix)
    : (∃ typeNames added,
        ∀ errors : List ValidationError,
          a.collisionsAfter options errors = { typeNames, errors := errors ++ added }
          ∧ b.collisionsAfter other errors = { typeNames, errors := errors ++ added })
      ∧ (a.tryResolve options).map (fun outcome =>
          (outcome.info.typeNames,
            outcome.errors.filter fun error => error.kind = .duplicateGeneratedType))
        = (b.tryResolve other).map fun outcome =>
            (outcome.info.typeNames,
              outcome.errors.filter fun error => error.kind = .duplicateGeneratedType) := by
  have same := collisions_of_sameOutlines name outlines request response
  constructor
  · refine ⟨(b.collisions other).typeNames, (b.collisions other).errors, fun errors => ⟨?_, ?_⟩⟩
    · rw [collisionsAfter_eq, same]
      rfl
    · exact b.collisionsAfter_eq other errors
  · rw [map_typeNames_tryResolve, map_typeNames_tryResolve, same]

/-- A service with a namespace, with fields and with a refused attribute has the same names and the
same collision as a plain one in another language, although only its attributes are reported.
-/
theorem collisionsAfter_of_sameOutlines_plainTwin
    : let namespaced : Parameter := { name := "namespace", value := "Acme.Items" }
      let tagged : Attribute := { name := "csharp", parameters := [namespaced] }
      let service : Service :=
        { name := "api"
          attributes := [tagged]
          members :=
            [.dataObject { name := "item", attributes := [tagged], fields := [{ name := "id" }] },
              .enumeration { name := "ITEM", position := { line := 3 } }] }
      let plain : Service :=
        { name := "api"
          members :=
            [.dataObject { name := "item" },
              .enumeration
                { name := "ITEM", values := [{ name := "first" }], position := { line := 3 } }] }
      let java : Options := { language := "java" }
      let taken : ValidationError :=
        .duplicateGeneratedType
          { kind := .enumeration, name := "ITEM", position := { line := 3 } } "ITEM" "Item"
      service.name = plain.name
      ∧ service.members.map Member.outline? = plain.members.map Member.outline?
      ∧ service.collisionsAfter {} [] = plain.collisionsAfter java []
      ∧ (plain.collisionsAfter java []).typeNames.toOption = some ["Api", "Item"]
      ∧ (plain.collisionsAfter java []).errors = [taken]
      ∧ (service.attributeErrors "csharp").map (·.kind) = [.unexpectedParameter]
      ∧ plain.attributeErrors "java" = [] := by
  intro namespaced tagged service plain java taken
  have name : service.name = plain.name := rfl
  have outlines
      : service.members.map Member.outline? = plain.members.map Member.outline? := by
    decide
  have request : ({} : Options).requestSuffix = java.requestSuffix := rfl
  have response : ({} : Options).responseSuffix = java.responseSuffix := rfl
  obtain ⟨⟨typeNames, added, same⟩, -⟩ :=
    collisionsAfter_of_sameOutlines name outlines request response
  obtain ⟨here, there⟩ := same []
  exact ⟨name, outlines, here.trans there.symm, by decide +kernel, by decide +kernel,
    by decide +kernel, by decide +kernel⟩

end Service

end

end SchemaNames
