import SchemaNames.Proofs.Naming.OverrideValues
import SchemaNames.Proofs.Naming.SharedErrors

/-! The first attribute of a tag on an element. It alone decides what the element is called and
whether it is refused; of a second one only the place is told, and any others are not looked at.
-/

namespace SchemaNames

namespace Element

-----------------------------------------------------------------------------------------
-- The parameter that overrides
-----------------------------------------------------------------------------------------

/-- The override that a parameter of an attribute is on an element, with the two attached. -/
def override? (element : Element) (attr : Attribute) (parameter : Parameter)
    : Option DecodedOverride :=
  (Override.decode element.kind parameter).map fun value => { value, source := attr, parameter }

/-- A parameter is an override exactly if the element knows its name. -/
theorem override?_isSome_iff {element : Element} {attr : Attribute} {parameter : Parameter}
    : (element.override? attr parameter).isSome
      ↔ element.kind.knownParameter? = some parameter.name := by
  rw [override?, Option.isSome_map, ← Option.ne_none_iff_isSome, Ne, Override.decode_eq_none_iff,
    Decidable.not_not]

/-- An element that knows no name has no override. -/
theorem findSome?_override?_of_unknown {element : Element}
    (unknown : element.kind.knownParameter? = none) (attr : Attribute)
    (parameters : List Parameter)
    : parameters.findSome? (element.override? attr) = none := by
  rw [List.findSome?_eq_none_iff]
  intro parameter _
  rw [← Option.not_isSome_iff_eq_none, override?_isSome_iff, unknown]
  exact nofun

/-- The parameters of an attribute come to one override, the first parameter that is one, or to none
at all. Witness: an element knows at most one name.
-/
theorem overrides_decodeParameters (element : Element) (attr : Attribute)
    : (element.decodeParameters attr).overrides
      = (attr.parameters.findSome? (element.override? attr)).toList := by
  change (firstUses [] attr.parameters).filterMap (element.override? attr) = _
  cases known : element.kind.knownParameter? with
  | none =>
      have never := findSome?_override?_of_unknown known attr (firstUses [] attr.parameters)
      rw [findSome?_override?_of_unknown known, List.filterMap_eq_nil_iff.mpr
        (List.findSome?_eq_none_iff.mp never)]
      rfl
  | some name =>
      have knows (parameter : Parameter)
          : (element.override? attr parameter).isSome ↔ parameter.name = name := by
        rw [override?_isSome_iff, known, Option.some.injEq, eq_comm]
      rw [filterMap_firstUses knows, if_neg List.not_mem_nil]

-----------------------------------------------------------------------------------------
-- The attribute that is refused
-----------------------------------------------------------------------------------------

/-- (element.Refuses attr) says that the attribute is refused as a whole: the element is an
enumeration, an error set or a case of either, or it is a method or a data object and the attribute
has no parameter to be refused.
-/
def Refuses (element : Element) (attr : Attribute) : Prop :=
  element.kind ∈ [.enumeration, .enumValue, .errorSet, .errorCase]
  ∨ element.kind ∈ [.method, .dataObject] ∧ attr.parameters = []

instance (element : Element) (attr : Attribute) : Decidable (element.Refuses attr) :=
  inferInstanceAs (Decidable (_ ∨ _))

/-- The first attribute is either refused or has its parameters looked at, by cases on the kind. -/
theorem decodeFirst_eq (element : Element) (attr : Attribute)
    : element.decodeFirst attr
      = if element.Refuses attr then { errors := [.unexpectedAttribute element attr] }
        else element.decodeParameters attr := by
  cases kind : element.kind <;> cases filled : attr.parameters <;>
    simp [decodeFirst, Refuses, kind, filled, ElementKind.checksParameters,
      ElementKind.acceptsParameters]

/-- An attribute is refused only where no parameter is known. -/
theorem Refuses.knownParameter? {element : Element} {attr : Attribute}
    (refused : element.Refuses attr)
    : element.kind.knownParameter? = none := by
  cases kind : element.kind <;> simp_all [Refuses, ElementKind.knownParameter?]

/-- The first attribute comes to its first parameter that is an override, whether it is refused or
not.
-/
theorem overrides_decodeFirst (element : Element) (attr : Attribute)
    : (element.decodeFirst attr).overrides
      = (attr.parameters.findSome? (element.override? attr)).toList := by
  rw [decodeFirst_eq]
  split
  case isFalse => exact element.overrides_decodeParameters attr
  case isTrue refused =>
      rw [findSome?_override?_of_unknown refused.knownParameter?]
      rfl

/-- Every error about parameters is one about an unexpected parameter. -/
theorem kind_of_mem_errors_decodeParameters {element : Element} {attr : Attribute}
    {error : ValidationError} (reported : error ∈ (element.decodeParameters attr).errors)
    : error.kind = .unexpectedParameter := by
  obtain ⟨parameter, _, rfl⟩ := List.mem_map.mp reported
  rfl

-----------------------------------------------------------------------------------------
-- The attributes behind the first
-----------------------------------------------------------------------------------------

/-- A second attribute of a tag has the tag as its name. -/
theorem name_of_second {element : Element} {tag : String} {first second : Attribute}
    {rest : List Attribute}
    (tagged : element.attributes.filter (·.name = tag) = first :: second :: rest)
    : second.name = tag := by
  have listed : second ∈ element.attributes.filter (·.name = tag) := by simp [tagged]
  simpa using (List.mem_filter.mp listed).2

/-- (element.DecidedBy first rest report) says that a report tells nothing but the first attribute
of a tag, and of the others no more than that there is a second one. There is at most one override,
the first parameter that is one; there is one error about the attribute, at its place, if it is
refused, and then none about its parameters; and there is one error about a second attribute, at the
place of that one and behind all others.
-/
structure DecidedBy (element : Element) (first : Attribute) (rest : List Attribute)
    (report : ElementReport)
    : Prop where
  overrides
    : report.overrides = (first.parameters.findSome? (element.override? first)).toList
  unexpectedAttribute
    : report.errors.filter (·.kind = .unexpectedAttribute)
      = if element.Refuses first then
          [{ kind := .unexpectedAttribute
             message := "unexpected '" ++ first.name ++ "' attribute on " ++ element.describe
             position := first.position }]
        else []
  refusedAlone
    : element.Refuses first → ∀ error ∈ report.errors, error.kind ≠ .unexpectedParameter
  duplicateAttribute
    : report.errors.filter (·.kind = .duplicateAttribute)
      = rest.head?.toList.map fun second =>
          { kind := .duplicateAttribute
            message := "duplicate '" ++ second.name ++ "' attribute on " ++ element.describe
            position := second.position }
  duplicateLast
    : ∀ second ∈ rest.head?,
        report.errors.getLast?
        = some
            { kind := .duplicateAttribute
              message := "duplicate '" ++ second.name ++ "' attribute on " ++ element.describe
              position := second.position }

/-- The report about an element is decided by the first attribute, by cases on its refusal. -/
theorem decidedBy_decode {element : Element} {tag : String} {first : Attribute}
    {rest : List Attribute} (tagged : element.attributesTagged tag = first :: rest)
    : element.DecidedBy first rest (element.decode tag) := by
  have duplicates {kind : ValidationError.Kind}
      : (rest.head?.toList.map (ValidationError.duplicateAttribute element)).filter
          (·.kind = kind)
        = if kind = .duplicateAttribute then
            rest.head?.toList.map (ValidationError.duplicateAttribute element)
          else [] := by
    cases rest.head? <;> cases kind <;> rfl
  have parameters {kind : ValidationError.Kind} (other : kind ≠ .unexpectedParameter)
      : (element.decodeParameters first).errors.filter (·.kind = kind) = [] := by
    rw [List.filter_eq_nil_iff]
    intro error reported
    rw [kind_of_mem_errors_decodeParameters reported]
    simpa using other.symm
  rw [decode_of_attributesTagged tagged]
  exact
    { overrides := element.overrides_decodeFirst first
      unexpectedAttribute := by
        rw [List.filter_append, duplicates, decodeFirst_eq]
        split
        · rfl
        · simp [parameters]
      refusedAlone := by
        intro refused error reported
        rw [decodeFirst_eq, if_pos refused] at reported
        rcases List.mem_append.mp reported with here | behind
        · obtain rfl := List.mem_singleton.mp here
          exact nofun
        · obtain ⟨second, _, rfl⟩ := List.mem_map.mp behind
          exact nofun
      duplicateAttribute := by
        rw [List.filter_append, duplicates, decodeFirst_eq]
        split
        · rfl
        · simp [parameters, ValidationError.duplicateAttribute]
      duplicateLast := by
        intro second listed
        rw [Option.mem_def.mp listed]
        simp [ValidationError.duplicateAttribute] }

section

variable {a b : Element} (kind : a.kind = b.kind) (name : a.name = b.name)
include kind name

/-- Of an element the first attribute of a tag is told nothing but the kind and the name. -/
theorem decodeFirst_of_sameName (attr : Attribute) : a.decodeFirst attr = b.decodeFirst attr := by
  obtain ⟨⟨_, _, _⟩, _⟩ := a
  obtain ⟨⟨_, _, _⟩, _⟩ := b
  cases kind
  cases name
  rfl

/-- The error about a second attribute tells the tag and the place of it and no parameters. -/
theorem duplicateAttribute_of_sameName {second other : Attribute} (tag : second.name = other.name)
    (place : second.position = other.position)
    : ValidationError.duplicateAttribute a second = ValidationError.duplicateAttribute b other := by
  simp only [ValidationError.duplicateAttribute, describe, kind, name, tag, place]

end

/-- The first attribute of a tag decides, and later ones are inert. Without one an element has no
override and adds no error to a list. Otherwise it adds a report that tells nothing but the first
attribute and that there is a second one; and another element of that kind and name with the same
first attribute and a second one at the same place comes to the same, whatever else that second one
and any further ones hold.
-/
theorem decodeAfter_firstDeclaration (element : Element) (tag : String)
    (errors : List ValidationError)
    : (element.attributes.filter (·.name = tag) = []
        → element.decodeAfter tag errors = { errors })
      ∧ (∀ first rest,
          element.attributes.filter (·.name = tag) = first :: rest
          → ∃ report : ElementReport,
              element.decodeAfter tag errors
                = { overrides := report.overrides, errors := errors ++ report.errors }
              ∧ element.DecidedBy first rest report)
      ∧ ∀ (other : Element) first second second' rest rest',
          other.kind = element.kind
          → other.name = element.name
          → element.attributes.filter (·.name = tag) = first :: second :: rest
          → other.attributes.filter (·.name = tag) = first :: second' :: rest'
          → second'.position = second.position
          → other.decodeAfter tag errors = element.decodeAfter tag errors := by
  refine ⟨?_, ?_, ?_⟩
  · intro untagged
    rw [decodeAfter, Declaration.attributesTagged, untagged]
  · intro first rest tagged
    exact ⟨element.decode tag, element.decodeAfter_eq tag errors, decidedBy_decode tagged⟩
  · intro other first second second' rest rest' kind name tagged otherTagged place
    have sameTag : second'.name = second.name :=
      (name_of_second otherTagged).trans (name_of_second tagged).symm
    simp only [decodeAfter_eq, decode_of_attributesTagged tagged,
      decode_of_attributesTagged otherTagged, decodeFirst_of_sameName kind name,
      List.head?_cons, duplicateAttribute_of_sameName kind name sameTag place, Option.toList_some,
      List.map_singleton]

/-- On a field with three attributes of the tag, between others of another tag, the first `name` of
the first one counts, and the second one is reported last and at its place. The field is the same to
the pass if the second attribute has no parameters and the third one is missing. An enumeration with
these attributes has the first one reported at its place as well.
-/
theorem decodeAfter_firstDeclaration_threeAttributes
    : let parameter (name value : String) (line : UInt64) : Parameter :=
        { name, value, position := { line } }
      let csharp (parameters : List Parameter) (line : UInt64) : Attribute :=
        { name := "csharp", parameters, position := { line } }
      let java : Attribute := { name := "java", parameters := [parameter "name" "Java" 2] }
      let first : Attribute :=
        csharp [parameter "type" "int" 4, parameter "name" "Key" 5, parameter "name" "Id" 6] 3
      let second : Attribute := csharp [parameter "name" "Other" 7] 7
      let attributes : List Attribute := [java, first, java, second, csharp [] 8]
      let element : Element := { kind := .field, name := "id", attributes }
      let twin : Element :=
        { kind := .field, name := "id", attributes := [first, csharp [] 7, java] }
      let refusing : Element := { kind := .enumeration, name := "color", attributes }
      let duplicate : ValidationError :=
        { kind := .duplicateAttribute
          message := "duplicate 'csharp' attribute on field 'id'"
          position := { line := 7 } }
      let earlier : ValidationError :=
        { kind := .unexpectedAttribute
          message := "unexpected 'csharp' attribute on method 'get'"
          position := { line := 1 } }
      twin.decodeAfter "csharp" [earlier] = element.decodeAfter "csharp" [earlier]
      ∧ (∃ report : ElementReport,
          element.decodeAfter "csharp" [earlier]
            = { overrides := report.overrides, errors := earlier :: report.errors }
          ∧ report.overrides = [⟨.propertyName "Key", first, parameter "name" "Key" 5⟩]
          ∧ report.errors.filter (·.kind = .unexpectedAttribute) = []
          ∧ report.errors.filter (·.kind = .duplicateAttribute) = [duplicate]
          ∧ report.errors.getLast? = some duplicate)
      ∧ ∃ report : ElementReport,
          refusing.decodeAfter "csharp" [earlier]
            = { overrides := report.overrides, errors := earlier :: report.errors }
          ∧ report.overrides = []
          ∧ report.errors.filter (·.kind = .unexpectedAttribute)
            = [{ kind := .unexpectedAttribute
                 message := "unexpected 'csharp' attribute on enumeration 'color'"
                 position := { line := 3 } }] := by
  intro parameter csharp java first second attributes element twin refusing duplicate earlier
  have tagged : attributes.filter (·.name = "csharp") = [first, second, csharp [] 8] := by decide
  have twinTagged : twin.attributes.filter (·.name = "csharp") = [first, csharp [] 7] := by decide
  obtain ⟨-, decided, inert⟩ := decodeAfter_firstDeclaration element "csharp" [earlier]
  obtain ⟨report, added, byFirst⟩ := decided first [second, csharp [] 8] tagged
  obtain ⟨-, refusedBy, -⟩ := decodeAfter_firstDeclaration refusing "csharp" [earlier]
  obtain ⟨refusal, refusalAdded, refused⟩ := refusedBy first [second, csharp [] 8] tagged
  refine ⟨?_, ⟨report, added, ?_, ?_, ?_, ?_⟩, ⟨refusal, refusalAdded, ?_, ?_⟩⟩
  · exact inert twin first second (csharp [] 7) [csharp [] 8] [] rfl rfl tagged twinTagged rfl
  · exact byFirst.overrides.trans (by decide)
  · exact byFirst.unexpectedAttribute.trans (by decide)
  · exact byFirst.duplicateAttribute.trans (by decide +kernel)
  · exact (byFirst.duplicateLast second rfl).trans (by decide +kernel)
  · exact refused.overrides.trans (by decide)
  · exact refused.unexpectedAttribute.trans (by decide +kernel)

end Element

end SchemaNames
