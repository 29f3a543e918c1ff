import SchemaNames.Naming.Override

/-! When nothing is reported about the attributes of one element. The first attribute of a tag
may only stand on a service or a field with the parameter that it knows, and a second attribute
is always reported.
-/

namespace SchemaNames

-----------------------------------------------------------------------------------------
-- First uses of parameter names
-----------------------------------------------------------------------------------------

/-- First uses are some of the parameters in their order, by induction on the parameters. -/
theorem firstUses_sublist (seen : List String) (parameters : List Parameter)
    : (firstUses seen parameters).Sublist parameters := by
  induction parameters generalizing seen with
  | nil => exact List.Sublist.refl _
  | cons parameter rest ih =>
      unfold firstUses
      split
      · exact (ih seen).cons parameter
      · exact (ih _).cons_cons parameter

/-- Every name that was not seen before has a first use, by induction on the parameters. -/
theorem exists_firstUse (seen : List String) {parameters : List Parameter}
    {parameter : Parameter} (member : parameter ∈ parameters) (fresh : parameter.name ∉ seen)
    : ∃ first ∈ firstUses seen parameters, first.name = parameter.name := by
  induction parameters generalizing seen with
  | nil => exact absurd member List.not_mem_nil
  | cons head rest ih =>
      unfold firstUses
      rcases List.mem_cons.mp member with same | later
      · subst same
        exact ⟨parameter, by simp [fresh], rfl⟩
      · split
        · exact ih seen later fresh
        · by_cases same : parameter.name = head.name
          · exact ⟨head, List.mem_cons_self, same.symm⟩
          · obtain ⟨first, used, named⟩ := ih (head.name :: seen) later
              (by simp [same, fresh])
            exact ⟨first, List.mem_cons_of_mem _ used, named⟩

-----------------------------------------------------------------------------------------
-- Parameters that an element knows
-----------------------------------------------------------------------------------------

/-- The one parameter that an element of a kind knows, if it knows any. -/
def ElementKind.knownParameter? : ElementKind → Option String
  | .service => some "namespace"
  | .field => some "name"
  | _ => none

/-- A parameter is an override exactly when the element knows its name, by cases on the kind. -/
theorem Override.decode_eq_none_iff {kind : ElementKind} {parameter : Parameter}
    : Override.decode kind parameter = none ↔ kind.knownParameter? ≠ some parameter.name := by
  cases kind <;> simp [Override.decode, ElementKind.knownParameter?, eq_comm]

/-- The first attribute of a tag is the first one whose name is the tag. -/
theorem Declaration.head?_attributesTagged (declaration : Declaration) (tag : String)
    : (declaration.attributesTagged tag).head? = declaration.attributes.find? (·.name = tag) :=
  List.head?_filter

namespace Element

/-- An element comes to what its first attribute comes to, and a second one is reported last. -/
theorem decode_of_attributesTagged {element : Element} {tag : String} {first : Attribute}
    {rest : List Attribute} (tagged : element.attributesTagged tag = first :: rest)
    : element.decode tag
      = { overrides := (element.decodeFirst first).overrides
          errors :=
            (element.decodeFirst first).errors
              ++ rest.head?.toList.map (ValidationError.duplicateAttribute element) } := by
  rw [decode, tagged]
  cases rest <;> simp

/-- Nothing is reported about parameters exactly when the element knows all of them. Witness: a
parameter that is not known has a first use under the same name.
-/
theorem errors_decodeParameters_eq_nil_iff {element : Element} {attr : Attribute}
    : (element.decodeParameters attr).errors = []
      ↔ ∀ parameter ∈ attr.parameters, element.kind.knownParameter? = some parameter.name := by
  simp only [decodeParameters, List.map_eq_nil_iff, List.filter_eq_nil_iff,
    Option.isNone_iff_eq_none, Override.decode_eq_none_iff, Decidable.not_not]
  constructor
  · intro known parameter member
    obtain ⟨first, used, named⟩ := exists_firstUse [] member List.not_mem_nil
    exact named ▸ known first used
  · intro known parameter used
    exact known parameter ((firstUses_sublist _ _).subset used)

/-- An element that knows a parameter has the parameters of its first attribute checked. -/
theorem decodeFirst_of_known {element : Element} {attr : Attribute} {name : String}
    (known : element.kind.knownParameter? = some name)
    : element.decodeFirst attr = element.decodeParameters attr := by
  cases kind : element.kind <;>
    simp_all [decodeFirst, ElementKind.knownParameter?, ElementKind.checksParameters,
      ElementKind.acceptsParameters]

/-- An element that knows no parameter has its first attribute reported, either as a whole or
at its first parameter.
-/
theorem errors_decodeFirst_ne_nil {element : Element} {attr : Attribute}
    (unknown : element.kind.knownParameter? = none)
    : (element.decodeFirst attr).errors ≠ [] := by
  unfold decodeFirst
  split
  case isFalse => exact List.cons_ne_nil _ _
  case isTrue checked =>
      have notAccepted : element.kind.acceptsParameters = false := by
        cases kind : element.kind <;>
          simp_all [ElementKind.knownParameter?, ElementKind.acceptsParameters]
      cases parameters : attr.parameters with
      | nil => simp [notAccepted, parameters] at checked
      | cons parameter rest =>
          intro silent
          have known := errors_decodeParameters_eq_nil_iff.mp silent parameter
            (parameters ▸ List.mem_cons_self)
          rw [unknown] at known
          cases known

/-- Nothing is reported about the first attribute exactly when the element knows a parameter
and every parameter of the attribute is that one.
-/
theorem errors_decodeFirst_eq_nil_iff {element : Element} {attr : Attribute}
    : (element.decodeFirst attr).errors = []
      ↔ ∃ name,
          element.kind.knownParameter? = some name
          ∧ ∀ parameter ∈ attr.parameters, parameter.name = name := by
  cases known : element.kind.knownParameter? with
  | none => simpa using errors_decodeFirst_ne_nil known
  | some name =>
      rw [decodeFirst_of_known known, errors_decodeParameters_eq_nil_iff, known]
      simp [eq_comm]

/-- Nothing is reported about an element exactly when the tag stands on it at most once, and
only if it knows a parameter and the attribute has no other. Witness: a second attribute adds
an error, and otherwise the first one decides.
-/
theorem errors_decode_eq_nil_iff {element : Element} {tag : String}
    : (element.decode tag).errors = []
      ↔ (element.attributesTagged tag).length ≤ 1
        ∧ ∀ attr ∈ element.attributesTagged tag,
            ∃ name,
              element.kind.knownParameter? = some name
              ∧ ∀ parameter ∈ attr.parameters, parameter.name = name := by
  unfold decode
  split
  case h_1 none => simp [none]
  case h_2 first one => simpa [one] using errors_decodeFirst_eq_nil_iff
  case h_3 first second rest two => simp [two]

/-- An error about the attributes of an element is never one about a generated type, by cases
on what was reported.
-/
theorem kind_ne_of_mem_errors_decode {element : Element} {tag : String} {error : ValidationError}
    (reported : error ∈ (element.decode tag).errors)
    : error.kind ≠ .duplicateGeneratedType := by
  have first {attr : Attribute} (reported : error ∈ (element.decodeFirst attr).errors)
      : error.kind ≠ .duplicateGeneratedType := by
    unfold decodeFirst at reported
    split at reported
    · obtain ⟨parameter, _, rfl⟩ := List.mem_map.mp reported
      simp [ValidationError.unexpectedParameter]
    · obtain rfl := List.mem_singleton.mp reported
      simp [ValidationError.unexpectedAttribute]
  unfold decode at reported
  split at reported
  · cases reported
  · exact first reported
  · rcases List.mem_append.mp reported with early | last
    · exact first early
    · obtain rfl := List.mem_singleton.mp last
      simp [ValidationError.duplicateAttribute]

end Element

end SchemaNames
