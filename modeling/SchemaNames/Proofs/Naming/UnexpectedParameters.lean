import SchemaNames.Proofs.Naming.ElementDecoding
import SchemaNames.Proofs.Naming.SharedErrors

/-! Which parameters are reported. A name that an element does not know is reported where it first
stands in an attribute, and however often it stands there again, it is not reported another time.
-/

namespace SchemaNames

-----------------------------------------------------------------------------------------
-- First uses as a list without repeated names
-----------------------------------------------------------------------------------------

/-- Dropping repeated names behind parameters that were kept keeps the first uses, by induction on
the parameters.
-/
theorem eraseDupsBy_loop_eq (kept parameters : List Parameter)
    : List.eraseDupsBy.loop (fun a b => a.name == b.name) parameters kept
      = kept.reverse ++ firstUses (kept.map (·.name)) parameters := by
  induction parameters generalizing kept with
  | nil => simp [List.eraseDupsBy.loop, firstUses]
  | cons parameter rest ih =>
      have seen
          : kept.any (fun other => parameter.name == other.name)
            = decide (parameter.name ∈ kept.map (·.name)) := by
        rw [Bool.eq_iff_iff]
        simp only [List.any_eq_true, beq_iff_eq, decide_eq_true_eq, List.mem_map,
          @eq_comm _ parameter.name]
      rw [List.eraseDupsBy.loop, firstUses, seen]
      by_cases old : parameter.name ∈ kept.map (·.name)
      · simp only [old, decide_true, ih, ↓reduceIte]
      · simp [old, ih]

/-- First uses are the parameters without those whose name stood earlier. -/
theorem firstUses_nil_eq (parameters : List Parameter)
    : firstUses [] parameters = parameters.eraseDupsBy fun a b => a.name == b.name :=
  (eraseDupsBy_loop_eq [] parameters).symm

/-- First uses depend on the seen names that parameters have, by induction on the parameters. -/
theorem firstUses_congr {seen other : List String} {parameters : List Parameter}
    (same : ∀ parameter ∈ parameters, parameter.name ∈ seen ↔ parameter.name ∈ other)
    : firstUses seen parameters = firstUses other parameters := by
  induction parameters generalizing seen other with
  | nil => rfl
  | cons parameter rest ih =>
      obtain ⟨here, later⟩ := List.forall_mem_cons.mp same
      rw [firstUses, firstUses, ih later]
      by_cases old : parameter.name ∈ other
      · simp only [here.mpr old, old, ↓reduceIte]
      · rw [if_neg old, if_neg (mt here.mp old)]
        congr 1
        apply ih
        intro next listed
        simp only [List.mem_cons, later next listed]

/-- Where names decide what is picked, picking commutes with first uses. Witness: induction on the
parameters, where a name that is not picked is none of a picked parameter.
-/
theorem filter_firstUses_of_name {pick : Parameter → Bool}
    (byName : ∀ a b : Parameter, a.name = b.name → pick a = pick b) (seen : List String)
    (parameters : List Parameter)
    : (firstUses seen parameters).filter pick = firstUses seen (parameters.filter pick) := by
  induction parameters generalizing seen with
  | nil => rfl
  | cons parameter rest ih =>
      rw [firstUses, List.filter_cons]
      by_cases old : parameter.name ∈ seen
      · rw [if_pos old, ih]
        split
        · rw [firstUses, if_pos old]
        · rfl
      · rw [if_neg old, List.filter_cons, ih]
        split
        case isTrue picked => rw [firstUses, if_neg old]
        case isFalse unpicked =>
          apply firstUses_congr
          intro other listed
          have apart : other.name ≠ parameter.name := fun named =>
            unpicked (byName other parameter named ▸ (List.mem_filter.mp listed).2)
          simp [apart]

/-- All parameters are first uses exactly when their names are new and differ, by induction on the
parameters.
-/
theorem firstUses_eq_self_iff {seen : List String} {parameters : List Parameter}
    : firstUses seen parameters = parameters
      ↔ (∀ parameter ∈ parameters, parameter.name ∉ seen) ∧ (parameters.map (·.name)).Nodup := by
  induction parameters generalizing seen with
  | nil => simp [firstUses]
  | cons parameter rest ih =>
      rw [firstUses]
      by_cases old : parameter.name ∈ seen
      · have shorter : firstUses seen rest ≠ parameter :: rest := fun same => by
          have bound := (firstUses_sublist seen rest).length_le
          rw [same, List.length_cons] at bound
          omega
        simp [old, shorter]
      · simp only [old, ↓reduceIte, List.cons.injEq, true_and, ih, List.mem_cons, not_or,
          List.map_cons, List.nodup_cons, List.mem_map]
        grind

-----------------------------------------------------------------------------------------
-- Reports of parameters
-----------------------------------------------------------------------------------------

namespace Element

/-- A first attribute with parameters has them checked, and a second one is reported behind them. -/
theorem errors_decode_of_checked {element : Element} {tag : String} {attr : Attribute}
    (first : (element.attributesTagged tag).head? = some attr)
    (checked : element.kind.checksParameters) (filled : attr.parameters ≠ [])
    : (element.decode tag).errors
      = (element.decodeParameters attr).errors
        ++ (element.attributesTagged tag)[1]?.toList.map
            (ValidationError.duplicateAttribute element) := by
  have reported : element.decodeFirst attr = element.decodeParameters attr := by
    simp [decodeFirst, checked, filled]
  obtain ⟨rest, tagged⟩ := List.head?_eq_some_iff.mp first
  rw [decode_of_attributesTagged tagged, reported, tagged, List.getElem?_cons_succ,
    List.head?_eq_getElem?]

/-- Each name that an element does not know is reported once, where it first stands. Behind what a
list held, there is one error for every parameter of the first attribute that is not an override,
in order and at its place, but only if no such parameter of its name stood earlier; behind these
there is nothing but the error about a second attribute. Every such parameter is reported
exactly when their names differ. Witness: a name is looked at where it is first used, and whether
it is known depends on nothing but the name.
-/
theorem decodeAfter_unexpectedParameters {element : Element} {tag : String} {attr : Attribute}
    (first : (element.attributes.filter (·.name = tag)).head? = some attr)
    (checked : element.kind ∈ [.service, .method, .dataObject, .field])
    (filled : attr.parameters ≠ []) (errors : List ValidationError)
    : let unknown :=
        attr.parameters.filter fun parameter => (Override.decode element.kind parameter).isNone
      let report (parameter : Parameter) : ValidationError :=
        { kind := .unexpectedParameter
          message :=
            "unexpected '" ++ attr.name ++ "' parameter '" ++ parameter.name ++ "' on "
              ++ element.describe
          position := parameter.position }
      let reportSecond (second : Attribute) : ValidationError :=
        { kind := .duplicateAttribute
          message := "duplicate '" ++ second.name ++ "' attribute on " ++ element.describe
          position := second.position }
      (element.decodeAfter tag errors).errors
        = errors ++ (unknown.eraseDupsBy fun a b => a.name == b.name).map report
          ++ (element.attributes.filter (·.name = tag))[1]?.toList.map reportSecond
      ∧ ((unknown.eraseDupsBy fun a b => a.name == b.name).map report = unknown.map report
        ↔ (unknown.map (·.name)).Nodup) := by
  intro unknown report reportSecond
  have checks : element.kind.checksParameters := by
    simp only [List.mem_cons, List.not_mem_nil, or_false] at checked
    rcases checked with kind | kind | kind | kind <;> rw [kind] <;> rfl
  have byName (a b : Parameter) (named : a.name = b.name)
      : (Override.decode element.kind a).isNone = (Override.decode element.kind b).isNone := by
    rw [Bool.eq_iff_iff, Option.isNone_iff_eq_none, Option.isNone_iff_eq_none,
      Override.decode_eq_none_iff, Override.decode_eq_none_iff, named]
  have reported
      : (element.decodeParameters attr).errors = (firstUses [] unknown).map report := by
    rw [decodeParameters, filter_firstUses_of_name byName]
    rfl
  rw [← firstUses_nil_eq]
  constructor
  · rw [decodeAfter_eq, ElementReport.behind, errors_decode_of_checked first checks filled,
      reported, List.append_assoc]
    rfl
  · have all : firstUses [] unknown = unknown ↔ (unknown.map (·.name)).Nodup := by
      simpa using @firstUses_eq_self_iff [] unknown
    rw [← all]
    constructor
    · intro same
      apply (firstUses_sublist [] unknown).eq_of_length
      simpa using congrArg List.length same
    · intro same
      rw [same]

/-- On a field the repeated `type` is reported at its first place only, before the second attribute,
and the repeated `name` not at all.
-/
theorem decodeAfter_unexpectedParameters_repeatedType
    : let parameter (name : String) (line : UInt64) : Parameter :=
        { name, value := "x", position := { line } }
      let attr : Attribute :=
        { name := "csharp"
          parameters :=
            [parameter "type" 3, parameter "name" 4, parameter "size" 5, parameter "name" 6,
              parameter "type" 7] }
      let second : Attribute := { name := "csharp", position := { line := 8 } }
      let element : Element :=
        { kind := .field, name := "id", attributes := [{ name := "java" }, attr, second] }
      let earlier : ValidationError :=
        { kind := .unexpectedAttribute
          message := "unexpected 'csharp' attribute on method 'get'"
          position := { line := 1 } }
      (element.attributes.filter (·.name = "csharp")).head? = some attr
      ∧ element.kind ∈ [.service, .method, .dataObject, .field]
      ∧ attr.parameters ≠ []
      ∧ (element.decodeAfter "csharp" [earlier]).errors
        = [earlier,
          { kind := .unexpectedParameter
            message := "unexpected 'csharp' parameter 'type' on field 'id'"
            position := { line := 3 } },
          { kind := .unexpectedParameter
            message := "unexpected 'csharp' parameter 'size' on field 'id'"
            position := { line := 5 } },
          { kind := .duplicateAttribute
            message := "duplicate 'csharp' attribute on field 'id'"
            position := { line := 8 } }] := by
  intro parameter attr second element earlier
  have first : (element.attributes.filter (·.name = "csharp")).head? = some attr := by decide
  have checked : element.kind ∈ [.service, .method, .dataObject, .field] := by decide
  have filled : attr.parameters ≠ [] := by decide
  have reported := (decodeAfter_unexpectedParameters first checked filled [earlier]).1
  refine ⟨first, checked, filled, reported.trans ?_⟩
  decide +kernel

/-- An unknown parameter is not reported at each place where it stands: a data object with `alias`
twice has a single error.
-/
theorem not_reported_at_each_use
    : ¬ ∀ (element : Element) (tag : String) (attr : Attribute) (errors : List ValidationError),
          (element.attributes.filter (·.name = tag)).head? = some attr
          → element.kind ∈ [.service, .method, .dataObject, .field]
          → attr.parameters ≠ []
          → ∃ added,
              (element.decodeAfter tag errors).errors = errors ++ added
              ∧ (added.filter (·.kind = .unexpectedParameter)).map (·.position)
                = (attr.parameters.filter fun parameter =>
                    (Override.decode element.kind parameter).isNone).map (·.position) := by
  intro everywhere
  let parameter (value : String) (line : UInt64) : Parameter :=
    { name := "alias", value, position := { line, column := 1 } }
  let attr : Attribute :=
    { name := "csharp"
      parameters := [parameter "A" 3, parameter "B" 4]
      position := { line := 2, column := 1 } }
  let element : Element :=
    { kind := .dataObject
      name := "widget"
      attributes := [attr]
      position := { line := 1, column := 1 } }
  obtain ⟨added, after, reported⟩ :=
    everywhere element "csharp" attr [] (by decide) (by decide) (by decide)
  obtain rfl : (element.decodeAfter "csharp" []).errors = added := after
  revert reported
  decide +kernel

end Element

end SchemaNames
