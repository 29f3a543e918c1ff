import SchemaNames.Naming.Overrides
import SchemaNames.Proofs.Naming.ElementDecoding

/-! The values of overrides. An element that knows a parameter is overridden by the first
parameter of that name in the first attribute of the tag, and by nothing else.
-/

namespace SchemaNames

/-- The value of the first parameter of a name in the first attribute whose name is the tag. -/
def Declaration.parameterValue? (declaration : Declaration) (tag name : String) : Option String :=
  (declaration.attributes.find? (·.name = tag)).bind fun attr =>
    (attr.parameters.find? (·.name = name)).map (·.value)

/-- Where one name gives a value and no other does, the first uses give the value of the first
parameter of that name, unless the name was seen. Witness: induction on the parameters.
-/
theorem filterMap_firstUses {β : Type} {value? : Parameter → Option β} {known : String}
    (knows : ∀ parameter, (value? parameter).isSome ↔ parameter.name = known)
    (seen : List String) (parameters : List Parameter)
    : (firstUses seen parameters).filterMap value?
      = if known ∈ seen then [] else (parameters.findSome? value?).toList := by
  induction parameters generalizing seen with
  | nil => simp [firstUses]
  | cons parameter rest ih =>
      rw [firstUses, List.findSome?_cons]
      cases given : value? parameter with
      | none =>
          have apart : parameter.name ≠ known := by
            rw [Ne, ← knows, given]
            exact Bool.false_ne_true
          by_cases old : parameter.name ∈ seen
          · rw [if_pos old, ih]
          · rw [if_neg old, List.filterMap_cons_none given, ih]
            simp only [List.mem_cons, apart.symm, false_or]
      | some value =>
          obtain rfl : parameter.name = known := by
            rw [← knows, given]
            rfl
          by_cases old : parameter.name ∈ seen
          · rw [if_pos old, ih, if_pos old, if_pos old]
          · rw [if_neg old, List.filterMap_cons_some given, ih, if_pos List.mem_cons_self,
              if_neg old]
            rfl

/-- A name that was not seen has one first use, the first parameter of that name; a name that
was seen has none.
-/
theorem filter_firstUses (seen : List String) (name : String) (parameters : List Parameter)
    : (firstUses seen parameters).filter (·.name = name)
      = if name ∈ seen then [] else (parameters.find? (·.name = name)).toList := by
  have knows (parameter : Parameter)
      : (Option.guard (fun other : Parameter => decide (other.name = name)) parameter).isSome
        ↔ parameter.name = name := by
    simp
  rw [← List.filterMap_eq_filter, filterMap_firstUses knows, List.findSome?_guard]

/-- The overrides of an element are those of its first attribute, as later ones only add errors. -/
theorem Element.overrides_decode (element : Element) (tag : String)
    : (element.decode tag).overrides
      = ((element.attributesTagged tag).head?.map fun attr =>
          (element.decodeFirst attr).overrides).getD [] := by
  unfold decode
  split <;> simp [*]

/-- What the overrides of an element come to is the value of the parameter that it knows. -/
theorem Element.filterMap_overrides_decode (element : Element) {known : String}
    (knows : element.kind.knownParameter? = some known) (tag : String)
    (get : Override → Option String)
    (gets
      : ∀ parameter,
          parameter.name = known
          → (Override.decode element.kind parameter).bind get = some parameter.value)
    : (element.decode tag).overrides.filterMap (fun decoded => get decoded.value)
      = (element.parameterValue? tag known).toList := by
  rw [overrides_decode, Declaration.parameterValue?, ← Declaration.head?_attributesTagged]
  cases element.toDeclaration.attributesTagged tag with
  | nil => rfl
  | cons attr rest =>
      have each (parameter : Parameter)
          : ((Override.decode element.kind parameter).map fun value =>
                ({ value, source := attr, parameter } : DecodedOverride)).bind
              (fun decoded => get decoded.value)
            = if parameter.name = known then some parameter.value else none := by
        rw [Option.bind_map]
        by_cases here : parameter.name = known
        · rw [if_pos here]
          exact gets parameter here
        · rw [if_neg here, Override.decode_eq_none_iff.mpr, Option.bind_none]
          rw [knows]
          simpa using Ne.symm here
      have values (uses : List Parameter)
          : (uses.filterMap fun parameter =>
                if parameter.name = known then some parameter.value else none)
            = (uses.filter (·.name = known)).map (·.value) := by
        rw [← List.filterMap_eq_map', List.filterMap_filter]
        simp only [decide_eq_true_eq]
      simp only [List.head?_cons, Option.map_some, Option.getD_some, Option.bind_some,
        decodeFirst_of_known knows, decodeParameters, List.filterMap_filterMap, each, values,
        filter_firstUses, List.not_mem_nil, ↓reduceIte]
      cases attr.parameters.find? (·.name = known) <;> rfl

/-- The namespace that the overrides of a service give is that of its own attribute. -/
theorem Service.serviceNamespace_overrides (service : Service) (tag : String)
    : (service.overrides tag).serviceNamespace = service.parameterValue? tag "namespace" := by
  have given := service.element.filterMap_overrides_decode rfl tag
    Override.serviceNamespace? fun parameter named => by
      simp [Service.element, Declaration.element, Override.decode, named,
        Override.serviceNamespace?]
  simp only [overrides, given, Option.head?_toList]
  rfl

/-- The property names that the overrides of a field give are that of its own attribute. -/
theorem FieldRef.propertyNames_report (ref : FieldRef) (tag : String)
    : (ref.report tag).overrides.filterMap (·.value.propertyName?)
      = (ref.field.parameterValue? tag "name").toList :=
  ref.field.element.filterMap_overrides_decode rfl tag Override.propertyName?
    fun parameter named => by
      simp [Field.element, Declaration.element, Override.decode, named, Override.propertyName?]

end SchemaNames
