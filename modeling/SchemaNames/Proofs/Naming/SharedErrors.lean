import SchemaNames.Naming.Info
import SchemaNames.Proofs.Naming.OfferedNames

/-! Passes that share one list of errors. A pass writes every error behind those that it finds in
the list, and so leaves the list that it was given, followed by what it reports on its own.
-/

namespace SchemaNames

/-- The report with its errors behind others. -/
def ElementReport.behind (report : ElementReport) (errors : List ValidationError)
    : ElementReport :=
  { overrides := report.overrides, errors := errors ++ report.errors }

/-- The report with its errors behind others. -/
def CollisionReport.behind (report : CollisionReport) (errors : List ValidationError)
    : CollisionReport :=
  { typeNames := report.typeNames, errors := errors ++ report.errors }

-----------------------------------------------------------------------------------------
-- One element
-----------------------------------------------------------------------------------------

/-- The parameters of an attribute as far as they were looked at, with the errors of a shared
list.
-/
structure ParameterScan extends ElementReport where
  seen : List String := []

/-- Looks at one more parameter, unless one of its name was looked at before. -/
def ParameterScan.step (element : Element) (attr : Attribute) (scan : ParameterScan)
    (parameter : Parameter)
    : ParameterScan :=
  if parameter.name ∈ scan.seen then
    scan
  else
    match Override.decode element.kind parameter with
    | some value =>
        { scan with
          seen := parameter.name :: scan.seen
          overrides := scan.overrides ++ [{ value, source := attr, parameter }] }
    | none =>
        { scan with
          seen := parameter.name :: scan.seen
          errors := scan.errors ++ [.unexpectedParameter element attr parameter] }

namespace Element

/-- Looks at the parameters of an attribute in turn. -/
def decodeParametersAfter (element : Element) (attr : Attribute) (errors : List ValidationError)
    : ElementReport :=
  (attr.parameters.foldl (ParameterScan.step element attr) { errors }).toElementReport

/-- Looks at the first attribute of a tag. -/
def decodeFirstAfter (element : Element) (attr : Attribute) (errors : List ValidationError)
    : ElementReport :=
  if element.kind.checksParameters
      && (element.kind.acceptsParameters || !attr.parameters.isEmpty) then
    element.decodeParametersAfter attr errors
  else
    { errors := errors ++ [.unexpectedAttribute element attr] }

/-- Looks at the attributes of a tag. -/
def decodeAfter (element : Element) (tag : String) (errors : List ValidationError)
    : ElementReport :=
  match element.attributesTagged tag with
  | [] => { errors }
  | [first] => element.decodeFirstAfter first errors
  | first :: second :: _ =>
      let report := element.decodeFirstAfter first errors
      { report with errors := report.errors ++ [.duplicateAttribute element second] }

end Element

-----------------------------------------------------------------------------------------
-- All elements of a service
-----------------------------------------------------------------------------------------

/-- The overrides of a service as far as they were found, with the errors of a shared list. -/
@[ext] structure OverrideWalk where
  overrides : Overrides
  errors : List ValidationError

namespace OverrideWalk

/-- Looks at an element whose overrides name nothing. -/
def visit (tag : String) (walk : OverrideWalk) (element : Element) : OverrideWalk :=
  { walk with errors := (element.decodeAfter tag walk.errors).errors }

/-- Looks at a service, where the first namespace counts. -/
def visitService (tag : String) (walk : OverrideWalk) (service : Service) : OverrideWalk :=
  let report := service.element.decodeAfter tag walk.errors
  { overrides :=
      { walk.overrides with
        serviceNamespace :=
          (report.overrides.filterMap (·.value.serviceNamespace?)).foldl
            (fun found name => some (found.getD name)) walk.overrides.serviceNamespace }
    errors := report.errors }

/-- Looks at a field, where the last property name counts. -/
def visitField (tag : String) (walk : OverrideWalk) (ref : FieldRef) : OverrideWalk :=
  let report := ref.field.element.decodeAfter tag walk.errors
  { overrides :=
      { walk.overrides with
        propertyNames :=
          (report.overrides.filterMap (·.value.propertyName?)).foldl
            (fun names name => names.insert ref.id name) walk.overrides.propertyNames }
    errors := report.errors }

/-- Looks at a member, then at its fields, then at the values or errors that it lists. -/
def visitMember (tag : String) (walk : OverrideWalk) (placed : Member × Nat) : OverrideWalk :=
  match placed.1.element? with
  | none => walk
  | some element =>
      let fields := (placed.1.fields placed.2).foldl (visitField tag) (walk.visit tag element)
      placed.1.cases.foldl (visit tag) fields

end OverrideWalk

/-- Looks at a service and then at its members in turn. -/
def Service.overridesAfter (service : Service) (tag : String) (errors : List ValidationError)
    : OverrideWalk :=
  let start : OverrideWalk :=
    { overrides := { serviceNamespace := none, propertyNames := {} }, errors }
  service.members.zipIdx.foldl (OverrideWalk.visitMember tag) (start.visitService tag service)

-----------------------------------------------------------------------------------------
-- All type names of a service
-----------------------------------------------------------------------------------------

/-- The type names registered so far, with the errors of a shared list. -/
structure NameWalk where
  registry : TypeRegistry
  errors : List ValidationError

namespace NameWalk

/-- Registers a name of an element, or reports that it is taken. -/
def offer (element : Element) (walk : NameWalk) (name : String) : NameWalk :=
  let (registry, existing?) := walk.registry.tryInsert name
  match existing? with
  | some existing =>
      { registry, errors := walk.errors ++ [.duplicateGeneratedType element name existing] }
  | none => { walk with registry }

/-- Registers the names of members up to the first one that has none. -/
def offerMembers (service : Service) (options : Options) (walk : NameWalk) (index : Nat)
    : List Member → CollisionReport
  | [] => { typeNames := .ok walk.registry.names, errors := walk.errors }
  | member :: rest =>
      match member.element?, member.typeNames? options with
      | some element, some names =>
          (names.foldl (offer element) walk).offerMembers service options (index + 1) rest
      | _, _ =>
          { typeNames := .error (.unrecognizedMember service.name index), errors := walk.errors }

end NameWalk

/-- Registers the root type of a service and then the types of its members. -/
def Service.collisionsAfter (service : Service) (options : Options)
    (errors : List ValidationError)
    : CollisionReport :=
  let start : NameWalk := { registry := (TypeRegistry.tryInsert {} service.typeName).1, errors }
  start.offerMembers service options 0 service.members

-----------------------------------------------------------------------------------------
-- What a pass leaves in the list
-----------------------------------------------------------------------------------------

/-- Looking at parameters adds the overrides and errors of first uses, by induction on the
parameters with the names that were seen before.
-/
theorem ParameterScan.foldl_step (element : Element) (attr : Attribute) (scan : ParameterScan)
    (parameters : List Parameter)
    : (parameters.foldl (step element attr) scan).toElementReport
      = { overrides :=
            scan.overrides
              ++ (firstUses scan.seen parameters).filterMap fun parameter =>
                  (Override.decode element.kind parameter).map fun value =>
                    { value, source := attr, parameter }
          errors :=
            scan.errors
              ++ ((firstUses scan.seen parameters).filter fun parameter =>
                  (Override.decode element.kind parameter).isNone).map
                    (ValidationError.unexpectedParameter element attr) } := by
  induction parameters generalizing scan with
  | nil => simp [firstUses]
  | cons parameter rest ih =>
      rw [List.foldl_cons, ih, step, firstUses]
      by_cases seen : parameter.name ∈ scan.seen
      · simp [seen]
      · cases decoded : Override.decode element.kind parameter <;> simp [seen, decoded]

namespace Element

/-- The first attribute adds its errors and gives its overrides. -/
theorem decodeFirstAfter_eq (element : Element) (attr : Attribute) (errors : List ValidationError)
    : element.decodeFirstAfter attr errors = (element.decodeFirst attr).behind errors := by
  unfold decodeFirstAfter decodeFirst
  split
  · rw [decodeParametersAfter, ParameterScan.foldl_step]
    rfl
  · rfl

/-- An element adds its errors to the list and gives its overrides, whatever the list held. -/
theorem decodeAfter_eq (element : Element) (tag : String) (errors : List ValidationError)
    : element.decodeAfter tag errors = (element.decode tag).behind errors := by
  unfold decodeAfter decode
  rcases element.attributesTagged tag with _ | ⟨first, _ | ⟨second, rest⟩⟩
  · simp [ElementReport.behind]
  · exact element.decodeFirstAfter_eq first errors
  · simp only [decodeFirstAfter_eq, ElementReport.behind, List.append_assoc]

end Element

namespace OverrideWalk

/-- What each step adds to the list is added in turn, by induction on the items. -/
theorem errors_foldl {α : Type} {step : OverrideWalk → α → OverrideWalk}
    {report : α → List ValidationError}
    (adds : ∀ walk item, (step walk item).errors = walk.errors ++ report item)
    (walk : OverrideWalk) (items : List α)
    : (items.foldl step walk).errors = walk.errors ++ items.flatMap report := by
  induction items generalizing walk with
  | nil => exact (List.append_nil _).symm
  | cons item rest ih =>
      rw [List.foldl_cons, ih, adds, List.append_assoc, List.flatMap_cons]

theorem errors_visit (tag : String) (walk : OverrideWalk) (element : Element)
    : (walk.visit tag element).errors = walk.errors ++ (element.decode tag).errors := by
  rw [visit, element.decodeAfter_eq, ElementReport.behind]

/-- A field gives its property name to the overrides and its errors to the list. -/
theorem visitField_eq (tag : String) (walk : OverrideWalk) (ref : FieldRef)
    : walk.visitField tag ref
      = { overrides :=
            { walk.overrides with propertyNames := walk.overrides.propertyNames.addField tag ref }
          errors := walk.errors ++ (ref.report tag).errors } := by
  rw [visitField, ref.field.element.decodeAfter_eq]
  rfl

/-- Fields give their property names in turn, by induction on the fields. -/
theorem overrides_foldl_visitField (tag : String) (walk : OverrideWalk) (refs : List FieldRef)
    : (refs.foldl (visitField tag) walk).overrides
      = { walk.overrides with
          propertyNames :=
            refs.foldl (PropertyNames.addField tag) walk.overrides.propertyNames } := by
  induction refs generalizing walk with
  | nil => rfl
  | cons ref rest ih => rw [List.foldl_cons, ih, visitField_eq, List.foldl_cons]

/-- Values and errors of a member change no override, by induction on them. -/
theorem overrides_foldl_visit (tag : String) (walk : OverrideWalk) (elements : List Element)
    : (elements.foldl (visit tag) walk).overrides = walk.overrides := by
  induction elements generalizing walk with
  | nil => rfl
  | cons element rest ih => rw [List.foldl_cons, ih, visit]

/-- A member adds what is reported about its attributes: about itself, its fields and its cases. -/
theorem errors_visitMember (tag : String) (walk : OverrideWalk) (placed : Member × Nat)
    : (walk.visitMember tag placed).errors
      = walk.errors ++ placed.1.attributeErrors tag placed.2 := by
  rw [visitMember, Member.attributeErrors]
  cases placed.1.element? with
  | none => exact (List.append_nil _).symm
  | some element =>
      have fields (walk : OverrideWalk) (ref : FieldRef)
          : (walk.visitField tag ref).errors = walk.errors ++ (ref.report tag).errors := by
        rw [visitField_eq]
      simp only [errors_foldl (errors_visit tag), errors_foldl fields, errors_visit,
        List.append_assoc]

/-- A member gives the property names of its fields; one that is not recognized has none. -/
theorem overrides_visitMember (tag : String) (walk : OverrideWalk) (placed : Member × Nat)
    : (walk.visitMember tag placed).overrides
      = { walk.overrides with
          propertyNames :=
            (placed.1.fields placed.2).foldl (PropertyNames.addField tag)
              walk.overrides.propertyNames } := by
  obtain ⟨member, index⟩ := placed
  cases member with
  | unrecognized => rfl
  | method _ | dataObject _ | enumeration _ | errorSet _ =>
      simp only [visitMember, Member.element?, overrides_foldl_visit, overrides_foldl_visitField]
      rfl

/-- Members give the property names of all their fields in turn, by induction on the members. -/
theorem overrides_foldl_visitMember (tag : String) (walk : OverrideWalk)
    (members : List (Member × Nat))
    : (members.foldl (visitMember tag) walk).overrides
      = { walk.overrides with
          propertyNames :=
            (members.flatMap fun placed => placed.1.fields placed.2).foldl
              (PropertyNames.addField tag) walk.overrides.propertyNames } := by
  induction members generalizing walk with
  | nil => rfl
  | cons placed rest ih =>
      rw [List.foldl_cons, ih, overrides_visitMember, List.flatMap_cons, List.foldl_append]

/-- The first of some names is found, unless one was found before; by induction on the names. -/
theorem foldl_getD (found : Option String) (names : List String)
    : names.foldl (fun found name => some (found.getD name)) found = found.or names.head? := by
  induction names generalizing found with
  | nil => exact Option.or_none.symm
  | cons name rest ih =>
      rw [List.foldl_cons, ih, List.head?_cons]
      cases found <;> rfl

/-- The service gives its namespace and adds its own errors. -/
theorem visitService_eq (service : Service) (tag : String) (errors : List ValidationError)
    : visitService tag { overrides := { serviceNamespace := none, propertyNames := {} }, errors }
        service
      = { overrides :=
            { serviceNamespace := (service.overrides tag).serviceNamespace, propertyNames := {} }
          errors := errors ++ (service.element.decode tag).errors } := by
  rw [visitService, service.element.decodeAfter_eq, ElementReport.behind]
  simp only [foldl_getD, Option.none_or]
  rfl

end OverrideWalk

/-- The walk over a service gives its overrides and adds what is reported about its attributes. -/
theorem Service.overridesAfter_eq (service : Service) (tag : String)
    (errors : List ValidationError)
    : service.overridesAfter tag errors
      = { overrides := service.overrides tag
          errors := errors ++ service.attributeErrors tag } := by
  have numbered {β : Type} (part : Nat → Member → List β)
      : (service.members.zipIdx.flatMap fun placed => part placed.2 placed.1)
        = (service.members.mapIdx part).flatten := by
    rw [List.mapIdx_eq_zipIdx_map, List.flatMap_def]
  rw [overridesAfter, OverrideWalk.visitService_eq]
  ext1
  · rw [OverrideWalk.overrides_foldl_visitMember, numbered fun index member => member.fields index]
    rfl
  · rw [OverrideWalk.errors_foldl (OverrideWalk.errors_visitMember tag),
      numbered (Member.attributeErrors tag), attributeErrors, List.append_assoc]

namespace NameWalk

/-- Offering the names of an element is registering them, with the errors behind the others; by
induction on the names.
-/
theorem foldl_offer (element : Element) (walk : NameWalk) (names : List String)
    : names.foldl (offer element) walk
      = { registry := (walk.registry.register element names).1
          errors := walk.errors ++ (walk.registry.register element names).2 } := by
  induction names generalizing walk with
  | nil => simp [TypeRegistry.register]
  | cons name rest ih =>
      rw [List.foldl_cons, ih, offer, TypeRegistry.register]
      rcases walk.registry.tryInsert name with ⟨next, _ | existing⟩
      · rfl
      · simp only [List.append_assoc, List.singleton_append]

/-- Offering the names of members is registering them, with the errors behind the others; by
induction on the members.
-/
theorem offerMembers_eq (service : Service) (options : Options) (walk : NameWalk) (index : Nat)
    (members : List Member)
    : walk.offerMembers service options index members
      = (walk.registry.registerMembers service options index members).behind walk.errors := by
  induction members generalizing walk index with
  | nil => simp [offerMembers, TypeRegistry.registerMembers, CollisionReport.behind]
  | cons member rest ih =>
      rw [offerMembers, TypeRegistry.registerMembers]
      cases member.element? with
      | none => simp [CollisionReport.behind]
      | some element =>
          cases member.typeNames? options with
          | none => simp [CollisionReport.behind]
          | some names => simp only [foldl_offer, ih, CollisionReport.behind, List.append_assoc]

end NameWalk

/-- Registering the types of a service gives the same names as on its own and adds the same errors,
whatever the list held.
-/
theorem Service.collisionsAfter_eq (service : Service) (options : Options)
    (errors : List ValidationError)
    : service.collisionsAfter options errors = (service.collisions options).behind errors :=
  NameWalk.offerMembers_eq service options _ 0 service.members

end SchemaNames
