import SchemaNames.Proofs.Naming.EffectiveNames
import SchemaNames.Proofs.Text.CaseTables

/-! Schemas under other names. Where every new name is capitalized to what the old one was, the code
has the same names and the same is reported at the same places; only the messages tell other names.
-/

namespace SchemaNames

-----------------------------------------------------------------------------------------
-- New names
-----------------------------------------------------------------------------------------

/-- The field under a new name. -/
def Field.renamed (rename : String → String) (field : Field) : Field :=
  { field with name := rename field.name }

/-- The member and its fields under new names; values and errors keep theirs. -/
def Member.renamed (rename : String → String) : Member → Member
  | .method m =>
      .method
        { m with
          name := rename m.name
          requestFields := m.requestFields.map (Field.renamed rename)
          responseFields := m.responseFields.map (Field.renamed rename) }
  | .dataObject d =>
      .dataObject
        { d with
          name := rename d.name
          fields := d.fields.map (Field.renamed rename) }
  | .enumeration e => .enumeration { e with name := rename e.name }
  | .errorSet s => .errorSet { s with name := rename s.name }
  | .unrecognized => .unrecognized

/-- The service, its members and their fields under new names. -/
def Service.renamed (service : Service) (rename : String → String) : Service :=
  { service with
    name := rename service.name
    members := service.members.map (Member.renamed rename) }

/-- The element under a new name. -/
def Element.renamed (rename : String → String) (element : Element) : Element :=
  { element with name := rename element.name }

/-- The reference to the field under a new name; its owner has a new name too. -/
def FieldRef.renamed (rename : String → String) (ref : FieldRef) : FieldRef :=
  { id := { ref.id with owner := rename ref.id.owner, field := rename ref.id.field }
    field := ref.field.renamed rename }

/-- The same type name for the element under a new name. -/
def Candidate.renamed (rename : String → String) (candidate : Candidate) : Candidate :=
  { candidate with element := candidate.element.renamed rename }

/-- Where a field stands, whatever the names on the way to it are. -/
def FieldId.place (id : FieldId) : Nat × FieldGroup × Nat :=
  (id.member, id.group, id.index)

/-- What an error is and where it is, whatever its message tells. -/
def ValidationError.site (error : ValidationError) : ValidationError.Kind × Position :=
  (error.kind, error.position)

-----------------------------------------------------------------------------------------
-- Attributes under new names
-----------------------------------------------------------------------------------------

/-- A new name of an element only shows in the messages about its attributes, by cases on what is
reported.
-/
theorem Element.map_site_decode_renamed (rename : String → String) (element : Element)
    (tag : String)
    : ((element.renamed rename).decode tag).errors.map ValidationError.site
      = (element.decode tag).errors.map ValidationError.site := by
  have parameters (attr : Attribute)
      : ((element.renamed rename).decodeParameters attr).errors.map ValidationError.site
        = (element.decodeParameters attr).errors.map ValidationError.site := by
    simp only [decodeParameters, List.map_map]
    rfl
  have first (attr : Attribute)
      : ((element.renamed rename).decodeFirst attr).errors.map ValidationError.site
        = (element.decodeFirst attr).errors.map ValidationError.site := by
    have kind : (element.renamed rename).kind = element.kind := rfl
    rw [decodeFirst, decodeFirst, kind]
    split
    · exact parameters attr
    · rfl
  have tagged : (element.renamed rename).attributesTagged tag = element.attributesTagged tag := rfl
  rw [decode, decode, tagged]
  split
  · rfl
  case h_2 only _ => exact first only
  case h_3 front second _ _ =>
    rw [List.map_append, List.map_append, first front]
    rfl

/-- The fields of one list stand where they stood. -/
theorem fieldRefs_renamed (rename : String → String) (member : Nat) (group : FieldGroup)
    (owner : String) (fields : List Field)
    : fieldRefs member group (rename owner) (fields.map (Field.renamed rename))
      = (fieldRefs member group owner fields).map (FieldRef.renamed rename) := by
  rw [fieldRefs, fieldRefs, mapIdx_map, map_mapIdx]
  rfl

namespace Member

variable (rename : String → String) (member : Member)

/-- The fields of a member stand where they stood, by cases on its kind. -/
theorem fields_renamed (index : Nat)
    : (member.renamed rename).fields index
      = (member.fields index).map (FieldRef.renamed rename) := by
  cases member with
  | method m => simp only [renamed, fields, fieldRefs_renamed, List.map_append]
  | dataObject d => exact fieldRefs_renamed rename index .dataObject d.name d.fields
  | enumeration _ | errorSet _ | unrecognized => rfl

theorem cases_renamed : (member.renamed rename).cases = member.cases := by
  cases member <;> rfl

theorem element?_renamed
    : (member.renamed rename).element? = member.element?.map (Element.renamed rename) := by
  cases member <;> rfl

theorem renamed_eq_unrecognized_iff
    : member.renamed rename = .unrecognized ↔ member = .unrecognized := by
  cases member <;> simp [renamed]

/-- The same is reported at the same places about the attributes of a member: about itself, then
about each of its fields, then about each of its values or errors.
-/
theorem map_site_attributeErrors_renamed (tag : String) (index : Nat)
    : ((member.renamed rename).attributeErrors tag index).map ValidationError.site
      = (member.attributeErrors tag index).map ValidationError.site := by
  have field (ref : FieldRef)
      : ((ref.renamed rename).report tag).errors.map ValidationError.site
        = (ref.report tag).errors.map ValidationError.site :=
    ref.field.element.map_site_decode_renamed rename tag
  rw [attributeErrors, attributeErrors, element?_renamed]
  cases member.element? with
  | none => rfl
  | some element =>
      simp only [Option.map_some, fields_renamed, cases_renamed, List.map_append,
        List.map_flatMap, List.flatMap_map, element.map_site_decode_renamed rename tag, field]

end Member

-----------------------------------------------------------------------------------------
-- Candidates under new names
-----------------------------------------------------------------------------------------

/-- Collecting from mapped items is collecting from the items and mapping each before it is looked
at, by induction on the items.
-/
theorem collectAfter_map {α β γ : Type} (f : List β → β → Option γ) (g : α → β)
    (earlier rest : List α)
    : collectAfter f (earlier.map g) (rest.map g)
      = collectAfter (fun earlier item => f (earlier.map g) (g item)) earlier rest := by
  induction rest generalizing earlier with
  | nil => rfl
  | cons item rest ih =>
      rw [List.map_cons, collectAfter_cons, collectAfter_cons, ← ih, List.map_append,
        List.map_singleton]

/-- Mapping what was collected is collecting what is mapped. -/
theorem map_collectAfter {α γ δ : Type} (f : List α → α → Option γ) (g : γ → δ)
    (earlier rest : List α)
    : (collectAfter f earlier rest).map g
      = collectAfter (fun earlier item => (f earlier item).map g) earlier rest :=
  List.map_filterMap

namespace Candidate

variable (rename : String → String) (earlier : List Candidate) (candidate : Candidate)

/-- New names of elements leave type names as they are, and so the candidate that has a name. -/
theorem taker?_renamed
    : (candidate.renamed rename).taker? (earlier.map (Candidate.renamed rename))
      = (candidate.taker? earlier).map (Candidate.renamed rename) := by
  rw [taker?, List.find?_map]
  rfl

theorem kept?_renamed
    : (candidate.renamed rename).kept? (earlier.map (Candidate.renamed rename))
      = candidate.kept? earlier := by
  rw [kept?, taker?_renamed, Option.isNone_map]
  rfl

theorem map_site_collision?_renamed
    : ((candidate.renamed rename).collision? (earlier.map (Candidate.renamed rename))).map
        ValidationError.site
      = (candidate.collision? earlier).map ValidationError.site := by
  rw [collision?, taker?_renamed, collision?, Option.map_map, Option.map_map, Option.map_map]
  rfl

end Candidate

section

variable (rename : String → String) (candidates : List Candidate)

theorem keptNames_renamed
    : keptNames (candidates.map (Candidate.renamed rename)) = keptNames candidates := by
  have mapped := collectAfter_map Candidate.kept? (Candidate.renamed rename) [] candidates
  simp only [Candidate.kept?_renamed] at mapped
  exact mapped

theorem map_site_collisionErrors_renamed
    : (collisionErrors (candidates.map (Candidate.renamed rename))).map ValidationError.site
      = (collisionErrors candidates).map ValidationError.site := by
  have mapped := collectAfter_map Candidate.collision? (Candidate.renamed rename) [] candidates
  rw [List.map_nil] at mapped
  rw [collisionErrors, collisionErrors, mapped, map_collectAfter, map_collectAfter]
  simp only [Candidate.map_site_collision?_renamed]

end

-----------------------------------------------------------------------------------------
-- Services under new names
-----------------------------------------------------------------------------------------

section

variable {rename : String → String}

/-- A member generates the same type names if its new name is capitalized to what its old one was,
by cases on its kind.
-/
theorem Member.candidates_renamed
    (keeps : ∀ text, Text.capitalize (rename text) = Text.capitalize text) (member : Member)
    (options : Options)
    : (member.renamed rename).candidates options
      = (member.candidates options).map (Candidate.renamed rename) := by
  cases member with
  | method _ | dataObject _ | enumeration _ | errorSet _ =>
      simp only [renamed, candidates, keeps]
      rfl
  | unrecognized => rfl

/-- (outcome.SameCode other service twin) says that the outcomes of two services have the same names
for the code, where fields go by their places, and errors of the same kinds at the same places.
-/
structure NamingOutcome.SameCode (outcome other : NamingOutcome) (service twin : Service)
    : Prop where
  effectiveNamespace : outcome.info.effectiveNamespace = other.info.effectiveNamespace
  namespaceOverride : outcome.info.namespaceOverride = other.info.namespaceOverride
  typeNames : outcome.info.typeNames = other.info.typeNames
  propertyNames
    : (service.fields.map fun ref => (ref.id.place, outcome.info.propertyName ref))
      = twin.fields.map fun ref => (ref.id.place, other.info.propertyName ref)
  sites : outcome.errors.map ValidationError.site = other.errors.map ValidationError.site

namespace Service

theorem fields_renamed (service : Service)
    : (service.renamed rename).fields = service.fields.map (FieldRef.renamed rename) := by
  simp only [fields, renamed, mapIdx_map, List.map_flatten, map_mapIdx, Member.fields_renamed]

theorem candidates_renamed
    (keeps : ∀ text, Text.capitalize (rename text) = Text.capitalize text) (service : Service)
    (options : Options)
    : (service.renamed rename).candidates options
      = (service.candidates options).map (Candidate.renamed rename) := by
  simp only [candidates, renamed, keeps, List.flatMap_map, Member.candidates_renamed keeps,
    List.map_cons, List.map_flatMap]
  rfl

/-- The same is reported at the same places about attributes. -/
theorem map_site_attributeErrors_renamed (service : Service) (tag : String)
    : ((service.renamed rename).attributeErrors tag).map ValidationError.site
      = (service.attributeErrors tag).map ValidationError.site := by
  have root
      : ((service.renamed rename).element.decode tag).errors.map ValidationError.site
        = (service.element.decode tag).errors.map ValidationError.site :=
    service.element.map_site_decode_renamed rename tag
  rw [attributeErrors, attributeErrors, List.map_append, List.map_append, root]
  simp only [renamed, mapIdx_map, List.map_flatten, map_mapIdx,
    Member.map_site_attributeErrors_renamed]

/-- The first member that is not recognized stands where it stood. -/
theorem idxOf_unrecognized_renamed (service : Service)
    : (service.renamed rename).members.idxOf .unrecognized
      = service.members.idxOf .unrecognized := by
  have unrecognized (member : Member)
      : (member.renamed rename == .unrecognized) = (member == .unrecognized) := by
    rw [Bool.eq_iff_iff, beq_iff_eq, beq_iff_eq, Member.renamed_eq_unrecognized_iff]
  simp only [renamed, List.idxOf, List.findIdx_map, Function.comp_def, unrecognized]

theorem unrecognized_mem_renamed_iff (service : Service)
    : Member.unrecognized ∈ (service.renamed rename).members
      ↔ Member.unrecognized ∈ service.members := by
  simp only [renamed, List.mem_map, Member.renamed_eq_unrecognized_iff, exists_eq_right]

/-- Fields have the same property names at the same places, whether they are overridden or not. -/
theorem map_propertyName_renamed
    (keeps : ∀ text, Text.capitalize (rename text) = Text.capitalize text) {service : Service}
    {options : Options} {outcome other : NamingOutcome}
    (lenient : service.tryResolve options = .ok outcome)
    (lenientRenamed : (service.renamed rename).tryResolve options = .ok other)
    : (service.fields.map fun ref => (ref.id.place, outcome.info.propertyName ref))
      = (service.renamed rename).fields.map fun ref =>
          (ref.id.place, other.info.propertyName ref) := by
  rw [fields_renamed, List.map_map]
  apply List.map_congr_left
  intro ref listed
  have listedRenamed : ref.renamed rename ∈ (service.renamed rename).fields :=
    service.fields_renamed ▸ List.mem_map_of_mem listed
  rw [Function.comp_apply, propertyName_of_mem lenient listed,
    propertyName_of_mem lenientRenamed listedRenamed]
  simp only [defaultPropertyName, FieldRef.renamed, Field.renamed, keeps]
  rfl

/-- New names that are capitalized to what the old ones were give the same code. -/
theorem exists_sameCode_renamed
    (keeps : ∀ text, Text.capitalize (rename text) = Text.capitalize text) {service : Service}
    (recognized : Member.unrecognized ∉ service.members) (options : Options)
    : ∃ outcome other,
        service.tryResolve options = .ok outcome
        ∧ (service.renamed rename).tryResolve options = .ok other
        ∧ outcome.SameCode other service (service.renamed rename) := by
  have recognizedRenamed : Member.unrecognized ∉ (service.renamed rename).members :=
    mt service.unrecognized_mem_renamed_iff.mp recognized
  have lenient := tryResolve_of_recognized recognized options
  have lenientRenamed := tryResolve_of_recognized recognizedRenamed options
  have namespaces
      : (service.overrides options.language).serviceNamespace
        = ((service.renamed rename).overrides options.language).serviceNamespace := by
    rw [serviceNamespace_overrides, serviceNamespace_overrides]
    rfl
  have root : service.defaultNamespace = (service.renamed rename).defaultNamespace :=
    (keeps service.name).symm
  refine ⟨_, _, lenient, lenientRenamed, ?_⟩
  exact
    { effectiveNamespace := by simp only [namespaces, root]
      namespaceOverride := namespaces
      typeNames := by simp only [candidates_renamed keeps, keptNames_renamed]
      propertyNames := map_propertyName_renamed keeps lenient lenientRenamed
      sites := by
        simp only [List.map_append, map_site_attributeErrors_renamed, candidates_renamed keeps,
          map_site_collisionErrors_renamed] }

/-- Naming fails at an index exactly if the first member that is not recognized stands there. -/
theorem fails_at_iff {service : Service} {options : Options} {index : Nat}
    : (∃ name, service.tryResolve options = .error (.unrecognizedMember name index))
      ↔ Member.unrecognized ∈ service.members
        ∧ service.members.idxOf .unrecognized = index := by
  constructor
  · rintro ⟨name, failed⟩
    obtain ⟨unrecognized, failure⟩ := unrecognized_of_tryResolve failed
    injection failure with _ stands
    exact ⟨unrecognized, stands.symm⟩
  · rintro ⟨unrecognized, rfl⟩
    exact ⟨_, tryResolve_of_unrecognized unrecognized options⟩

/-- A schema whose names are already capitalized gives the same code. Capitalizing the names of a
service, of its members and of their fields leaves the member at which naming fails, and without
such a member the namespace, the type names, the property names by the places of fields, and the
kinds and places of errors. Witness: a capitalized name is capitalized to itself, also if the first
character has an upper case of several characters.
-/
theorem tryResolve_capitalized (service : Service) (options : Options)
    : let capitalized := service.renamed Text.capitalize
      (∀ text, Text.capitalize (Text.capitalize text) = Text.capitalize text)
      ∧ (∀ index,
          (∃ name, capitalized.tryResolve options = .error (.unrecognizedMember name index))
          ↔ ∃ name, service.tryResolve options = .error (.unrecognizedMember name index))
      ∧ ((∀ name index,
            service.tryResolve options ≠ .error (.unrecognizedMember name index))
        → ∃ outcome other,
            service.tryResolve options = .ok outcome
            ∧ capitalized.tryResolve options = .ok other
            ∧ outcome.SameCode other service capitalized) := by
  intro capitalized
  refine ⟨Text.capitalize_capitalize, fun index => ?_, fun lenient => ?_⟩
  · rw [fails_at_iff, fails_at_iff, unrecognized_mem_renamed_iff, idxOf_unrecognized_renamed]
  · apply exists_sameCode_renamed Text.capitalize_capitalize
    intro unrecognized
    exact lenient _ _ (tryResolve_of_unrecognized unrecognized options)

/-- Names that begin with a sharp s, a ligature, a digraph and an n with an apostrophe get other
names when they are capitalized, and the code is the same, with a collision at the same place.
-/
theorem tryResolve_capitalized_longUpperCase
    : let tagged : Attribute := { name := "csharp", position := { line := 2 } }
      let service : Service :=
        { name := "ßapi"
          members :=
            [.dataObject
                { name := "ﬁle"
                  attributes := [tagged]
                  fields := [{ name := "ǆ" }, { name := "ŉame" }] },
              .errorSet { name := "fIle", position := { line := 7 } }] }
      let capitalized := service.renamed Text.capitalize
      capitalized.fields.map (·.id.path) = ["FIle.Ǆ", "FIle.ʼName"]
      ∧ ∃ outcome other,
          service.tryResolve {} = .ok outcome
          ∧ capitalized.tryResolve {} = .ok other
          ∧ outcome.SameCode other service capitalized
          ∧ other.info.typeNames = ["SSapi", "FIle"]
          ∧ other.errors.map ValidationError.site
            = [(.unexpectedAttribute, { line := 2 }), (.duplicateGeneratedType, { line := 7 })]
          ∧ outcome.errors ≠ other.errors := by
  intro tagged service capitalized
  have recognized : Member.unrecognized ∉ service.members := by decide
  have recognizedCapitalized : Member.unrecognized ∉ capitalized.members := by decide +kernel
  obtain ⟨outcome, other, lenient, lenientCapitalized, same⟩ :=
    (tryResolve_capitalized service {}).2.2 fun name index failed =>
      recognized (unrecognized_of_tryResolve failed).1
  refine ⟨by decide +kernel, outcome, other, lenient, lenientCapitalized, same, ?_⟩
  rw [tryResolve_of_recognized recognized] at lenient
  rw [tryResolve_of_recognized recognizedCapitalized] at lenientCapitalized
  cases lenient
  cases lenientCapitalized
  exact ⟨by decide +kernel, by decide +kernel, by decide +kernel⟩

end Service

end

end SchemaNames
