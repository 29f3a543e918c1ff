import SchemaNames.Proofs.Document.EntryOrder
import SchemaNames.Proofs.Document.WrittenText
import SchemaNames.Proofs.Loading.EncodedSchema
import SchemaNames.Proofs.Naming.EffectiveNames

/-! The text of an outcome. It parses to one document in both styles, and that document tells the
whole outcome, whatever the order of its entries.
-/

namespace SchemaNames

-----------------------------------------------------------------------------------------
-- What a document tells
-----------------------------------------------------------------------------------------

/-- The document of a place tells the place. -/
theorem Position.eq_of_alike {a b : Position} (alike : a.toDocument.Alike b.toDocument)
    : a = b := by
  have values (position : Position)
      : position.toDocument.value? "name" = position.name.map .text
        ∧ position.toDocument.value? "line" = some (.natural position.line.toNat)
        ∧ position.toDocument.value? "column" = some (.natural position.column.toNat) := by
    obtain ⟨name, line, column⟩ := position
    cases name <;> exact ⟨rfl, rfl, rfl⟩
  obtain ⟨nameA, lineA, columnA⟩ := values a
  obtain ⟨nameB, lineB, columnB⟩ := values b
  have sameName := alike.eq_of_optionalText "name" nameA nameB
  have sameLine := UInt64.toNat_inj.mp (alike.value "line" lineA lineB).eq_of_natural
  have sameColumn := UInt64.toNat_inj.mp (alike.value "column" columnA columnB).eq_of_natural
  cases a
  cases b
  rw [Position.mk.injEq]
  exact ⟨sameName, sameLine, sameColumn⟩

/-- No two kinds of errors have one word. -/
theorem ValidationError.Kind.tag_injective {a b : Kind} (same : a.tag = b.tag) : a = b := by
  revert same
  cases a <;> cases b <;> decide

/-- The document of an error tells the error. -/
theorem ValidationError.eq_of_alike {a b : ValidationError}
    (alike : a.toDocument.Alike b.toDocument)
    : a = b := by
  have sameKind := Kind.tag_injective (alike.value "kind" rfl rfl).eq_of_text
  have sameMessage := (alike.value "message" rfl rfl).eq_of_text
  have samePosition := Position.eq_of_alike (alike.value "position" rfl rfl)
  cases a
  cases b
  rw [ValidationError.mk.injEq]
  exact ⟨sameKind, sameMessage, samePosition⟩

/-- No two groups of fields have one word. -/
theorem FieldGroup.tag_injective {a b : FieldGroup} (same : a.tag = b.tag) : a = b := by
  revert same
  cases a <;> cases b <;> decide

/-- The document of an identity tells the identity in all its parts. -/
theorem FieldId.eq_of_alike {a b : FieldId} (alike : a.toDocument.Alike b.toDocument)
    : a = b := by
  have sameMember := (alike.value "member" rfl rfl).eq_of_natural
  have sameGroup := FieldGroup.tag_injective (alike.value "group" rfl rfl).eq_of_text
  have sameIndex := (alike.value "index" rfl rfl).eq_of_natural
  have sameOwner := (alike.value "owner" rfl rfl).eq_of_text
  have sameField := (alike.value "field" rfl rfl).eq_of_text
  cases a
  cases b
  rw [FieldId.mk.injEq]
  exact ⟨sameMember, sameGroup, sameIndex, sameOwner, sameField⟩

/-- The document of property names tells each name with its field, in their order. -/
theorem PropertyNames.eq_of_alike {a b : PropertyNames}
    (alike : a.toDocument.Alike b.toDocument)
    : a = b := by
  have sameEntries : a.entries = b.entries := by
    refine Document.Alike.eq_of_list ?_ alike
    rintro ⟨idA, nameA⟩ ⟨idB, nameB⟩ alikeEntries
    have sameId := FieldId.eq_of_alike (alikeEntries.value "field" rfl rfl)
    have sameName := (alikeEntries.value "name" rfl rfl).eq_of_text
    rw [sameId, sameName]
  cases a
  cases b
  rw [PropertyNames.mk.injEq]
  exact sameEntries

/-- The document of names tells the names, and also whether the namespace is overridden. -/
theorem NamingInfo.eq_of_alike {a b : NamingInfo} (alike : a.toDocument.Alike b.toDocument)
    : a = b := by
  have values (info : NamingInfo)
      : info.toDocument.value? "language" = some (.text info.language)
        ∧ info.toDocument.value? "namespace" = some (.text info.effectiveNamespace)
        ∧ info.toDocument.value? "namespaceOverride" = info.namespaceOverride.map .text
        ∧ info.toDocument.value? "propertyNames" = some info.propertyNames.toDocument
        ∧ info.toDocument.value? "typeNames" = some (.list (info.typeNames.map .text)) := by
    obtain ⟨language, effective, override, properties, types⟩ := info
    cases override <;> exact ⟨rfl, rfl, rfl, rfl, rfl⟩
  obtain ⟨languageA, namespaceA, overrideA, propertiesA, typesA⟩ := values a
  obtain ⟨languageB, namespaceB, overrideB, propertiesB, typesB⟩ := values b
  have sameLanguage := (alike.value "language" languageA languageB).eq_of_text
  have sameNamespace := (alike.value "namespace" namespaceA namespaceB).eq_of_text
  have sameOverride := alike.eq_of_optionalText "namespaceOverride" overrideA overrideB
  have sameProperties :=
    PropertyNames.eq_of_alike (alike.value "propertyNames" propertiesA propertiesB)
  have sameTypes :=
    Document.Alike.eq_of_list (fun _ _ => Document.Alike.eq_of_text)
      (alike.value "typeNames" typesA typesB)
  cases a
  cases b
  rw [NamingInfo.mk.injEq]
  exact ⟨sameLanguage, sameNamespace, sameOverride, sameProperties, sameTypes⟩

/-- The document of an outcome tells the outcome. -/
theorem NamingOutcome.eq_of_alike {a b : NamingOutcome}
    (alike : a.toDocument.Alike b.toDocument)
    : a = b := by
  have sameInfo := NamingInfo.eq_of_alike (alike.value "info" rfl rfl)
  have sameErrors :=
    Document.Alike.eq_of_list (fun _ _ => ValidationError.eq_of_alike)
      (alike.value "errors" rfl rfl)
  cases a
  cases b
  rw [NamingOutcome.mk.injEq]
  exact ⟨sameInfo, sameErrors⟩

-----------------------------------------------------------------------------------------
-- Documents that are kept exactly
-----------------------------------------------------------------------------------------

/-- Holds of an identity whose numbers have 64 bits. -/
structure FieldId.Is64Bit (id : FieldId) : Prop where
  member : id.member < UInt64.size
  index : id.index < UInt64.size

/-- The document of an identity has one bracket around its parts. -/
theorem FieldId.Is64Bit.within {id : FieldId} (bits : id.Is64Bit) (room : Nat)
    : id.toDocument.Within (room + 1) := by
  have natural {n : Nat} (bound : n < UInt64.size) : (Scalar.integer n).Exact :=
    ⟨by omega, Int.ofNat_lt.mpr bound⟩
  simp [toDocument, Document.natural, natural bits.member, natural bits.index]

/-- The document of property names has three brackets around the parts of an identity. -/
theorem PropertyNames.within {names : PropertyNames}
    (bits : ∀ entry ∈ names.entries, entry.1.Is64Bit) (room : Nat)
    : names.toDocument.Within (room + 3) := by
  refine .list fun document listed => ?_
  obtain ⟨⟨id, name⟩, stands, rfl⟩ := List.mem_map.mp listed
  simpa using (bits _ stands).within room

/-- The document of names has four brackets around the parts of an identity. -/
theorem NamingInfo.within {info : NamingInfo}
    (bits : ∀ entry ∈ info.propertyNames.entries, entry.1.Is64Bit) (room : Nat)
    : info.toDocument.Within (room + 4) := by
  have properties := PropertyNames.within bits room
  cases override : info.namespaceOverride <;> simp [toDocument, override, properties]

/-- The document of an error has two brackets around the parts of its place. -/
theorem ValidationError.within (error : ValidationError) (room : Nat)
    : error.toDocument.Within (room + 2) := by
  simpa [toDocument] using (error.position.encodes room).within

/-- The document of an outcome has five brackets around the parts of an identity. -/
theorem NamingOutcome.within {outcome : NamingOutcome}
    (bits : ∀ entry ∈ outcome.info.propertyNames.entries, entry.1.Is64Bit) (room : Nat)
    : outcome.toDocument.Within (room + 5) := by
  have errors : ∀ error ∈ outcome.errors, error.toDocument.Within (room + 3) :=
    fun error _ => error.within (room + 1)
  simpa [toDocument, NamingInfo.within bits room] using errors

-----------------------------------------------------------------------------------------
-- Outcomes of services
-----------------------------------------------------------------------------------------

/-- Holds of a service whose fields stand at indices of 64 bits, as no list in memory has more
items than such a number counts.
-/
def Service.Addressable (service : Service) : Prop :=
  ∀ ref ∈ service.fields, ref.id.Is64Bit

/-- Holds of the outcome of a service. -/
def NamingOutcome.Produced (outcome : NamingOutcome) : Prop :=
  ∃ (service : Service) (options : Options),
    service.Addressable ∧ service.tryResolve options = .ok outcome

namespace NamingOutcome

variable {outcome other : NamingOutcome}

/-- The identities of an outcome are those of fields of its service. -/
theorem Produced.is64Bit (produced : outcome.Produced)
    : ∀ entry ∈ outcome.info.propertyNames.entries, entry.1.Is64Bit := by
  obtain ⟨service, options, addressable, lenient⟩ := produced
  rw [Service.tryResolve_of_recognized (Service.recognized_of_tryResolve lenient)] at lenient
  cases lenient
  intro entry listed
  rw [service.entries_propertyNames] at listed
  obtain ⟨ref, ofService, given⟩ := List.mem_filterMap.mp listed
  obtain ⟨name, _, rfl⟩ := Option.map_eq_some_iff.mp given
  exact addressable ref ofService

/-- The text of the outcome of a service parses to its document, in either style. -/
theorem Produced.parse_toText (produced : outcome.Produced) (pretty : Bool)
    : Document.parse (outcome.toText pretty) = .ok outcome.toDocument := by
  have within : outcome.toDocument.Within depthLimit := outcome.within produced.is64Bit 122
  cases pretty with
  | false => exact Document.parse_write Style.blank_compact within
  | true => exact Document.parse_write Style.blank_indented within

/-- The text of an outcome is faithful. In both styles it parses to the document of the outcome,
and two outcomes are the same if their texts, in whichever styles, parse to documents that are
alike but for the order of entries. Witness: the document tells each part of an outcome.
-/
theorem toText_faithful (produced : outcome.Produced) (otherProduced : other.Produced)
    : (∀ pretty, Document.parse (outcome.toText pretty) = .ok outcome.toDocument)
      ∧ ∀ pretty otherPretty document otherDocument,
          Document.parse (outcome.toText pretty) = .ok document
          → Document.parse (other.toText otherPretty) = .ok otherDocument
          → document.Alike otherDocument
          → outcome = other := by
  refine ⟨produced.parse_toText, ?_⟩
  intro pretty otherPretty document otherDocument parsed otherParsed alike
  rw [produced.parse_toText] at parsed
  rw [otherProduced.parse_toText] at otherParsed
  rw [← Except.ok.inj parsed, ← Except.ok.inj otherParsed] at alike
  exact eq_of_alike alike

/-- Two services have the same namespace, which only one of them overrides. The text of an outcome
parses to the same document in both styles, although a name in it has characters that are escaped,
but no text of one outcome parses to the document of the other.
-/
theorem toText_faithful_sameNamespace
    : let tagged (key value : String) : Attribute :=
        { name := "csharp", parameters := [{ name := key, value }] }
      let record : Member :=
        .dataObject
          { name := "item"
            fields := [{ name := "id", attributes := [tagged "name" "\"Key\"\n\t\\ ☃"] }] }
      let enumeration : Member :=
        .enumeration
          { name := "ITEM", position := { name := some "api.fsd", line := 7, column := 3 } }
      let plain : Service := { name := "api", members := [record, enumeration] }
      let overridden : Service := { plain with attributes := [tagged "namespace" "Api"] }
      ∃ outcome other,
        plain.tryResolve {} = .ok outcome
        ∧ overridden.tryResolve {} = .ok other
        ∧ outcome.info.effectiveNamespace = other.info.effectiveNamespace
        ∧ Document.parse (outcome.toText false) = .ok outcome.toDocument
        ∧ Document.parse (outcome.toText true) = .ok outcome.toDocument
        ∧ ∀ pretty otherPretty,
            Document.parse (outcome.toText pretty) ≠ Document.parse (other.toText otherPretty) := by
  intro tagged record enumeration plain overridden
  have recognized : Member.unrecognized ∉ plain.members := by decide
  have lenient := Service.tryResolve_of_recognized recognized {}
  have otherRecognized : Member.unrecognized ∉ overridden.members := recognized
  have otherLenient := Service.tryResolve_of_recognized otherRecognized {}
  have addressable : plain.Addressable := by
    intro ref listed
    obtain rfl := List.mem_singleton.mp listed
    exact ⟨by decide, by decide⟩
  obtain ⟨parsed, told⟩ :=
    toText_faithful ⟨plain, {}, addressable, lenient⟩ ⟨overridden, {}, addressable, otherLenient⟩
  refine ⟨_, _, lenient, otherLenient, by decide +kernel, parsed false, parsed true, ?_⟩
  intro pretty otherPretty same
  have equal :=
    told pretty otherPretty _ _ (parsed pretty) (same.symm.trans (parsed pretty)) (.refl _)
  have sameOverride := congrArg (·.info.namespaceOverride) equal
  revert sameOverride
  decide +kernel

end NamingOutcome

end SchemaNames
