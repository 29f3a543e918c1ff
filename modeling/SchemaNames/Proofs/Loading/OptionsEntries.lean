import SchemaNames.Proofs.Loading.RecordFields
import SchemaNames.Proofs.Loading.StrictLoading

/-! Settings from a record. Each of the known keys stands at most once, and then with a text; what
it does not give has its default, and nothing else in the record matters.
-/

namespace SchemaNames

open Document (valuesOf)

/-- (GivesText fallback documents content) says that what stands under a key gives a content: one
text, or nothing where the content is the fallback.
-/
def GivesText (fallback : String) (documents : List Document) (content : String) : Prop :=
  documents = [.text content] ∨ documents = [] ∧ content = fallback

namespace GivesText

variable {fallback content : String} {documents : List Document}

/-- Some content is given exactly by at most one document, which is a text. -/
theorem exists_iff
    : (∃ content, GivesText fallback documents content)
      ↔ documents.length ≤ 1 ∧ ∀ document ∈ documents, ∃ content, document = .text content := by
  constructor
  · intro someContent
    obtain ⟨content, given⟩ := someContent
    rcases given with rfl | ⟨rfl, -⟩ <;> simp
  · intro onlyTexts
    obtain ⟨atMostOne, texts⟩ := onlyTexts
    match documents with
    | [] => exact ⟨fallback, .inr ⟨rfl, rfl⟩⟩
    | [document] =>
        obtain ⟨content, rfl⟩ := texts document List.mem_cons_self
        exact ⟨content, .inl rfl⟩
    | _ :: _ :: _ => simp at atMostOne

/-- The order of what stands under a key makes no difference. -/
theorem of_perm {others : List Document} (given : GivesText fallback documents content)
    (same : others.Perm documents)
    : GivesText fallback others content := by
  rcases given with rfl | ⟨rfl, isFallback⟩
  · exact .inl same.eq_singleton
  · exact .inr ⟨same.eq_nil, isFallback⟩

/-- A field for a text is given its content by the one text under its key or by its fallback. -/
theorem iff_represents
    : ((∃ document, documents = [document] ∧ Represents .text document content)
        ∨ documents = [] ∧ some fallback = some content)
      ↔ GivesText fallback documents content := by
  constructor
  · intro represented
    rcases represented with ⟨_, found, ⟨⟩⟩ | ⟨found, isFallback⟩
    · exact .inl found
    · exact .inr ⟨found, (Option.some.inj isFallback).symm⟩
  · intro given
    rcases given with found | ⟨found, rfl⟩
    · exact .inl ⟨_, found, .text content⟩
    · exact .inr ⟨found, rfl⟩

end GivesText

namespace Options

/-- The keys of the settings. -/
def keys : List String :=
  ["language", "requestSuffix", "responseSuffix"]

/-- Holds of entries that give all three settings, where a missing one has its default. -/
structure Given (entries : List (String × Document)) (options : Options) : Prop where
  language
    : GivesText ({} : Options).language (valuesOf "language" entries) options.language
  requestSuffix
    : GivesText ({} : Options).requestSuffix (valuesOf "requestSuffix" entries)
        options.requestSuffix
  responseSuffix
    : GivesText ({} : Options).responseSuffix (valuesOf "responseSuffix" entries)
        options.responseSuffix

variable {entries : List (String × Document)} {options : Options}

/-- Settings are given field by field exactly if each of them is given its text, by cases on the
field.
-/
theorem exists_gives_iff {documents : Fin RecordKind.options.arity → List Document}
    : (∃ values,
        options = RecordKind.options.build values
        ∧ ∀ i, RecordKind.options.Gives i (documents i) (values i))
      ↔ GivesText ({} : Options).language (documents ⟨0, by decide⟩) options.language
        ∧ GivesText ({} : Options).requestSuffix (documents ⟨1, by decide⟩) options.requestSuffix
        ∧ GivesText ({} : Options).responseSuffix (documents ⟨2, by decide⟩)
            options.responseSuffix := by
  constructor
  · intro fieldwise
    obtain ⟨values, rfl, each⟩ := fieldwise
    exact ⟨GivesText.iff_represents.mp (each ⟨0, by decide⟩),
      GivesText.iff_represents.mp (each ⟨1, by decide⟩),
      GivesText.iff_represents.mp (each ⟨2, by decide⟩)⟩
  · intro given
    obtain ⟨language, request, response⟩ := given
    refine ⟨RecordKind.options.parts options, (RecordKind.options.build_parts options).symm, ?_⟩
    intro i
    match i with
    | ⟨0, _⟩ => exact GivesText.iff_represents.mpr language
    | ⟨1, _⟩ => exact GivesText.iff_represents.mpr request
    | ⟨2, _⟩ => exact GivesText.iff_represents.mpr response

/-- A record represents the settings that its entries give. -/
theorem represents_iff_given
    : Represents (.record .options) (.record entries) options ↔ Given entries options := by
  rw [Represents.record_iff, exists_gives_iff]
  constructor
  · intro given
    obtain ⟨language, request, response⟩ := given
    exact ⟨language, request, response⟩
  · intro given
    exact ⟨given.language, given.requestSuffix, given.responseSuffix⟩

/-- A document that represents a text is not too deep, as it has no brackets. -/
theorem within_of_represents_text (room : Nat) {document : Document} {content : String}
    (represents : Represents .text document content)
    : document.Within room := by
  cases represents
  exact .text content

/-- Settings are read from a record that represents them however deep the values of unknown keys
are.
-/
theorem load_of_represents (represents : Represents (.record .options) (.record entries) options)
    : Options.load (Document.record entries).compact = .ok options := by
  have read : (Node.ofDocument (.record entries)).read (.record .options) (.streamed depthLimit)
      = .ok options := by
    cases represents with
    | record unrepeated given omitted =>
        refine Node.read_record rfl unrepeated (fun i value listed => ?_) omitted
        refine (given i value listed).read_ofDocument (.streamed _) ?_
        match i, given i value listed with
        | ⟨0, _⟩, text | ⟨1, _⟩, text | ⟨2, _⟩, text => exact within_of_represents_text _ text
  rw [Options.load, Shape.loadModel, Shape.load_compact_eq_read, read]
  rfl

/-- The text of a record loads as the settings that its entries give. -/
theorem load_eq_ok_iff_given
    : Options.load (Document.record entries).compact = .ok options ↔ Given entries options := by
  rw [← represents_iff_given]
  exact ⟨fun loaded => .of_load (Shape.load_of_loadModel loaded), load_of_represents⟩

/-- Some settings are given exactly if no known key stands twice or with anything but a text. -/
theorem exists_given_iff
    : (∃ options, Given entries options)
      ↔ ∀ key ∈ keys,
          (valuesOf key entries).length ≤ 1
          ∧ ∀ value ∈ valuesOf key entries, ∃ content, value = .text content := by
  constructor
  · intro someOptions key isKnown
    obtain ⟨options, given⟩ := someOptions
    simp only [keys, List.mem_cons, List.not_mem_nil, or_false] at isKnown
    rcases isKnown with rfl | rfl | rfl
    · exact GivesText.exists_iff.mp ⟨_, given.language⟩
    · exact GivesText.exists_iff.mp ⟨_, given.requestSuffix⟩
    · exact GivesText.exists_iff.mp ⟨_, given.responseSuffix⟩
  · intro each
    obtain ⟨language, isLanguage⟩ := GivesText.exists_iff.mpr (each "language" (by decide))
    obtain ⟨request, isRequest⟩ := GivesText.exists_iff.mpr (each "requestSuffix" (by decide))
    obtain ⟨response, isResponse⟩ := GivesText.exists_iff.mpr (each "responseSuffix" (by decide))
    exact ⟨{ language, requestSuffix := request, responseSuffix := response },
      isLanguage, isRequest, isResponse⟩

/-- Entries with the same values under the known keys give the same settings. -/
theorem Given.of_perm {others : List (String × Document)} (given : Given entries options)
    (same : ∀ key ∈ keys, (valuesOf key others).Perm (valuesOf key entries))
    : Given others options where
  language := given.language.of_perm (same "language" (by decide))
  requestSuffix := given.requestSuffix.of_perm (same "requestSuffix" (by decide))
  responseSuffix := given.responseSuffix.of_perm (same "responseSuffix" (by decide))

/-- Written settings give these settings. -/
theorem load_written (options : Options)
    : Options.load options.toDocument.compact = .ok options :=
  load_eq_ok_iff_given.mpr ⟨.inl rfl, .inl rfl, .inl rfl⟩

/-- The compact text of a record loads as settings exactly if each known key stands at most once and
only with texts, and then it loads as the settings that the known keys give, with the default for
each that is missing. Neither the order of the entries nor any entry with another key makes a
difference, and written settings load as themselves.
-/
theorem load_entries (entries : List (String × Document))
    : let loaded (entries : List (String × Document)) : Except Failure Options :=
        Options.load (Document.record entries).compact
      ((∃ options, loaded entries = .ok options)
        ↔ ∀ key ∈ keys,
            (valuesOf key entries).length ≤ 1
            ∧ ∀ value ∈ valuesOf key entries, ∃ content, value = .text content)
      ∧ (∀ options, loaded entries = .ok options ↔ Given entries options)
      ∧ (∀ others,
          (∀ key ∈ keys, (valuesOf key others).Perm (valuesOf key entries))
          → ∀ options, loaded others = .ok options ↔ loaded entries = .ok options)
      ∧ ∀ options : Options, Options.load options.toDocument.compact = .ok options := by
  intro loaded
  have given {entries : List (String × Document)} (options : Options)
      : loaded entries = .ok options ↔ Given entries options :=
    load_eq_ok_iff_given
  refine ⟨?_, given, ?_, load_written⟩
  · simp only [given, exists_given_iff]
  · intro others same options
    rw [given, given]
    exact ⟨fun others => others.of_perm fun key known => (same key known).symm,
      fun entries => entries.of_perm same⟩

/-- Two settings load from between unknown keys in either order, with the default of the third one;
with one of them given again nothing loads.
-/
theorem load_entries_betweenUnknown
    : let note : String × Document := ("note", .list [.null, .record [("language", .null)]])
      let language : String × Document := ("language", .text "java")
      let suffix : String × Document := ("responseSuffix", .text "Reply")
      let options : Options := { language := "java", responseSuffix := "Reply" }
      let loaded (entries : List (String × Document)) : Except Failure Options :=
        Options.load (Document.record entries).compact
      loaded [note, language, note, suffix] = .ok options
      ∧ (∀ key ∈ keys,
          (valuesOf key [suffix, language, note]).Perm
            (valuesOf key [note, language, note, suffix]))
      ∧ loaded [suffix, language, note] = .ok options
      ∧ ¬ ∃ options, loaded [language, note, language] = .ok options := by
  intro note language suffix options loaded
  obtain ⟨-, given, reordered, -⟩ := load_entries [note, language, note, suffix]
  obtain ⟨succeeds, -, -, -⟩ := load_entries [language, note, language]
  have ordered : loaded [note, language, note, suffix] = .ok options :=
    (given options).mpr ⟨.inl rfl, .inr ⟨rfl, rfl⟩, .inl rfl⟩
  have same : ∀ key ∈ keys,
      (valuesOf key [suffix, language, note]).Perm
        (valuesOf key [note, language, note, suffix]) := by
    intro key isKnown
    simp only [keys, List.mem_cons, List.not_mem_nil, or_false] at isKnown
    rcases isKnown with rfl | rfl | rfl <;> exact .refl _
  refine ⟨ordered, same, (reordered _ same options).mpr ordered, ?_⟩
  intro someOptions
  obtain ⟨atMostOne, -⟩ := succeeds.mp someOptions "language" (by decide)
  exact absurd atMostOne (by decide)

end Options

end SchemaNames
