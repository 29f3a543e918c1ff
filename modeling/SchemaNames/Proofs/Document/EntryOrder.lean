import SchemaNames.Proofs.Document.DocumentTree

/-! Documents that are alike but for the order of entries. Records are compared key by key, lists
item by item; what is written for parts of a schema is told apart by these comparisons.
-/

namespace SchemaNames.Document

/-- The value of a key among entries; of several entries with the key the last one counts. -/
def valueOf? (key : String) (entries : List (String × Document)) : Option Document :=
  (entries.reverse.find? (·.1 = key)).map (·.2)

/-- The value of a key in a record; any other document has none. -/
def value? (document : Document) (key : String) : Option Document :=
  match document with
  | .record entries => valueOf? key entries
  | _ => none

/-- Holds of documents that are the same if the order of entries does not matter. -/
inductive Alike : Document → Document → Prop where
  | scalar (value : Scalar)
    : Alike (.scalar value) (.scalar value)
  | text (content : String)
    : Alike (.text content) (.text content)
  | list {items others : List Document} (sameLength : items.length = others.length)
    (each : ∀ pair ∈ items.zip others, Alike pair.1 pair.2)
    : Alike (.list items) (.list others)
  | record {entries others : List (String × Document)}
    (sameKeys : ∀ key, (valueOf? key entries).isSome = (valueOf? key others).isSome)
    (each
      : ∀ key value other,
          valueOf? key entries = some value
          → valueOf? key others = some other
          → Alike value other)
    : Alike (.record entries) (.record others)

namespace Alike

/-- Every document is alike to itself, by induction on the document. -/
theorem refl (document : Document) : document.Alike document := by
  induction document using Document.induction with
  | scalar value => exact .scalar value
  | text content => exact .text content
  | list items ih =>
      refine .list rfl fun pair listed => ?_
      obtain ⟨index, bound, rfl⟩ := List.mem_iff_getElem.mp listed
      rw [List.getElem_zip]
      exact ih _ (List.getElem_mem _)
  | record entries ih =>
      refine .record (fun _ => rfl) fun key value other found otherFound => ?_
      obtain rfl := Option.some.inj (found.symm.trans otherFound)
      obtain ⟨entry, stands, rfl⟩ := Option.map_eq_some_iff.mp found
      exact ih entry (List.mem_reverse.mp (List.mem_of_find?_eq_some stands))

/-- Texts that are alike have the same content. -/
theorem eq_of_text {content other : String} (alike : (Document.text content).Alike (.text other))
    : content = other := by
  cases alike
  rfl

/-- Numbers that are alike are equal. -/
theorem eq_of_natural {n m : Nat} (alike : (natural n).Alike (natural m)) : n = m := by
  generalize left : natural n = document at alike
  generalize right : natural m = other at alike
  cases alike with
  | scalar value =>
      have same : natural n = natural m := left.trans right.symm
      exact Int.ofNat.inj (Scalar.integer.inj (Document.scalar.inj same))
  | text | list | record => cases left

/-- Lists that are alike come from the same items, if items do whose documents are alike. -/
theorem eq_of_list {α : Type} {encode : α → Document}
    (faithful : ∀ a b, (encode a).Alike (encode b) → a = b) {items others : List α}
    (alike : (Document.list (items.map encode)).Alike (.list (others.map encode)))
    : items = others := by
  cases alike with
  | list sameLength each =>
      rw [List.length_map, List.length_map] at sameLength
      apply List.ext_getElem sameLength
      intro index bound otherBound
      apply faithful
      have inside : index < ((items.map encode).zip (others.map encode)).length := by
        rw [List.length_zip, List.length_map, List.length_map]
        exact Nat.lt_min.mpr ⟨bound, otherBound⟩
      simpa using each _ (List.getElem_mem inside)

section Keys

variable {document other : Document}

/-- Values of one key in documents that are alike are alike. -/
theorem value (alike : document.Alike other) (key : String) {value otherValue : Document}
    (found : document.value? key = some value) (otherFound : other.value? key = some otherValue)
    : value.Alike otherValue := by
  cases alike with
  | scalar | text | list => cases found
  | record sameKeys each => exact each key value otherValue found otherFound

/-- A key that has a text or nothing in documents that are alike has the same in both. -/
theorem eq_of_optionalText (alike : document.Alike other) (key : String)
    {content otherContent : Option String}
    (found : document.value? key = content.map .text)
    (otherFound : other.value? key = otherContent.map .text)
    : content = otherContent := by
  have bothThere : (document.value? key).isSome = (other.value? key).isSome := by
    cases alike with
    | scalar | text | list => rfl
    | record sameKeys each => exact sameKeys key
  rw [found, otherFound, Option.isSome_map, Option.isSome_map] at bothThere
  match content, otherContent, bothThere with
  | none, none, _ => rfl
  | some content, some otherContent, _ =>
      exact congrArg some (alike.value key found otherFound).eq_of_text

end Keys

end Alike

end SchemaNames.Document
