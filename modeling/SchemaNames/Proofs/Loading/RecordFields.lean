import SchemaNames.Proofs.Loading.Representation

/-! Records field by field. What a record represents depends on the values under the keys of its
fields only, each of which has one value or none, and a list gives the fields one by one.
-/

namespace SchemaNames

namespace Document

/-- The values that stand under a key, in the order of the entries. -/
def valuesOf (key : String) (entries : List (String × Document)) : List Document :=
  (entries.filter (·.1 = key)).map (·.2)

variable {key : String} {entries : List (String × Document)}

theorem mem_valuesOf {value : Document}
    : value ∈ valuesOf key entries ↔ (key, value) ∈ entries := by
  simp [valuesOf]

theorem valuesOf_eq_nil_iff
    : valuesOf key entries = [] ↔ key ∉ entries.map (·.1) := by
  simp [List.eq_nil_iff_forall_not_mem, mem_valuesOf]

/-- A key has at most one value exactly if no two entries have it, by induction on the entries. -/
theorem length_valuesOf_le_one_iff
    : (valuesOf key entries).length ≤ 1
      ↔ entries.Pairwise fun a b => a.1 = b.1 → key ≠ a.1 := by
  induction entries with
  | nil => simp [valuesOf]
  | cons entry rest ih =>
      rw [List.pairwise_cons, ← ih]
      by_cases isKey : entry.1 = key
      · have first : valuesOf key (entry :: rest) = entry.2 :: valuesOf key rest := by
          simp [valuesOf, isKey]
        have alone
            : (∀ other ∈ rest, entry.1 = other.1 → key ≠ entry.1) ↔ valuesOf key rest = [] := by
          rw [valuesOf_eq_nil_iff, isKey]
          grind
        rw [first, alone, List.length_cons]
        constructor
        · intro small
          have none : valuesOf key rest = [] := List.eq_nil_of_length_eq_zero (by omega)
          exact ⟨none, by simp [none]⟩
        · intro both
          obtain ⟨none, -⟩ := both
          simp [none]
      · have first : valuesOf key (entry :: rest) = valuesOf key rest := by
          simp [valuesOf, isKey]
        simp [first, Ne.symm isKey]

end Document

open Document (valuesOf)

namespace RecordKind

/-- Known keys are not repeated exactly if each of them has at most one value. -/
theorem unrepeated_iff {kind : RecordKind} {entries : List (String × Document)}
    : (entries.Pairwise fun a b => a.1 = b.1 → ∀ i, kind.key i ≠ a.1)
      ↔ ∀ i, (valuesOf (kind.key i) entries).length ≤ 1 := by
  simp only [Document.length_valuesOf_le_one_iff, List.pairwise_iff_forall_sublist]
  grind

/-- (kind.Gives i documents value) says that what stands under the key of a field gives it a value:
one document that represents the value, or none if the field falls back to it.
-/
def Gives (kind : RecordKind) (i : Fin kind.arity) (documents : List Document)
    (value : (kind.shape i).Value)
    : Prop :=
  (∃ document, documents = [document] ∧ Represents (kind.shape i) document value)
  ∨ documents = [] ∧ kind.fallback i = some value

end RecordKind

/-- A record represents exactly the values whose fields are given one by one. -/
theorem Represents.record_iff {kind : RecordKind} {entries : List (String × Document)}
    {value : kind.Value}
    : Represents (.record kind) (.record entries) value
      ↔ ∃ values,
          value = kind.build values
          ∧ ∀ i, kind.Gives i (valuesOf (kind.key i) entries) (values i) := by
  constructor
  · intro represents
    cases represents with
    | @record _ _ values unrepeated given omitted =>
        refine ⟨values, rfl, fun i => ?_⟩
        have atMostOne := RecordKind.unrepeated_iff.mp unrepeated i
        match found : valuesOf (kind.key i) entries with
        | [] => exact .inr ⟨rfl, omitted i (Document.valuesOf_eq_nil_iff.mp found)⟩
        | [document] =>
            have listed : document ∈ valuesOf (kind.key i) entries := by simp [found]
            exact .inl ⟨document, rfl, given i document (Document.mem_valuesOf.mp listed)⟩
        | _ :: _ :: _ => simp [found] at atMostOne
  · intro fieldwise
    obtain ⟨values, rfl, each⟩ := fieldwise
    refine .record (RecordKind.unrepeated_iff.mpr fun i => ?_) ?_ ?_
    · rcases each i with ⟨document, found, -⟩ | ⟨found, -⟩ <;> simp [found]
    · intro i document listed
      rw [← Document.mem_valuesOf] at listed
      rcases each i with ⟨_, found, represents⟩ | ⟨found, -⟩
      · rw [found, List.mem_singleton] at listed
        exact listed ▸ represents
      · simp [found] at listed
    · intro i absent
      rw [← Document.valuesOf_eq_nil_iff] at absent
      rcases each i with ⟨_, found, -⟩ | ⟨-, fallback⟩
      · simp [found] at absent
      · exact fallback

/-- A list represents exactly the values whose fields are given one by one in their order, where
there are no more items than fields.
-/
theorem Represents.inOrder_iff {kind : RecordKind} {items : List Document} {value : kind.Value}
    : Represents (.record kind) (.list items) value
      ↔ items.length ≤ kind.arity
        ∧ ∃ values,
            value = kind.build values ∧ ∀ i, kind.Gives i items[i.val]?.toList (values i) := by
  constructor
  · intro represents
    cases represents with
    | @inOrder _ _ values bounded given omitted =>
        refine ⟨bounded, values, rfl, fun i => ?_⟩
        cases found : items[i.val]? with
        | none => exact .inr ⟨rfl, omitted i (List.getElem?_eq_none_iff.mp found)⟩
        | some item => exact .inl ⟨item, rfl, given i item found⟩
  · intro fieldwise
    obtain ⟨bounded, values, rfl, each⟩ := fieldwise
    refine .inOrder bounded ?_ ?_
    · intro i item found
      have gives := each i
      rw [found] at gives
      rcases gives with ⟨_, ⟨⟩, represents⟩ | ⟨⟨⟩, -⟩
      exact represents
    · intro i behind
      have gives := each i
      rw [List.getElem?_eq_none_iff.mpr behind] at gives
      rcases gives with ⟨_, ⟨⟩, -⟩ | ⟨-, fallback⟩
      exact fallback

end SchemaNames
