import SchemaNames.Loading.Slots

/-! Slots that are filled with the values of one record. Filling another field keeps them so,
and if what is not filled falls back to the value of the record, they complete to the record.
-/

namespace SchemaNames

namespace RecordKind

/-- The key of a field. -/
def key (kind : RecordKind) (i : Fin kind.arity) : String :=
  (kind.fields.get i).key

/-- The value of a field that is left out, if it may be. -/
def fallback (kind : RecordKind) (i : Fin kind.arity) : Option (kind.shape i).Value :=
  (kind.fields.get i).fallback

/-- No two fields of a record have one key, by cases on the kind. -/
theorem key_injective (kind : RecordKind) {i j : Fin kind.arity}
    (same : kind.key i = kind.key j)
    : i = j := by
  have distinct : ∀ i j : Fin kind.arity, kind.key i = kind.key j → i = j := by
    cases kind <;> decide
  exact distinct i j same

/-- The field with a key is the one that has it. -/
theorem index?_eq_some_iff {kind : RecordKind} {name : String} {i : Fin kind.arity}
    : kind.index? name = some i ↔ kind.key i = name := by
  rw [index?, List.findFinIdx?_eq_some_iff]
  constructor
  · rintro ⟨found, -⟩
    exact of_decide_eq_true found
  · intro found
    refine ⟨decide_eq_true found, fun j earlier sameKey => ?_⟩
    have same : j = i := kind.key_injective ((of_decide_eq_true sameKey).trans found.symm)
    exact absurd (same ▸ earlier) (Nat.lt_irrefl _)

/-- A key is unknown if no field has it. -/
theorem index?_eq_none_iff {kind : RecordKind} {name : String}
    : kind.index? name = none ↔ ∀ i, kind.key i ≠ name := by
  rw [Option.eq_none_iff_forall_ne_some]
  simp only [ne_eq, index?_eq_some_iff]

end RecordKind

namespace Slots

variable {kind : RecordKind}

/-- Some of the values of a record. -/
def filled (values : kind.FieldValues) (isFilled : Fin kind.arity → Bool) : Slots kind :=
  fun i => if isFilled i then some (values i) else none

/-- Slots that are filled nowhere are empty. -/
theorem filled_false (values : kind.FieldValues)
    : filled values (fun _ => false) = empty :=
  rfl

/-- Setting one more value of the record fills one more field. -/
theorem set_filled (values : kind.FieldValues) (isFilled : Fin kind.arity → Bool)
    (i : Fin kind.arity)
    : (filled values isFilled).set i (values i)
      = filled values fun j => j = i || isFilled j := by
  funext j
  by_cases same : j = i
  · subst same
    simp [set, filled]
  · simp [set, filled, same]

/-- Filled slots complete to the record if each of its other values is a fallback. -/
theorem complete_filled {ε : Type} (values : kind.FieldValues)
    (isFilled : Fin kind.arity → Bool) (missing : Fin kind.arity → ε)
    (omitted : ∀ i, isFilled i = false → kind.fallback i = some (values i))
    : (filled values isFilled).complete missing = .ok (kind.build values) := by
  have each (i : Fin kind.arity) : (filled values isFilled).value? i = some (values i) := by
    cases given : isFilled i with
    | true => simp [value?, filled, given]
    | false =>
        rw [value?, filled, given, if_neg Bool.false_ne_true]
        exact omitted i given
  unfold complete
  split
  · next i first =>
      have absent := List.find?_some first
      simp [each i] at absent
  · simp only [each, Option.get_some]

end Slots

end SchemaNames
