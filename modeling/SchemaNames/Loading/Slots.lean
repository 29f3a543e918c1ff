import SchemaNames.Loading.Format

/-! The fields of a record while it is read. A field is set at most once, and in the end a field
that was not set takes its fallback.
-/

namespace SchemaNames

/-- The values that the fields of a record have so far. -/
def Slots (kind : RecordKind) : Type :=
  (i : Fin kind.arity) → Option (kind.shape i).Value

namespace Slots

variable {kind : RecordKind}

/-- No field is set. -/
def empty : Slots kind :=
  fun _ => none

/-- One more field is set. -/
def set (slots : Slots kind) (i : Fin kind.arity) (value : (kind.shape i).Value) : Slots kind :=
  fun j => if h : j = i then some (h ▸ value) else slots j

/-- Holds when a field with the key is there and is set. -/
def isTaken (slots : Slots kind) (key : String) : Bool :=
  match kind.index? key with
  | some i => (slots i).isSome
  | none => false

/-- The value of a field, or its fallback. -/
def value? (slots : Slots kind) (i : Fin kind.arity) : Option (kind.shape i).Value :=
  slots i <|> (kind.fields.get i).fallback

/-- The first field that has neither a value nor a fallback. -/
def firstMissing? (slots : Slots kind) : Option (Fin kind.arity) :=
  (List.finRange kind.arity).find? fun i => (slots.value? i).isNone

theorem isSome_value?_of_firstMissing?_eq_none {slots : Slots kind}
    (h : slots.firstMissing? = none) (i : Fin kind.arity)
    : (slots.value? i).isSome := by
  have := List.find?_eq_none.1 h i (List.mem_finRange i)
  simpa [Option.isSome_iff_ne_none] using this

/-- The record, or the problem that a missing field is. -/
def complete {ε : Type} (slots : Slots kind) (missing : Fin kind.arity → ε)
    : Except ε kind.Value :=
  match h : slots.firstMissing? with
  | some i => .error (missing i)
  | none =>
      .ok (kind.build fun i =>
        (slots.value? i).get (isSome_value?_of_firstMissing?_eq_none h i))

end Slots

end SchemaNames
