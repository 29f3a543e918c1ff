/-! Case mappings of single code points in compressed form. A run maps evenly spaced code points
to code points at the same spacing, and an expansion maps one code point to several.
-/

namespace SchemaNames.Text

/-- Every `stride`-th code point from `first` to `last`, mapped in order from `target` on. -/
structure CaseRun where
  first : Nat
  last : Nat
  stride : Nat
  target : Nat

/-- CaseRun.covers (run code) holds when the run maps the code point. -/
def CaseRun.covers (run : CaseRun) (code : Nat) : Bool :=
  run.first ≤ code && code ≤ run.last && (code - run.first) % run.stride == 0

/-- CaseRun.image (run code) is the form of a covered code point. -/
def CaseRun.image (run : CaseRun) (code : Nat) : Nat :=
  run.target + (code - run.first)

/-- One code point whose form has several code points. -/
structure Expansion where
  code : Nat
  form : List Nat

/-- mapCode (runs expansions code) is the form of a code point; one in neither table is its own
form. -/
def mapCode (runs : List CaseRun) (expansions : List Expansion) (code : Nat) : List Nat :=
  match expansions.find? (·.code == code) with
  | some expansion => expansion.form
  | none =>
      match runs.find? (·.covers code) with
      | some run => [run.image code]
      | none => [code]

end SchemaNames.Text
