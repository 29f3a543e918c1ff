import SchemaNames.Document.Basic
import SchemaNames.Numeric.Decimal

/-! Places in a schema source. A place has a line, a column and perhaps the name of its source;
places are ordered by name, then line, then column.
-/

namespace SchemaNames

structure Position where
  name : Option String := none
  line : UInt64 := 0
  column : UInt64 := 0
deriving DecidableEq, Inhabited

namespace Position

/-- The text of a place: its name, and line and column in parentheses. -/
def display (position : Position) : String :=
  position.name.getD "" ++ String.ofList
    ('(' :: Numeric.decimal position.line.toNat
      ++ ',' :: Numeric.decimal position.column.toNat ++ [')'])

/-- A place without a name comes first. -/
def compare (a b : Position) : Ordering :=
  (Ord.compare a.name b.name).then
    ((Ord.compare a.line b.line).then (Ord.compare a.column b.column))

instance : Ord Position := ⟨compare⟩

def toDocument (position : Position) : Document :=
  .record
    ((match position.name with
      | some name => [("name", .text name)]
      | none => [])
      ++ [("line", .natural position.line.toNat), ("column", .natural position.column.toNat)])

end Position

end SchemaNames
