/-! Classes of code points given as ranges. A class is a list of closed ranges, and membership
is membership in one of them.
-/

namespace SchemaNames.Text

/-- A closed range of code points. -/
structure CodeRange where
  first : Nat
  last : Nat

/-- CodeRange.contains (range code) holds when the code point lies between the two ends. -/
def CodeRange.contains (range : CodeRange) (code : Nat) : Bool :=
  range.first ≤ code && code ≤ range.last

/-- isIn (ranges c) holds when one of the ranges contains the character. -/
def isIn (ranges : List CodeRange) (c : Char) : Bool :=
  ranges.any (·.contains c.toNat)

end SchemaNames.Text
