import SchemaNames.Document.Basic
import SchemaNames.Document.Quoted
import SchemaNames.Numeric.Shortest

/-! Writing documents. A style says what stands before items, entries and closing brackets and
after colons; nothing else differs between the compact and the indented text.
-/

namespace SchemaNames

/-- The blanks of a written document. -/
structure Style where
  /-- What stands before an item or a closing bracket at a depth. -/
  lineBreak : Nat → List Char
  afterColon : List Char

/-- No blanks at all. -/
def Style.compact : Style :=
  { lineBreak := fun _ => [], afterColon := [] }

/-- One item or entry a line, two spaces a level. -/
def Style.indented : Style :=
  { lineBreak := fun depth => '\n' :: List.replicate (2 * depth) ' ', afterColon := [' '] }

def Scalar.write : Scalar → List Char
  | .null => ['n', 'u', 'l', 'l']
  | .boolean true => ['t', 'r', 'u', 'e']
  | .boolean false => ['f', 'a', 'l', 's', 'e']
  | .integer value => Numeric.signedDecimal value
  | .float value => Numeric.floatText value.toBits.toNat

mutual
/-- The text of a document whose items stand at a depth. -/
def Document.write (style : Style) (depth : Nat) : Document → List Char
  | .scalar value => value.write
  | .text content => Quoted.write content
  | .list [] => ['[', ']']
  | .list (item :: rest) =>
      '[' :: style.lineBreak (depth + 1) ++ item.write style (depth + 1)
        ++ Document.writeItems style (depth + 1) rest
        ++ style.lineBreak depth ++ [']']
  | .record [] => ['\x7b', '\x7d']
  | .record ((key, value) :: rest) =>
      '\x7b' :: style.lineBreak (depth + 1) ++ Quoted.write key ++ ':' :: style.afterColon
        ++ value.write style (depth + 1)
        ++ Document.writeEntries style (depth + 1) rest
        ++ style.lineBreak depth ++ ['\x7d']
termination_by structural document => document

/-- The text of further items. -/
def Document.writeItems (style : Style) (depth : Nat) : List Document → List Char
  | [] => []
  | item :: rest =>
      ',' :: style.lineBreak depth ++ item.write style depth
        ++ Document.writeItems style depth rest
termination_by structural items => items

/-- The text of further entries. -/
def Document.writeEntries (style : Style) (depth : Nat) : List (String × Document) → List Char
  | [] => []
  | (key, value) :: rest =>
      ',' :: style.lineBreak depth ++ Quoted.write key ++ ':' :: style.afterColon
        ++ value.write style depth
        ++ Document.writeEntries style depth rest
termination_by structural entries => entries
end

/-- The text of a document without blanks. -/
def Document.compact (document : Document) : String :=
  String.ofList (document.write .compact 0)

/-- The text of a document over several lines. -/
def Document.indented (document : Document) : String :=
  String.ofList (document.write .indented 0)

end SchemaNames
