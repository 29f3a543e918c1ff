import SchemaNames.Document.Node

/-! Reading documents. A tree is a document unless it breaks, holds a refused lexeme or nests too
deep; of several faults the first in the text is reported. Skipping a tree forgives more.
-/

namespace SchemaNames

/-- The number of brackets that may be open at once. -/
def depthLimit : Nat := 127

/-- The fault of a value that is not there. -/
def Gap.valueFault : Gap → Fault
  | .endOfText => .endOfValue
  | .other => .expectedValue

/-- The fault of a colon that is not there. -/
def Gap.colonFault : Gap → Fault
  | .endOfText => .endOfRecord
  | .other => .expectedColon

/-- The fault of a list that is read to its end. -/
def ListEnd.check : ListEnd → Except Fault Unit
  | .closed => .ok ()
  | .closedAfterComma => .error .trailingComma
  | .endOfText => .error .endOfList
  | .unseparated => .error .expectedListSeparator

/-- The fault of a list that is skipped to its end. -/
def ListEnd.checkSkipped : ListEnd → Except Fault Unit
  | .closedAfterComma => .error .expectedValue
  | ending => ending.check

/-- The fault of a record that is read to its end, but for a key without colon. -/
def RecordEnd.check : RecordEnd → Except Fault Unit
  | .closed => .ok ()
  | .closedAfterComma => .error .trailingComma
  | .endOfText => .error .endOfRecord
  | .endAfterComma => .error .endOfValue
  | .notKey => .error .keyNotText
  | .unseparated => .error .expectedRecordSeparator
  | .noColon key gap => do
      let _ ← key.reading
      .error gap.colonFault

/-- The fault of a record that is skipped to its end. -/
def RecordEnd.checkSkipped : RecordEnd → Except Fault Unit
  | .closedAfterComma => .error .keyNotText
  | .endAfterComma => .error .endOfRecord
  | .noColon key gap => do
      key.skipping
      .error gap.colonFault
  | ending => ending.check

mutual
/-- Passes over a tree. -/
def Node.skip : Node → Except Fault Unit
  | .absent gap => .error gap.valueFault
  | .text content => content.skipping
  | .scalar content => content.skipping
  | .list items ending => do
      Node.skipItems items
      ending.checkSkipped
  | .record entries ending => do
      Node.skipEntries entries
      ending.checkSkipped
termination_by structural node => node

def Node.skipItems : List Node → Except Fault Unit
  | [] => .ok ()
  | node :: rest => do
      node.skip
      Node.skipItems rest
termination_by structural nodes => nodes

def Node.skipEntries : List (Lexeme String × Node) → Except Fault Unit
  | [] => .ok ()
  | (key, node) :: rest => do
      key.skipping
      node.skip
      Node.skipEntries rest
termination_by structural entries => entries
end

mutual
/-- The document of a tree below which so many more brackets may be opened. -/
def Node.toDocument (room : Nat) : Node → Except Fault Document
  | .absent gap => .error gap.valueFault
  | .text content => do
      return .text (← content.reading)
  | .scalar content => do
      return .scalar (← content.reading)
  | .list items ending =>
      match room with
      | 0 => .error .tooDeep
      | room + 1 => do
          let items ← Node.toDocuments room items
          ending.check
          return .list items
  | .record entries ending =>
      match room with
      | 0 => .error .tooDeep
      | room + 1 => do
          let entries ← Node.toEntries room entries
          ending.check
          return .record entries
termination_by structural node => node

def Node.toDocuments (room : Nat) : List Node → Except Fault (List Document)
  | [] => .ok []
  | node :: rest => do
      let document ← node.toDocument room
      return document :: (← Node.toDocuments room rest)
termination_by structural nodes => nodes

def Node.toEntries (room : Nat)
    : List (Lexeme String × Node) → Except Fault (List (String × Document))
  | [] => .ok []
  | (key, node) :: rest => do
      let key ← key.reading
      let document ← node.toDocument room
      return (key, document) :: (← Node.toEntries room rest)
termination_by structural entries => entries
end

/-- A text that goes on behind its value is refused. -/
def Tree.checkTrailing (tree : Tree) : Except Fault Unit :=
  if tree.trailing then .error .trailingCharacters else .ok ()

/-- The document of a text. -/
def Document.parse (text : String) : Except Fault Document := do
  let tree := Tree.parse text
  let document ← tree.root.toDocument depthLimit
  tree.checkTrailing
  return document

end SchemaNames
