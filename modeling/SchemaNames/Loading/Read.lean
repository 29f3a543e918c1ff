import SchemaNames.Document.Parse
import SchemaNames.Loading.Problem
import SchemaNames.Loading.Slots

/-! Reading a tree as a value of a shape. A record may be written as a record of its fields in
any order or as a list of their values; the first problem in the text is reported. A member is
first checked as a document and only then read, so that problems of its text come first.
-/

namespace SchemaNames

/-- How a tree is read: straight from the text, with room for so many more open brackets, or
after it has been checked as a document. -/
inductive Level where
  | streamed (room : Nat)
  | checked

namespace Level

/-- The level inside a bracket. -/
def enter : Level → Except Problem Level
  | .streamed 0 => .error (.malformed .tooDeep)
  | .streamed (room + 1) => .ok (.streamed room)
  | .checked => .ok .checked

/-- Passes over a value that is not wanted. -/
def skip (level : Level) (node : Node) : Except Problem Unit :=
  match level with
  | .streamed _ => orMalformed node.skip
  | .checked => .ok ()

/-- Checks that a tree is a document. -/
def check (level : Level) (node : Node) : Except Problem Unit :=
  match level with
  | .streamed room => orMalformed (node.toDocument room) *> .ok ()
  | .checked => .ok ()

/-- The problem of a list that goes on where all its values have been read. -/
def excess (level : Level) (length arity : Nat) : Problem :=
  match level with
  | .streamed _ => .malformed .trailingCharacters
  | .checked => .longList length arity

end Level

/-- The problem of a value of the wrong type; the fault of a lexeme comes first. -/
def Node.mismatch (expected : Expected) : Node → Problem
  | .absent gap => .malformed gap.valueFault
  | .text content =>
      match content.reading with
      | .ok content => .wrongType (.text content) expected
      | .error fault => .malformed fault
  | .scalar content =>
      match content.reading with
      | .ok value => .wrongType (.scalar value) expected
      | .error fault => .malformed fault
  | .list _ _ => .wrongType .list expected
  | .record _ _ => .wrongType .record expected

def Node.readText (expected : Expected) : Node → Except Problem String
  | .text content => orMalformed content.reading
  | node => .error (node.mismatch expected)

/-- The number that a scalar is; a negative one is of the right type but out of range. -/
def Scalar.toSize : Scalar → Except Problem UInt64
  | .integer (.ofNat n) => .ok (UInt64.ofNat n)
  | .integer (.negSucc n) => .error (.wrongValue (.scalar (.integer (.negSucc n))) .size)
  | value => .error (.wrongType (.scalar value) .size)

def Node.readSize : Node → Except Problem UInt64
  | .scalar content => do
      let value ← orMalformed content.reading
      value.toSize
  | node => .error (node.mismatch .size)

def Node.readOptionalText (node : Node) : Except Problem (Option String) :=
  match node with
  | .scalar ⟨.ok .null, _⟩ => .ok none
  | node => some <$> node.readText .text

/-- The end of a record whose keys have been met as far as `isTaken` says; a key that was met is
refused before its colon is looked for. -/
def RecordEnd.checkRead (isTaken : String → Bool) : RecordEnd → Except Problem Unit
  | .noColon key gap => do
      let name ← orMalformed key.reading
      if isTaken name then
        .error (.duplicateField name)
      else
        .error (.malformed gap.colonFault)
  | ending => orMalformed ending.check

/-- The end of a list whose values have been read; behind the last value anything but the end is
too much. -/
def ListEnd.checkFull : ListEnd → Except Problem Unit
  | .unseparated => .error (.malformed .trailingCharacters)
  | ending => orMalformed ending.check

/-- The key under which a member names its kind. -/
def kindKey : String := "kind"

/-- The word for the kind of a member among its entries, where all other entries are checked. -/
def Node.findTag (level : Level) (ending : RecordEnd) (found : Option String)
    : List (Lexeme String × Node) → Except Problem String
  | [] => do
      ending.checkRead (fun name => name = kindKey && found.isSome)
      match found with
      | some tag => .ok tag
      | none => .error (.missingField kindKey)
  | (key, node) :: rest => do
      let name ← orMalformed key.reading
      if name = kindKey then
        if found.isSome then
          .error (.duplicateField kindKey)
        else do
          let tag ← node.readText .memberKind
          Node.findTag level ending (some tag) rest
      else do
        level.check node
        Node.findTag level ending found rest

/-- Checks the trees of a list one after the other. -/
def Level.checkAll (level : Level) : List Node → Except Problem Unit
  | [] => .ok ()
  | node :: rest => do
      level.check node
      level.checkAll rest

mutual
/-- Reads a tree as a value of a shape. -/
def Node.read (shape : Shape) (level : Level) (node : Node) : Except Problem shape.Value :=
  match shape with
  | .text => node.readText .text
  | .size => node.readSize
  | .optionalText => node.readOptionalText
  | .list item =>
      match node with
      | .list items ending => do
          let level ← level.enter
          let values ← Node.readAll item level items
          orMalformed ending.check
          return values
      | node => .error (node.mismatch .list)
  | .record kind =>
      match node with
      | .list items ending => do
          let level ← level.enter
          let slots ← Node.readInOrder kind level 0 .empty ending items
          slots.complete fun i => .shortList i kind
      | .record entries ending => do
          let level ← level.enter
          let slots ← Node.readByKey kind level .empty ending entries
          slots.complete fun i => .missingField (kind.fields.get i).key
      | node => .error (node.mismatch (.record kind))
  | .member =>
      match node with
      | .list [] ending => do
          let _ ← level.enter
          orMalformed ending.check
          .error (.missingField kindKey)
      | .list (first :: items) ending => do
          let level ← level.enter
          let tag ← first.readText .memberKind
          level.checkAll items
          orMalformed ending.check
          match MemberKind.ofTag? tag with
          | some kind => do
              let slots ← Node.readInOrder kind.record .checked 0 .empty ending items
              let value ← slots.complete fun i => .shortList i kind.record
              return kind.wrap value
          | none =>
              if items.isEmpty then .ok .unrecognized else .error (.longList items.length 0)
      | .record entries ending => do
          let level ← level.enter
          let tag ← Node.findTag level ending none entries
          match MemberKind.ofTag? tag with
          | some kind => do
              let slots ← Node.readByKey kind.record .checked .empty ending entries
              let value ← slots.complete fun i => .missingField (kind.record.fields.get i).key
              return kind.wrap value
          | none => .ok .unrecognized
      | node => .error (node.mismatch .member)
termination_by structural node

/-- Reads the items of a list. -/
def Node.readAll (shape : Shape) (level : Level)
    : List Node → Except Problem (List shape.Value)
  | [] => .ok []
  | node :: rest => do
      let value ← node.read shape level
      return value :: (← Node.readAll shape level rest)
termination_by structural nodes => nodes

/-- Reads the values of a record in the order of its fields, from the field at an index on. -/
def Node.readInOrder (kind : RecordKind) (level : Level) (index : Nat) (slots : Slots kind)
    (ending : ListEnd) : List Node → Except Problem (Slots kind)
  | [] => do
      if index < kind.arity then orMalformed ending.check else ending.checkFull
      return slots
  | node :: rest =>
      if h : index < kind.arity then do
        let value ← node.read (kind.shape ⟨index, h⟩) level
        Node.readInOrder kind level (index + 1) (slots.set ⟨index, h⟩ value) ending rest
      else
        .error (level.excess (index + 1 + rest.length) kind.arity)
termination_by structural nodes => nodes

/-- Reads the entries of a record; entries with unknown keys are passed over. -/
def Node.readByKey (kind : RecordKind) (level : Level) (slots : Slots kind)
    (ending : RecordEnd) : List (Lexeme String × Node) → Except Problem (Slots kind)
  | [] => do
      ending.checkRead slots.isTaken
      return slots
  | (key, node) :: rest => do
      let name ← orMalformed key.reading
      match kind.index? name with
      | none => do
          level.skip node
          Node.readByKey kind level slots ending rest
      | some i =>
          if (slots i).isSome then
            .error (.duplicateField name)
          else do
            let value ← node.read (kind.shape i) level
            Node.readByKey kind level (slots.set i value) ending rest
termination_by structural entries => entries
end

/-- The value of a shape that a text denotes. -/
def Shape.load (shape : Shape) (text : String) : Except Problem shape.Value := do
  let tree := Tree.parse text
  let value ← tree.root.read shape (.streamed depthLimit)
  orMalformed tree.checkTrailing
  return value

end SchemaNames
