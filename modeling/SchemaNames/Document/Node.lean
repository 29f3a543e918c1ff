import SchemaNames.Document.Token

/-! The tree that tokens form, as far as they form one. A list or record records how it ends,
and where a value should stand but does not the tree has a gap; behind its first break a tree
is not continued.
-/

namespace SchemaNames

/-- What stands where something else is due. -/
inductive Gap where
  | endOfText
  | other
deriving DecidableEq

/-- How a list ends: closed, closed right after a comma, or broken off after an item. -/
inductive ListEnd where
  | closed
  | closedAfterComma
  | endOfText
  | unseparated
deriving DecidableEq

/-- How a record ends: closed, closed right after a comma, or broken off. -/
inductive RecordEnd where
  | closed
  | closedAfterComma
  /-- The text ends where the first key is due or after a value. -/
  | endOfText
  | endAfterComma
  /-- Something else than a text stands where a key is due. -/
  | notKey
  | unseparated
  /-- A key without a colon after it. -/
  | noColon (key : Lexeme String) (gap : Gap)

inductive Node where
  | absent (gap : Gap)
  | text (content : Lexeme String)
  | scalar (content : Lexeme Scalar)
  | list (items : List Node) (ending : ListEnd)
  | record (entries : List (Lexeme String × Node)) (ending : RecordEnd)

/-- A place for a value in the lists and records that are open; what stands before it in each is
given latest first. -/
inductive Hole where
  | root
  | item (before : List Node) (outer : Hole)
  | entry (before : List (Lexeme String × Node)) (key : Lexeme String) (outer : Hole)

/-- The tree whose last part is the given one. -/
def Hole.plug : Hole → Node → Node
  | .root, node => node
  | .item before outer, node => outer.plug (.list (node :: before).reverse .endOfText)
  | .entry before key outer, node =>
      outer.plug (.record ((key, node) :: before).reverse .endOfText)

/-- What is due next in a text. -/
inductive Due where
  /-- A value; in a list also its end. -/
  | nextValue (hole : Hole)
  /-- What follows a complete value. -/
  | separator (node : Node) (hole : Hole)
  /-- A key, or the end of the record. -/
  | nextKey (before : List (Lexeme String × Node)) (outer : Hole)
  | nextColon (before : List (Lexeme String × Node)) (key : Lexeme String) (outer : Hole)
  /-- Nothing, because the tree is broken. -/
  | broken (root : Node)
  /-- Nothing, because the text goes on behind its value. -/
  | trailing (root : Node)

namespace Due

/-- What is due after a token where a value was due. -/
def afterValueToken (hole : Hole) : Token → Due
  | .openList => .nextValue (.item [] hole)
  | .openRecord => .nextKey [] hole
  | .text content => .separator (.text content) hole
  | .scalar content => .separator (.scalar content) hole
  | .closeList =>
      match hole with
      | .item [] outer => .separator (.list [] .closed) outer
      | .item (last :: before) outer =>
          .broken (outer.plug (.list (last :: before).reverse .closedAfterComma))
      | hole => .broken (hole.plug (.absent .other))
  | _ => .broken (hole.plug (.absent .other))

/-- What is due after a token that follows a complete value. -/
def afterCompleteToken (node : Node) : Hole → Token → Due
  | .root, _ => .trailing node
  | .item before outer, .comma => .nextValue (.item (node :: before) outer)
  | .item before outer, .closeList => .separator (.list (node :: before).reverse .closed) outer
  | .item before outer, _ => .broken (outer.plug (.list (node :: before).reverse .unseparated))
  | .entry before key outer, .comma => .nextKey ((key, node) :: before) outer
  | .entry before key outer, .closeRecord =>
      .separator (.record ((key, node) :: before).reverse .closed) outer
  | .entry before key outer, _ =>
      .broken (outer.plug (.record ((key, node) :: before).reverse .unseparated))

/-- What is due after a token where a key was due. -/
def afterKeyToken (before : List (Lexeme String × Node)) (outer : Hole) : Token → Due
  | .text key => .nextColon before key outer
  | .closeRecord =>
      match before with
      | [] => .separator (.record [] .closed) outer
      | before => .broken (outer.plug (.record before.reverse .closedAfterComma))
  | _ => .broken (outer.plug (.record before.reverse .notKey))

/-- What is due after one more token. -/
def step : Due → Token → Due
  | .nextValue hole, token => afterValueToken hole token
  | .separator node hole, token => afterCompleteToken node hole token
  | .nextKey before outer, token => afterKeyToken before outer token
  | .nextColon before key outer, .colon => .nextValue (.entry before key outer)
  | .nextColon before key outer, _ =>
      .broken (outer.plug (.record before.reverse (.noColon key .other)))
  | .broken root, _ => .broken root
  | .trailing root, _ => .trailing root

end Due

/-- A text as a tree, and whether it goes on behind a complete one. -/
structure Tree where
  root : Node
  trailing : Bool

/-- The tree of a text that ends here. -/
def Due.finish : Due → Tree
  | .nextValue (.item [] outer) => ⟨outer.plug (.list [] .endOfText), false⟩
  | .nextValue hole => ⟨hole.plug (.absent .endOfText), false⟩
  | .separator node hole => ⟨hole.plug node, false⟩
  | .nextKey [] outer => ⟨outer.plug (.record [] .endOfText), false⟩
  | .nextKey before outer => ⟨outer.plug (.record before.reverse .endAfterComma), false⟩
  | .nextColon before key outer =>
      ⟨outer.plug (.record before.reverse (.noColon key .endOfText)), false⟩
  | .broken root => ⟨root, false⟩
  | .trailing root => ⟨root, true⟩

/-- The tree that tokens form. -/
def Tree.ofTokens (tokens : List Token) : Tree :=
  (tokens.foldl Due.step (.nextValue .root)).finish

/-- The tree of a text. -/
def Tree.parse (text : String) : Tree :=
  Tree.ofTokens (Token.scan text.toList)

end SchemaNames
