import Mathlib.Data.List.Forall2
import SchemaNames.Proofs.Loading.OptionsEntries

/-! Settings from a text that is no record. A list of at most three texts gives the first settings
in their order; any other such text is refused.
-/

namespace SchemaNames

-----------------------------------------------------------------------------------------
-- Trees of texts
-----------------------------------------------------------------------------------------

/-- A list that is read to its end without fault is closed, by cases on its end. -/
theorem ListEnd.eq_closed_of_check {ending : ListEnd} (read : ending.check = .ok ())
    : ending = .closed := by
  cases ending with
  | closed => rfl
  | closedAfterComma | endOfText | unseparated => cases read

/-- So is a list of which nothing more is wanted. -/
theorem ListEnd.eq_closed_of_checkFull {ending : ListEnd} (read : ending.checkFull = .ok ())
    : ending = .closed := by
  cases ending with
  | closed => rfl
  | closedAfterComma | endOfText | unseparated => cases read

namespace Node

/-- Holds of trees that are read as texts, one for one. -/
def ReadAsTexts : List Node → List String → Prop :=
  List.Forall₂ fun node content => node.readText .text = .ok content

/-- A tree is read as a text exactly if it is the tree of that text. -/
theorem readText_eq_ok_iff (room : Nat) {node : Node} {content : String}
    : node.readText .text = .ok content ↔ node.toDocument room = .ok (.text content) := by
  cases node with
  | absent gap => constructor <;> (intro read; cases read)
  | text lexeme =>
      rw [readText, toDocument]
      cases lexeme.reading with
      | error fault => constructor <;> (intro read; cases read)
      | ok found => simp [orMalformed_ok]
  | scalar lexeme =>
      constructor
      · intro read
        cases read
      · intro read
        obtain ⟨value, -, same⟩ := exists_of_bind_eq_ok read
        cases same
  | list _ ending | record _ ending =>
      constructor
      · intro read
        cases read
      · intro read
        cases room with
        | zero => cases read
        | succ room =>
            obtain ⟨documents, -, read⟩ := exists_of_bind_eq_ok read
            obtain ⟨-, -, same⟩ := exists_of_bind_eq_ok read
            cases same

/-- Trees are read as texts exactly if they are the trees of these texts, by induction on the
trees.
-/
theorem readAsTexts_iff (room : Nat) {items : List Node} {contents : List String}
    : ReadAsTexts items contents ↔ toDocuments room items = .ok (contents.map .text) := by
  induction items generalizing contents with
  | nil =>
      cases contents with
      | nil => exact ⟨fun _ => rfl, fun _ => .nil⟩
      | cons => exact ⟨nofun, nofun⟩
  | cons node rest ih =>
      rw [toDocuments]
      constructor
      · intro texts
        cases texts with
        | cons here later =>
            rw [(readText_eq_ok_iff room).mp here, ih.mp later]
            rfl
      · intro read
        obtain ⟨document, here, read⟩ := exists_of_bind_eq_ok read
        obtain ⟨documents, later, same⟩ := exists_of_bind_eq_ok read
        cases contents with
        | nil => cases same
        | cons content others =>
            obtain ⟨rfl, rfl⟩ := List.cons.inj (Except.ok.inj same)
            exact .cons ((readText_eq_ok_iff room).mpr here) (ih.mpr later)

/-- A tree is the tree of a list exactly if it is a closed list of the trees of the items. -/
theorem toDocument_eq_list_iff {room : Nat} {node : Node} {documents : List Document}
    : node.toDocument (room + 1) = .ok (.list documents)
      ↔ ∃ items, node = .list items .closed ∧ toDocuments room items = .ok documents := by
  constructor
  · intro read
    cases node with
    | absent gap => cases read
    | text lexeme | scalar lexeme =>
        obtain ⟨_, -, same⟩ := exists_of_bind_eq_ok read
        cases same
    | list items ending =>
        obtain ⟨found, all, read⟩ := exists_of_bind_eq_ok read
        obtain ⟨_, closed, same⟩ := exists_of_bind_eq_ok read
        obtain rfl := ListEnd.eq_closed_of_check closed
        cases same
        exact ⟨items, rfl, all⟩
    | record entries ending =>
        obtain ⟨_, -, read⟩ := exists_of_bind_eq_ok read
        obtain ⟨-, -, same⟩ := exists_of_bind_eq_ok read
        cases same
  · intro listed
    obtain ⟨items, rfl, all⟩ := listed
    rw [toDocument, all]
    rfl

section

variable {kind : RecordKind} {level : Level} {slots final : Slots kind} {ending : ListEnd}

/-- Trees that are read for fields that are texts are read as texts, and their list is closed, by
induction on the trees.
-/
theorem exists_readAsTexts_of_readInOrder (texts : ∀ i, kind.shape i = .text) {index : Nat}
    {items : List Node} (read : readInOrder kind level index slots ending items = .ok final)
    : ending = .closed ∧ ∃ contents, ReadAsTexts items contents := by
  induction items generalizing index slots with
  | nil =>
      rw [readInOrder] at read
      split at read
      · obtain ⟨_, closed, -⟩ := exists_of_bind_eq_ok read
        exact ⟨ListEnd.eq_closed_of_check (eq_ok_of_orMalformed closed), [], .nil⟩
      · obtain ⟨_, closed, -⟩ := exists_of_bind_eq_ok read
        exact ⟨ListEnd.eq_closed_of_checkFull closed, [], .nil⟩
  | cons node rest ih =>
      rw [readInOrder] at read
      split at read
      · next room =>
          obtain ⟨value, here, read⟩ := exists_of_bind_eq_ok read
          have isText {shape : Shape} (same : shape = .text) {value : shape.Value}
              (read : node.read shape level = .ok value)
              : ∃ content, node.readText .text = .ok content := by
            subst same
            rw [Node.read] at read
            exact ⟨value, read⟩
          obtain ⟨content, here⟩ := isText (texts ⟨index, room⟩) here
          obtain ⟨closed, contents, later⟩ := ih read
          exact ⟨closed, content :: contents, .cons here later⟩
      · cases read

/-- A list has as many trees as items, by induction on the items. -/
theorem length_ofItems (items : List Document) : (ofItems items).length = items.length := by
  induction items with
  | nil => rfl
  | cons item rest ih => rw [ofItems, List.length_cons, List.length_cons, ih]

/-- Trees that are read as texts fill fields that are texts like the trees of these texts do, by
induction on the trees.
-/
theorem readInOrder_of_readAsTexts (texts : ∀ i, kind.shape i = .text) (index : Nat)
    {items : List Node} {contents : List String} (same : ReadAsTexts items contents)
    : readInOrder kind level index slots ending items
      = readInOrder kind level index slots ending (ofItems (contents.map .text)) := by
  induction same generalizing index slots with
  | nil => rfl
  | @cons node content rest others here later ih =>
      have sameText {shape : Shape} (isText : shape = .text)
          : node.read shape level = (Node.text (.accepted content)).read shape level := by
        subst isText
        rw [Node.read, here]
        rfl
      have sameLength : rest.length = (ofItems (others.map .text)).length := by
        rw [length_ofItems, List.length_map, later.length_eq]
      rw [List.map_cons, ofItems, readInOrder, readInOrder]
      simp only [sameText (texts _), ih, sameLength, ofDocument]

end

end Node

-----------------------------------------------------------------------------------------
-- Texts that load
-----------------------------------------------------------------------------------------

/-- A text is a document if its tree is the tree of the document and nothing stands behind it. -/
theorem Document.parse_eq_ok_iff {text : String} {document : Document}
    : Document.parse text = .ok document
      ↔ (Tree.parse text).root.toDocument depthLimit = .ok document
        ∧ (Tree.parse text).checkTrailing = .ok () := by
  constructor
  · intro parsed
    obtain ⟨found, root, parsed⟩ := exists_of_bind_eq_ok parsed
    obtain ⟨_, behind, same⟩ := exists_of_bind_eq_ok parsed
    rw [Except.ok.inj same] at root
    exact ⟨root, behind⟩
  · intro both
    obtain ⟨root, behind⟩ := both
    rw [parse, root, ok_bind, behind]
    rfl

/-- A text loads as a value if its tree is read as the value and nothing stands behind it. -/
theorem Shape.loadModel_eq_ok_iff {shape : Shape} {text : String} {value : shape.Value}
    : shape.loadModel text = .ok value
      ↔ (Tree.parse text).root.read shape (.streamed depthLimit) = .ok value
        ∧ (Tree.parse text).checkTrailing = .ok () := by
  constructor
  · intro loaded
    obtain ⟨found, root, loaded⟩ := exists_of_bind_eq_ok (load_of_loadModel loaded)
    obtain ⟨_, behind, same⟩ := exists_of_bind_eq_ok loaded
    rw [Except.ok.inj same] at root
    exact ⟨root, eq_ok_of_orMalformed behind⟩
  · intro both
    obtain ⟨root, behind⟩ := both
    rw [loadModel, load, root, ok_bind, behind]
    rfl

namespace GivesText

/-- A text in a list gives the field of its place a content, and the fallback is the content behind
the list.
-/
theorem iff_getD {fallback content : String} (contents : List String) (index : Nat)
    : GivesText fallback ((contents.map Document.text)[index]?.toList) content
      ↔ content = contents[index]?.getD fallback := by
  rw [List.getElem?_map, GivesText]
  cases contents[index]? with
  | none => simp
  | some found => simp [eq_comm]

end GivesText

namespace Options

/-- Settings of which the first ones are given in their order; the others have their defaults. -/
def ofTexts (contents : List String) : Options :=
  let defaults : Options := {}
  { language := contents[0]?.getD defaults.language
    requestSuffix := contents[1]?.getD defaults.requestSuffix
    responseSuffix := contents[2]?.getD defaults.responseSuffix }

/-- (Listed text contents) says that a text is a list of these texts, which are at most three. -/
def Listed (text : String) (contents : List String) : Prop :=
  Document.parse text = .ok (.list (contents.map .text)) ∧ contents.length ≤ 3

/-- Every setting is a text. -/
theorem shape_eq_text : ∀ i, RecordKind.options.shape i = .text := by
  decide

/-- A list of texts represents the settings that it begins with, if it is not too long. -/
theorem represents_texts_iff {contents : List String} {options : Options}
    : Represents (.record .options) (.list (contents.map .text)) options
      ↔ contents.length ≤ 3 ∧ options = ofTexts contents := by
  rw [Represents.inOrder_iff, List.length_map, exists_gives_iff]
  simp only [GivesText.iff_getD]
  refine and_congr_right fun _ => ?_
  constructor
  · intro fieldwise
    obtain ⟨language, request, response⟩ := fieldwise
    cases options
    simp only [ofTexts, ← language, ← request, ← response]
  · intro same
    subst same
    exact ⟨rfl, rfl, rfl⟩

/-- A closed list of trees that are read as texts is read as the settings that the texts begin with,
if these are not too many.
-/
theorem read_list_iff {items : List Node} {contents : List String}
    (texts : Node.ReadAsTexts items contents) {options : Options}
    : (Node.list items .closed).read (.record .options) (.streamed depthLimit) = .ok options
      ↔ contents.length ≤ 3 ∧ options = ofTexts contents := by
  have sameReading
      : (Node.list items .closed).read (.record .options) (.streamed depthLimit)
        = (Node.ofDocument (.list (contents.map .text))).read (.record .options)
            (.streamed depthLimit) := by
    simp only [Node.read, Node.ofDocument, Node.readInOrder_of_readAsTexts shape_eq_text 0 texts]
  rw [sameReading, ← represents_texts_iff]
  constructor
  · intro read
    exact .of_read _ read
  · intro represents
    refine represents.read_ofDocument (.streamed depthLimit) (.list fun item listed => ?_)
    obtain ⟨content, -, rfl⟩ := List.mem_map.mp listed
    exact .text content

/-- A list of at most three texts loads. -/
theorem load_of_listed {text : String} {contents : List String} (listed : Listed text contents)
    : Options.load text = .ok (ofTexts contents) := by
  obtain ⟨parsed, short⟩ := listed
  obtain ⟨root, behind⟩ := Document.parse_eq_ok_iff.mp parsed
  obtain ⟨items, isList, all⟩ := Node.toDocument_eq_list_iff.mp root
  refine Shape.loadModel_eq_ok_iff.mpr ⟨?_, behind⟩
  rw [isList]
  exact (read_list_iff ((Node.readAsTexts_iff _).mpr all)).mpr ⟨short, rfl⟩

/-- Only a list of at most three texts loads, unless it is a record. Witness: the root is a list, as
all else is of the wrong type, and each of its items is read as a text.
-/
theorem exists_listed_of_load {text : String}
    (notRecord : ∀ entries ending, (Tree.parse text).root ≠ .record entries ending)
    {options : Options} (loaded : Options.load text = .ok options)
    : ∃ contents, Listed text contents ∧ options = ofTexts contents := by
  obtain ⟨read, behind⟩ := Shape.loadModel_eq_ok_iff.mp loaded
  cases root : (Tree.parse text).root with
  | absent gap | text lexeme | scalar lexeme =>
      rw [root] at read
      cases read
  | record entries ending => exact absurd root (notRecord entries ending)
  | list items ending =>
      rw [root] at read
      obtain ⟨inner, -, bound⟩ := exists_of_bind_eq_ok read
      obtain ⟨slots, inOrder, -⟩ := exists_of_bind_eq_ok bound
      obtain ⟨rfl, contents, texts⟩ :=
        Node.exists_readAsTexts_of_readInOrder shape_eq_text inOrder
      obtain ⟨short, same⟩ := (read_list_iff texts).mp read
      refine ⟨contents, ⟨Document.parse_eq_ok_iff.mpr ⟨?_, behind⟩, short⟩, same⟩
      rw [root]
      exact Node.toDocument_eq_list_iff.mpr ⟨items, rfl, (Node.readAsTexts_iff _).mp texts⟩

/-- Of all texts that are no record exactly those load as settings that are a list of at most three
texts. These are the language and the two suffixes, as far as the list goes, and the others have
their defaults. All other such texts are failures to load.
-/
theorem load_of_not_record {text : String}
    (notRecord : ∀ entries ending, (Tree.parse text).root ≠ .record entries ending)
    : (∀ options,
        Options.load text = .ok options
        ↔ ∃ contents, Listed text contents ∧ options = ofTexts contents)
      ∧ ((∃ message, Options.load text = .error (.model message))
        ↔ ¬ ∃ contents, Listed text contents) := by
  refine ⟨fun options => ⟨exists_listed_of_load notRecord, ?_⟩, ?_, ?_⟩
  · intro listed
    obtain ⟨contents, listed, rfl⟩ := listed
    exact load_of_listed listed
  · intro failed someListed
    obtain ⟨message, failed⟩ := failed
    obtain ⟨contents, listed⟩ := someListed
    rw [load_of_listed listed] at failed
    cases failed
  · intro noneListed
    apply Shape.exists_loadModel_eq_error
    intro options loaded
    obtain ⟨contents, listed, -⟩ := exists_listed_of_load notRecord loaded
    exact noneListed ⟨contents, listed⟩

/-- A list of two texts loads from several lines with the default for the second suffix, and a list
of two numbers is refused.
-/
theorem load_of_not_record_twoItems
    : let texts : Document := .list [.text "java", .text "Query"]
      let numbers : Document := .list [.integer 1, .integer 2]
      (∀ entries ending, (Tree.parse texts.indented).root ≠ .record entries ending)
      ∧ Options.load texts.indented = .ok { language := "java", requestSuffix := "Query" }
      ∧ (∀ entries ending, (Tree.parse numbers.compact).root ≠ .record entries ending)
      ∧ ∃ message, Options.load numbers.compact = .error (.model message) := by
  intro texts numbers
  have noRecord : ∀ entries ending, (Tree.parse texts.indented).root ≠ .record entries ending := by
    intro entries ending
    rw [Tree.parse_indented]
    exact nofun
  have noRecordToo
      : ∀ entries ending, (Tree.parse numbers.compact).root ≠ .record entries ending := by
    intro entries ending
    rw [Tree.parse_compact]
    exact nofun
  have textsWithin : texts.Within depthLimit := by
    simp [texts, depthLimit]
  have numbersWithin : numbers.Within depthLimit := by
    simp [numbers, Document.integer, Scalar.Exact, Is64Bit, depthLimit]
  obtain ⟨loads, -⟩ := load_of_not_record noRecord
  obtain ⟨-, fails⟩ := load_of_not_record noRecordToo
  refine ⟨noRecord, (loads _).mpr ⟨["java", "Query"], ⟨?_, by decide⟩, rfl⟩, noRecordToo,
    fails.mpr ?_⟩
  · exact Document.parse_write Style.blank_indented textsWithin
  · intro someListed
    obtain ⟨contents, parsed, -⟩ := someListed
    have same : .list [.integer 1, .integer 2] = Document.list (contents.map .text) :=
      Except.ok.inj ((Document.parse_write Style.blank_compact numbersWithin).symm.trans parsed)
    cases contents <;> cases same

/-- A text that is no record is not always refused: the empty list loads as the defaults. -/
theorem not_refused_without_record
    : ¬ ∀ text document,
          Document.parse text = .ok document
          → (∀ entries, document ≠ .record entries)
          → ∃ message, Options.load text = .error (.model message) := by
  intro refused
  have within : (Document.list []).Within depthLimit := .list nofun
  have written : (Document.list []).compact = "[]" := rfl
  have parsed : Document.parse "[]" = .ok (.list []) := by
    rw [← written]
    exact Document.parse_write Style.blank_compact within
  have listed : Listed "[]" [] := ⟨parsed, Nat.zero_le 3⟩
  obtain ⟨message, failed⟩ := refused "[]" (.list []) parsed nofun
  rw [load_of_listed listed] at failed
  cases failed

end Options

end SchemaNames
