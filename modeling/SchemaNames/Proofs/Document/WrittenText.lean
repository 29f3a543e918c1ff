import SchemaNames.Proofs.Document.DocumentTree
import SchemaNames.Proofs.Document.QuotedText

/-! Parsing what was written. The text of a document gives the tree of that document, in the
compact style and in every other one whose line breaks are blanks.
-/

namespace SchemaNames

/-- Holds of a style that writes only blanks between tokens. -/
structure Style.Blank (style : Style) : Prop where
  lineBreak
    : ∀ depth, ∀ c ∈ style.lineBreak depth, Token.isBlank c = true
  afterColon
    : ∀ c ∈ style.afterColon, Token.isBlank c = true

theorem Style.blank_compact : Style.compact.Blank where
  lineBreak := by simp [compact]
  afterColon := by simp [compact]

theorem Style.blank_indented : Style.indented.Blank where
  lineBreak := by
    intro depth c written
    rcases List.mem_cons.mp written with rfl | space
    · rfl
    · rw [(List.mem_replicate.mp space).2]
      rfl
  afterColon := by simp [indented, Token.isBlank]

namespace Numeral

/-- A character other than a digit, a point and the sign of an exponent ends a numeral. -/
theorem endsNumeral_cons {c : Char}
    (ends : c.isDigit = false ∧ c ≠ '.' ∧ c ≠ 'e' ∧ c ≠ 'E') (rest : List Char)
    : EndsNumeral (c :: rest) := by
  intro first same
  cases same
  exact ends

/-- Blanks end a numeral if what follows them does. -/
theorem endsNumeral_blanks {blanks rest : List Char}
    (blank : ∀ c ∈ blanks, Token.isBlank c = true) (ends : EndsNumeral rest)
    : EndsNumeral (blanks ++ rest) := by
  cases blanks with
  | nil => exact ends
  | cons c more =>
      refine endsNumeral_cons ?_ _
      have isBlank := blank c List.mem_cons_self
      simp only [Token.isBlank, Bool.or_eq_true, decide_eq_true_eq] at isBlank
      rcases isBlank with ((rfl | rfl) | rfl) | rfl <;> decide

end Numeral

open Numeral (EndsNumeral endsNumeral_cons endsNumeral_blanks)

/-- No numeral goes on behind an item, whether other items or the end of the list follow. -/
theorem Style.endsNumeral_writeItems {style : Style} (blank : style.Blank) (depth inner : Nat)
    (items : List Document) (rest : List Char)
    : EndsNumeral
        (Document.writeItems style inner items ++ (style.lineBreak depth ++ ']' :: rest)) := by
  cases items with
  | nil =>
      rw [Document.writeItems, List.nil_append]
      exact endsNumeral_blanks (blank.lineBreak depth) (endsNumeral_cons (by decide) rest)
  | cons item more => exact endsNumeral_cons (c := ',') (by decide) _

/-- No numeral goes on behind a value, whether other entries or the end of the record follow. -/
theorem Style.endsNumeral_writeEntries {style : Style} (blank : style.Blank)
    (depth inner : Nat) (entries : List (String × Document)) (rest : List Char)
    : EndsNumeral
        (Document.writeEntries style inner entries
          ++ (style.lineBreak depth ++ '\x7d' :: rest)) := by
  cases entries with
  | nil =>
      rw [Document.writeEntries, List.nil_append]
      exact endsNumeral_blanks (blank.lineBreak depth) (endsNumeral_cons (by decide) rest)
  | cons entry more => exact endsNumeral_cons (c := ',') (by decide) _

namespace Due

/-- What is due behind a text. -/
def run (due : Due) (text : List Char) : Due :=
  (Token.scan text).foldl step due

theorem run_nil (due : Due) : due.run [] = due := by
  rw [run, Token.scan]
  rfl

/-- Blanks change nothing, by induction on the blanks. -/
theorem run_blanks (due : Due) {blanks : List Char}
    (blank : ∀ c ∈ blanks, Token.isBlank c = true) (rest : List Char)
    : due.run (blanks ++ rest) = due.run rest := by
  induction blanks with
  | nil => rfl
  | cons c more ih =>
      obtain ⟨here, later⟩ := List.forall_mem_cons.mp blank
      rw [List.cons_append, run, Token.scan, if_pos here]
      exact ih later

/-- A text is passed token by token. -/
theorem run_cons (due : Due) {c : Char} (visible : Token.isBlank c = false) (rest : List Char)
    : due.run (c :: rest) = (due.step (Token.read c rest).1).run (Token.read c rest).2 := by
  rw [run, Token.scan, visible, if_neg Bool.false_ne_true, List.foldl_cons]
  rfl

/-- A mark is passed as the token that it is. -/
theorem run_mark (due : Due) (c : Char) (token : Token) (mark : Token.mark? c = some token)
    (visible : Token.isBlank c = false) (rest : List Char)
    : due.run (c :: rest) = (due.step token).run rest := by
  simp [run_cons due visible rest, Token.read, mark]

/-- A written text is passed as one token. -/
theorem run_quoted (due : Due) (content : String) (rest : List Char)
    : due.run (Quoted.write content ++ rest)
      = (due.step (.text (.accepted content))).run rest := by
  have token
      : Token.read '"' (Quoted.escapeAll content.toList ++ '"' :: rest)
        = (.text (.accepted content), rest) := by
    have noMark : Token.mark? '"' = none := by decide
    have noWord : Token.word? '"' = none := rfl
    simp only [Token.read, noMark, noWord, Quoted.read_write]
    rfl
  rw [Quoted.write, List.cons_append, List.cons_append, List.append_assoc,
    List.singleton_append, run_cons due (by decide), token]

/-- A written scalar is passed as one token, as long as no numeral would go on behind it. -/
theorem run_scalar (due : Due) (value : Scalar) {rest : List Char} (ends : EndsNumeral rest)
    : due.run (value.write ++ rest) = (due.step (.scalar value.lexeme)).run rest := by
  obtain ⟨c, others, begins, visible, token⟩ := value.exists_write_eq_cons ends
  rw [begins, due.run_cons visible, token]

/-- Further items of a list are added to it, and its end completes it. Witness: induction on the
items, whose texts are passed as their trees.
-/
theorem run_writeItems {style : Style} (blank : style.Blank) (depth inner : Nat)
    {items : List Document}
    (each
      : ∀ item ∈ items, ∀ rest hole,
          EndsNumeral rest
          → (nextValue hole).run (item.write style inner ++ rest)
            = (separator (.ofDocument item) hole).run rest)
    (node : Node) (before : List Node) (outer : Hole) (rest : List Char)
    : (separator node (.item before outer)).run
        (Document.writeItems style inner items ++ (style.lineBreak depth ++ ']' :: rest))
      = (separator (.list ((node :: before).reverse ++ Node.ofItems items) .closed) outer).run
          rest := by
  induction items generalizing node before with
  | nil =>
      rw [Document.writeItems, List.nil_append, run_blanks _ (blank.lineBreak depth),
        run_mark _ ']' .closeList rfl rfl, Node.ofItems, List.append_nil]
      rfl
  | cons item more ih =>
      obtain ⟨here, later⟩ := List.forall_mem_cons.mp each
      have ends := Style.endsNumeral_writeItems blank depth inner more rest
      simp only [Document.writeItems, List.cons_append, List.append_assoc]
      rw [run_mark _ ',' .comma rfl rfl, step, afterCompleteToken,
        run_blanks _ (blank.lineBreak inner), here _ _ ends, ih later, Node.ofItems]
      simp

/-- Further entries of a record are added to it, and its end completes it. Witness: induction on
the entries, whose keys and colons are passed before their values.
-/
theorem run_writeEntries {style : Style} (blank : style.Blank) (depth inner : Nat)
    {entries : List (String × Document)}
    (each
      : ∀ entry ∈ entries, ∀ rest hole,
          EndsNumeral rest
          → (nextValue hole).run (entry.2.write style inner ++ rest)
            = (separator (.ofDocument entry.2) hole).run rest)
    (node : Node) (before : List (Lexeme String × Node)) (key : Lexeme String) (outer : Hole)
    (rest : List Char)
    : (separator node (.entry before key outer)).run
        (Document.writeEntries style inner entries ++ (style.lineBreak depth ++ '\x7d' :: rest))
      = (separator
          (.record (((key, node) :: before).reverse ++ Node.ofEntries entries) .closed)
          outer).run rest := by
  induction entries generalizing node before key with
  | nil =>
      rw [Document.writeEntries, List.nil_append, run_blanks _ (blank.lineBreak depth),
        run_mark _ '\x7d' .closeRecord rfl rfl, Node.ofEntries, List.append_nil]
      rfl
  | cons entry more ih =>
      obtain ⟨name, value⟩ := entry
      obtain ⟨here, later⟩ := List.forall_mem_cons.mp each
      have ends := Style.endsNumeral_writeEntries blank depth inner more rest
      simp only [Document.writeEntries, List.cons_append, List.append_assoc]
      rw [run_mark _ ',' .comma rfl rfl, step, afterCompleteToken,
        run_blanks _ (blank.lineBreak inner), run_quoted, step, afterKeyToken,
        run_mark _ ':' .colon rfl rfl, step, run_blanks _ blank.afterColon, here _ _ ends,
        ih later, Node.ofEntries]
      simp

/-- The text of a document is passed as its tree. Witness: induction on the document, whose items
or values are passed one after the other.
-/
theorem run_write {style : Style} (blank : style.Blank) (document : Document) (depth : Nat)
    {rest : List Char} (ends : EndsNumeral rest) (hole : Hole)
    : (nextValue hole).run (document.write style depth ++ rest)
      = (separator (.ofDocument document) hole).run rest := by
  induction document using Document.induction generalizing depth rest hole with
  | scalar value => exact run_scalar _ value ends
  | text content => exact run_quoted _ content rest
  | list items ih =>
      cases items with
      | nil =>
          rw [Document.write, List.cons_append, run_mark _ '[' .openList rfl rfl,
            List.singleton_append, run_mark _ ']' .closeList rfl rfl]
          rfl
      | cons item more =>
          obtain ⟨here, later⟩ := List.forall_mem_cons.mp ih
          simp only [Document.write, List.cons_append, List.append_assoc, List.nil_append]
          rw [run_mark _ '[' .openList rfl rfl, step, afterValueToken,
            run_blanks _ (blank.lineBreak (depth + 1)),
            here _ (Style.endsNumeral_writeItems blank depth (depth + 1) more rest),
            run_writeItems blank depth (depth + 1) fun item listed _ hole ends =>
              later item listed (depth + 1) ends hole]
          rfl
  | record entries ih =>
      cases entries with
      | nil =>
          rw [Document.write, List.cons_append, run_mark _ '\x7b' .openRecord rfl rfl,
            List.singleton_append, run_mark _ '\x7d' .closeRecord rfl rfl]
          rfl
      | cons entry more =>
          obtain ⟨name, value⟩ := entry
          obtain ⟨here, later⟩ := List.forall_mem_cons.mp ih
          simp only [Document.write, List.cons_append, List.append_assoc, List.nil_append]
          rw [run_mark _ '\x7b' .openRecord rfl rfl, step, afterValueToken,
            run_blanks _ (blank.lineBreak (depth + 1)), run_quoted, step, afterKeyToken,
            run_mark _ ':' .colon rfl rfl, step, run_blanks _ blank.afterColon,
            here _ (Style.endsNumeral_writeEntries blank depth (depth + 1) more rest),
            run_writeEntries blank depth (depth + 1) fun entry listed _ hole ends =>
              later entry listed (depth + 1) ends hole]
          rfl

end Due

/-- The text of a document parses to its tree, and nothing is left behind it. -/
theorem Tree.parse_write {style : Style} (blank : style.Blank) (document : Document)
    : Tree.parse (String.ofList (document.write style 0)) = ⟨.ofDocument document, false⟩ := by
  have passed := Due.run_write blank document 0 Numeral.endsNumeral_nil .root
  rw [List.append_nil, Due.run_nil, Due.run] at passed
  rw [parse, ofTokens, String.toList_ofList, passed]
  rfl

/-- The text of a document that is not too deep is read as the document. -/
theorem Document.parse_write {style : Style} (blank : style.Blank) {document : Document}
    (within : document.Within depthLimit)
    : Document.parse (String.ofList (document.write style 0)) = .ok document := by
  rw [parse, Tree.parse_write blank document]
  change (Node.ofDocument document).toDocument depthLimit >>= _ = _
  rw [within.toDocument_ofDocument]
  rfl

/-- The compact text of a document parses to its tree. -/
theorem Tree.parse_compact (document : Document)
    : Tree.parse document.compact = ⟨.ofDocument document, false⟩ :=
  parse_write Style.blank_compact document

/-- The indented text of a document parses to its tree. -/
theorem Tree.parse_indented (document : Document)
    : Tree.parse document.indented = ⟨.ofDocument document, false⟩ :=
  parse_write Style.blank_indented document

end SchemaNames
