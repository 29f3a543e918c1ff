import SchemaNames.Document.Quoted
import SchemaNames.Document.Numeral

/-! The tokens of a text. Blanks stand between tokens and are dropped; a token that breaks off
is the last one.
-/

namespace SchemaNames

inductive Token where
  | openList
  | closeList
  | openRecord
  | closeRecord
  | comma
  | colon
  | text (content : Lexeme String)
  | scalar (content : Lexeme Scalar)
  /-- A character that begins no token. -/
  | stray

namespace Token

/-- Space, tab, line feed and carriage return are the blanks. -/
def isBlank (c : Char) : Bool :=
  c = ' ' || c = '\t' || c = '\n' || c = '\r'

/-- The token that one character is. -/
def mark? (c : Char) : Option Token :=
  if c = '[' then some .openList
  else if c = ']' then some .closeList
  else if c = '\x7b' then some .openRecord
  else if c = '\x7d' then some .closeRecord
  else if c = ',' then some .comma
  else if c = ':' then some .colon
  else none

/-- Reads the rest of a word that stands for a value. -/
def readWord (value : Scalar) : List Char → List Char → Lexeme Scalar × List Char
  | [], cs => (⟨.ok value, .ok ()⟩, cs)
  | _ :: _, [] => (⟨.error .endOfValue, .error .endOfValue⟩, [])
  | w :: ws, c :: cs =>
      if w = c then readWord value ws cs
      else (⟨.error .expectedWord, .error .expectedWord⟩, [])

/-- The words for values, each by its first character, the others and its value. -/
def word? (c : Char) : Option (List Char × Scalar) :=
  if c = 'n' then some (['u', 'l', 'l'], .null)
  else if c = 't' then some (['r', 'u', 'e'], .boolean true)
  else if c = 'f' then some (['a', 'l', 's', 'e'], .boolean false)
  else none

/-- Reads a token from its first character on, and gives what follows it. -/
def read (c : Char) (rest : List Char) : Token × List Char :=
  match mark? c with
  | some token => (token, rest)
  | none =>
      match word? c with
      | some (word, value) =>
          let (content, rest) := readWord value word rest
          (.scalar content, rest)
      | none =>
          if c = '"' then
            let (content, rest) := Quoted.read rest
            (.text content, rest)
          else if c = '-' ∨ c.isDigit then
            let (content, rest) := Numeral.read c rest
            (.scalar content, rest)
          else
            (.stray, rest)

theorem length_rest_readWord_le (value : Scalar) (word cs : List Char)
    : (readWord value word cs).2.length ≤ cs.length := by
  fun_induction readWord value word cs <;> simp_all
  omega

theorem length_rest_read_le (c : Char) (rest : List Char)
    : (read c rest).2.length ≤ rest.length := by
  unfold read
  split
  · exact Nat.le_refl _
  · split
    · exact length_rest_readWord_le _ _ _
    · split
      · exact Quoted.length_rest_split_le rest
      · split
        · exact Numeral.length_rest_read_le c rest
        · exact Nat.le_refl _

/-- The tokens of a text. -/
def scan : List Char → List Token
  | [] => []
  | c :: rest =>
      if isBlank c then
        scan rest
      else
        (read c rest).1 :: scan (read c rest).2
termination_by text => text.length
decreasing_by
  · simp
  · exact Nat.lt_succ_of_le (length_rest_read_le c rest)

end Token

end SchemaNames
