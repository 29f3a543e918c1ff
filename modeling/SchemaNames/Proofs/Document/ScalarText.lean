import SchemaNames.Document.Token
import SchemaNames.Document.Write
import SchemaNames.Proofs.Document.FloatText

/-! Reading written scalars. The text of every scalar is one token, and a scalar without fraction
that fits in 64 bits is read as itself; a number that does not fit is never read as an integer.
-/

namespace SchemaNames

open Numeral (EndsNumeral)

/-- Holds of a scalar without a fraction that is kept exactly when it is read. -/
def Scalar.Exact : Scalar → Prop
  | .null => True
  | .boolean _ => True
  | .integer value => Is64Bit value
  | .float _ => False

/-- A part of a text that is accepted under both readings. -/
def Lexeme.accepted {α : Type} (content : α) : Lexeme α :=
  { reading := .ok content, skipping := .ok () }

/-- What the text of a scalar is read as. -/
def Scalar.lexeme (value : Scalar) : Lexeme Scalar :=
  match value.write with
  | [] => .accepted value
  | c :: rest =>
      match (Token.read c rest).1 with
      | .scalar content => content
      | _ => .accepted value

-----------------------------------------------------------------------------------------
-- Tokens
-----------------------------------------------------------------------------------------

/-- A written word is one token. -/
theorem Token.read_word {c : Char} {others : List Char} {value : Scalar}
    (word : word? c = some (others, value)) (noMark : mark? c = none) (rest : List Char)
    : read c (others ++ rest) = (.scalar (.accepted value), rest) := by
  have whole (cs : List Char) : readWord value cs (cs ++ rest) = (.accepted value, rest) := by
    induction cs with
    | nil => rfl
    | cons w ws ih => simpa [readWord] using ih
  simp [read, noMark, word, whole]

/-- A character that begins a numeral is no blank and begins no other token. -/
theorem Token.read_numeral {c : Char} (starts : c = '-' ∨ c.isDigit = true) (rest : List Char)
    : isBlank c = false
      ∧ read c rest = (.scalar (Numeral.read c rest).1, (Numeral.read c rest).2) := by
  have differs {d : Char} (other : d ≠ '-' ∧ d.isDigit = false) : c ≠ d := by
    rintro rfl
    rcases starts with minus | digit
    · exact other.1 minus
    · exact absurd digit (by simp [other.2])
  have noMark : mark? c = none := by
    simp (disch := decide) [mark?, differs]
  have noWord : word? c = none := by
    simp (disch := decide) [word?, differs]
  have noQuote : c ≠ '"' := differs (by decide)
  refine ⟨by simp (disch := decide) [isBlank, differs], ?_⟩
  simp [read, noMark, noWord, noQuote, starts]

namespace Scalar

/-- The text of a scalar that is written as a numeral is one token, which denotes what the
numeral does.
-/
theorem token_of_numeral (value : Scalar) {n : Numeral} (wellFormed : n.WellFormed)
    (written : value.write = n.text) {rest : List Char} (ends : EndsNumeral rest)
    : ∃ c others,
        value.write ++ rest = c :: others
        ∧ Token.isBlank c = false
        ∧ Token.read c others = (.scalar ⟨n.value, .ok ()⟩, rest) := by
  obtain ⟨c, others, begins, starts, read⟩ := Numeral.exists_text_eq_cons wellFormed ends
  obtain ⟨visible, token⟩ := Token.read_numeral starts others
  exact ⟨c, others, by rw [written, begins], visible, by rw [token, read]⟩

/-- What the text of a scalar that is written as a numeral is read as. -/
theorem lexeme_of_numeral (value : Scalar) {n : Numeral} (wellFormed : n.WellFormed)
    (written : value.write = n.text)
    : value.lexeme = ⟨n.value, .ok ()⟩ := by
  obtain ⟨c, others, begins, -, token⟩ :=
    value.token_of_numeral wellFormed written Numeral.endsNumeral_nil
  rw [List.append_nil] at begins
  simp only [lexeme, begins, token]

/-- An integer is read as its numeral. -/
theorem lexeme_integer (value : Int)
    : (integer value).lexeme = ⟨(Numeral.ofInteger value).value, .ok ()⟩ :=
  lexeme_of_numeral _ (Numeral.wellFormed_ofInteger value) (Numeral.text_ofInteger value).symm

/-- The text of a scalar is one token, by cases on the scalar. -/
theorem exists_write_eq_cons (value : Scalar) {rest : List Char} (ends : EndsNumeral rest)
    : ∃ c others,
        value.write ++ rest = c :: others
        ∧ Token.isBlank c = false
        ∧ Token.read c others = (.scalar value.lexeme, rest) := by
  match value with
  | .null => exact ⟨_, _, rfl, rfl, Token.read_word rfl rfl rest⟩
  | .boolean true => exact ⟨_, _, rfl, rfl, Token.read_word rfl rfl rest⟩
  | .boolean false => exact ⟨_, _, rfl, rfl, Token.read_word rfl rfl rest⟩
  | .integer value =>
      rw [lexeme_integer]
      exact token_of_numeral (.integer value) (Numeral.wellFormed_ofInteger value)
        (Numeral.text_ofInteger value).symm ends
  | .float x =>
      obtain ⟨n, wellFormed, written, -⟩ := Numeral.exists_text_eq_floatText x.toBits.toNat
      rw [lexeme_of_numeral (.float x) wellFormed written]
      exact token_of_numeral (.float x) wellFormed written ends

-----------------------------------------------------------------------------------------
-- Values
-----------------------------------------------------------------------------------------

/-- The text of a scalar can always be skipped. -/
theorem skipping_lexeme (value : Scalar)
    : value.lexeme.skipping = .ok () := by
  match value with
  | .null | .boolean true | .boolean false => rfl
  | .integer value => rw [lexeme_integer]
  | .float x =>
      obtain ⟨n, wellFormed, written, -⟩ := Numeral.exists_text_eq_floatText x.toBits.toNat
      rw [lexeme_of_numeral (.float x) wellFormed written]

/-- A number of 64 bits is kept exactly. -/
theorem exact_toNat (value : UInt64)
    : (integer value.toNat).Exact :=
  ⟨by omega, Int.ofNat_lt.mpr value.toNat_lt⟩

/-- A scalar that is kept exactly is read as itself. -/
theorem Exact.lexeme_eq {value : Scalar} (exact : value.Exact)
    : value.lexeme = .accepted value := by
  match value, exact with
  | .null, _ => rfl
  | .boolean true, _ => rfl
  | .boolean false, _ => rfl
  | .integer value, bits =>
      rw [lexeme_integer, Numeral.value_ofInteger bits]
      rfl

/-- Only null is read as null, as a numeral denotes a number. -/
theorem eq_null_of_reading {value : Scalar} (read : value.lexeme.reading = .ok .null)
    : value = .null := by
  have numeral {n : Numeral} : n.value ≠ .ok .null := by
    intro denoted
    rcases Numeral.value_cases denoted with ⟨x, float⟩ | ⟨-, -, k, isInteger, -⟩
    · cases float
    · cases isInteger
  match value with
  | .null => rfl
  | .boolean true | .boolean false => cases read
  | .integer value =>
      rw [lexeme_integer] at read
      exact absurd read numeral
  | .float x =>
      obtain ⟨n, wellFormed, written, -⟩ := Numeral.exists_text_eq_floatText x.toBits.toNat
      rw [lexeme_of_numeral (.float x) wellFormed written] at read
      exact absurd read numeral

/-- Only an integer of 64 bits is read as an integer, and then as itself. Witness: a binary64 number
is written with a fraction or an exponent, and the numeral of an integer keeps its digits.
-/
theorem eq_integer_of_reading {value : Scalar} {k : Int}
    (read : value.lexeme.reading = .ok (.integer k))
    : value = .integer k ∧ Is64Bit k := by
  match value with
  | .null | .boolean true | .boolean false => cases read
  | .integer value =>
      rw [lexeme_integer] at read
      obtain ⟨rfl, bits⟩ := Numeral.eq_of_value_ofInteger read
      exact ⟨rfl, bits⟩
  | .float x =>
      obtain ⟨n, wellFormed, written, fractional⟩ :=
        Numeral.exists_text_eq_floatText x.toBits.toNat
      rw [lexeme_of_numeral (.float x) wellFormed written] at read
      rcases Numeral.value_cases read with ⟨y, float⟩ | ⟨noExponent, noFraction, -⟩
      · cases float
      · rcases fractional with fraction | exponent
        · exact absurd noFraction fraction
        · exact absurd noExponent exponent

end Scalar

end SchemaNames
