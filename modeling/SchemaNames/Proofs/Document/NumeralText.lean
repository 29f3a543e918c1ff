import SchemaNames.Document.Numeral

/-! Reading written numerals. The text of a numeral with the right digits in each of its parts
reads back as these parts, as long as nothing follows it that would go on with the numeral.
-/

namespace SchemaNames.Numeral

open Numeric

-----------------------------------------------------------------------------------------
-- Numerals and their texts
-----------------------------------------------------------------------------------------

/-- Holds of a numeral whose parts are digits: some before the point, of which none but the last
may follow a zero, any number behind it, and some in an exponent.
-/
structure WellFormed (n : Numeral) : Prop where
  nonempty : n.whole ≠ []
  whole : ∀ c ∈ n.whole, c.isDigit = true
  leading : n.whole.head? = some '0' → n.whole = ['0']
  fraction : ∀ c ∈ n.fraction, c.isDigit = true
  exponent
    : ∀ negative digits,
        n.exponent = some (negative, digits)
        → digits ≠ [] ∧ ∀ c ∈ digits, c.isDigit = true

/-- The text of the digits behind a point, if there are any. -/
def fractionText : List Char → List Char
  | [] => []
  | c :: rest => '.' :: c :: rest

/-- The text of an exponent, always with a sign. -/
def exponentText : Option (Bool × List Char) → List Char
  | none => []
  | some (negative, digits) => 'e' :: (if negative then '-' else '+') :: digits

/-- The text of a numeral without its sign. -/
def unsignedText (n : Numeral) : List Char :=
  n.whole ++ (fractionText n.fraction ++ exponentText n.exponent)

/-- The text of a numeral. -/
def text (n : Numeral) : List Char :=
  (if n.negative then ['-'] else []) ++ n.unsignedText

-----------------------------------------------------------------------------------------
-- What may follow a part
-----------------------------------------------------------------------------------------

/-- Holds of what does not go on with a numeral when it follows one. -/
def EndsNumeral (rest : List Char) : Prop :=
  ∀ c, rest.head? = some c → c.isDigit = false ∧ c ≠ '.' ∧ c ≠ 'e' ∧ c ≠ 'E'

theorem endsNumeral_nil : EndsNumeral [] := by
  intro c first
  cases first

/-- Holds of what does not go on with digits when it follows some. -/
def EndsDigits (rest : List Char) : Prop :=
  ∀ c, rest.head? = some c → c.isDigit = false

/-- Behind a fraction neither further digits nor a second point follow. -/
theorem EndsNumeral.exponentText {rest : List Char} (ends : EndsNumeral rest)
    (exponent : Option (Bool × List Char))
    : EndsDigits (exponentText exponent ++ rest)
      ∧ (Numeral.exponentText exponent ++ rest).head? ≠ some '.' := by
  cases exponent with
  | none => exact ⟨fun c first => (ends c first).1, fun point => (ends '.' point).2.1 rfl⟩
  | some parts =>
      refine ⟨fun c first => ?_, by simp [Numeral.exponentText]⟩
      obtain rfl : 'e' = c := by simpa [Numeral.exponentText] using first
      decide

/-- Behind the digits before a point no further digits follow. -/
theorem EndsDigits.fractionText {rest : List Char} (ends : EndsDigits rest)
    (fraction : List Char)
    : EndsDigits (fractionText fraction ++ rest) := by
  cases fraction with
  | nil => exact ends
  | cons digit others =>
      intro c first
      obtain rfl : '.' = c := by simpa [Numeral.fractionText] using first
      decide

-----------------------------------------------------------------------------------------
-- Reading part by part
-----------------------------------------------------------------------------------------

/-- Digits are read as far as they go. -/
theorem readDigits_append {digits rest : List Char} (nonempty : digits ≠ [])
    (digit : ∀ c ∈ digits, c.isDigit = true) (ends : EndsDigits rest)
    : readDigits (digits ++ rest) = .ok (digits, rest) := by
  cases digits with
  | nil => contradiction
  | cons first others =>
      obtain ⟨here, later⟩ := List.forall_mem_cons.mp digit
      have stops : rest.takeWhile Char.isDigit = [] ∧ rest.dropWhile Char.isDigit = rest := by
        cases rest with
        | nil => exact ⟨rfl, rfl⟩
        | cons c more => simp [ends c rfl]
      rw [List.cons_append, readDigits, if_pos here, List.takeWhile_append_of_pos later,
        List.dropWhile_append_of_pos later, stops.1, stops.2, List.append_nil]

/-- The digits before a point are read as the whole part, by cases on a leading zero. -/
theorem readWhole_append {n : Numeral} (wellFormed : n.WellFormed) {rest : List Char}
    (ends : EndsDigits rest)
    : readWhole (n.whole ++ rest) = .ok (n.whole, rest) := by
  cases digits : n.whole with
  | nil => exact absurd digits wellFormed.nonempty
  | cons first others =>
      by_cases zero : first = '0'
      · have single := wellFormed.leading (by rw [digits, zero, List.head?_cons])
        rw [digits] at single
        rw [single, List.cons_append, readWhole, if_pos rfl, List.nil_append, if_neg]
        cases rest with
        | nil => simp
        | cons c more => simp [ends c rfl]
      · rw [List.cons_append, readWhole, if_neg zero, ← List.cons_append, ← digits]
        exact readDigits_append wellFormed.nonempty wellFormed.whole ends

/-- A fraction is read as its digits. -/
theorem readFraction_append {n : Numeral} (wellFormed : n.WellFormed) {rest : List Char}
    (ends : EndsDigits rest) (noPoint : rest.head? ≠ some '.')
    : readFraction (fractionText n.fraction ++ rest) = .ok (n.fraction, rest) := by
  cases digits : n.fraction with
  | nil =>
      cases rest with
      | nil => rfl
      | cons c more =>
          have other : c ≠ '.' := fun point => noPoint (by rw [point, List.head?_cons])
          rw [fractionText, List.nil_append, readFraction, if_neg other]
  | cons first others =>
      rw [fractionText, List.cons_append, readFraction, if_pos rfl]
      exact readDigits_append (List.cons_ne_nil _ _) (digits ▸ wellFormed.fraction) ends

/-- An exponent is read as its sign and its digits. -/
theorem readExponent_append {n : Numeral} (wellFormed : n.WellFormed) {rest : List Char}
    (ends : EndsNumeral rest)
    : readExponent (exponentText n.exponent ++ rest) = .ok (n.exponent, rest) := by
  cases parts : n.exponent with
  | none =>
      cases rest with
      | nil => rfl
      | cons c more =>
          obtain ⟨-, -, small, capital⟩ := ends c rfl
          rw [exponentText, List.nil_append, readExponent, if_neg (not_or.mpr ⟨small, capital⟩)]
  | some signed =>
      obtain ⟨negative, digits⟩ := signed
      obtain ⟨nonempty, digit⟩ := wellFormed.exponent negative digits parts
      have read := readDigits_append nonempty digit fun c first => (ends c first).1
      cases negative <;>
        simp [exponentText, readExponent, readSign, read, bind, Except.bind, pure, Except.pure]

/-- What follows the sign of a numeral is read as the numeral. -/
theorem readUnsigned_append {n : Numeral} (wellFormed : n.WellFormed) {rest : List Char}
    (ends : EndsNumeral rest)
    : readUnsigned n.negative (n.unsignedText ++ rest) = .ok (n, rest) := by
  obtain ⟨endsFraction, noPoint⟩ := ends.exponentText n.exponent
  have whole := readWhole_append wellFormed (endsFraction.fractionText n.fraction)
  have fraction := readFraction_append wellFormed endsFraction noPoint
  have exponent := readExponent_append wellFormed ends
  simp only [readUnsigned, unsignedText, List.append_assoc, whole, fraction, exponent,
    bind, Except.bind, pure, Except.pure]

/-- The text of a numeral begins with a minus or a digit, and from there on it is read as what
the numeral denotes.
-/
theorem exists_text_eq_cons {n : Numeral} (wellFormed : n.WellFormed) {rest : List Char}
    (ends : EndsNumeral rest)
    : ∃ c others,
        n.text ++ rest = c :: others
        ∧ (c = '-' ∨ c.isDigit = true)
        ∧ read c others = (⟨n.value, .ok ()⟩, rest) := by
  have unsigned := readUnsigned_append wellFormed ends
  cases sign : n.negative with
  | true =>
      refine ⟨'-', n.unsignedText ++ rest, by simp [text, sign], .inl rfl, ?_⟩
      rw [sign] at unsigned
      simp only [read, ↓reduceIte, unsigned]
  | false =>
      cases digits : n.whole with
      | nil => exact absurd digits wellFormed.nonempty
      | cons first others =>
          let following := others ++ (fractionText n.fraction ++ exponentText n.exponent) ++ rest
          have begins : n.unsignedText ++ rest = first :: following := by
            rw [unsignedText, digits]
            rfl
          have isDigit : first.isDigit = true :=
            wellFormed.whole first (digits ▸ List.mem_cons_self)
          have noMinus : first ≠ '-' := by
            rintro rfl
            exact absurd isDigit (by decide)
          refine ⟨first, following, by simpa [text, sign] using begins, .inr isDigit, ?_⟩
          rw [sign, begins] at unsigned
          simp only [read, noMinus, ↓reduceIte, unsigned]

end SchemaNames.Numeral
