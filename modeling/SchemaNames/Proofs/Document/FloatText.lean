import SchemaNames.Proofs.Document.IntegerText
import SchemaNames.Proofs.Numeric.ShortestDigits

/-! The texts of binary64 numbers. Whatever its digits and the place of its point are, the text of
a number is that of a numeral with a fraction or an exponent, and so it never reads as an integer.
-/

namespace SchemaNames.Numeral

open Numeric

/-- Digits that may stand in front of a point: only digits, and the first is no zero. -/
theorem wellFormed_whole {negative : Bool} {c : Char} {rest fraction : List Char}
    {exponent : Option (Bool × List Char)} (first : c ≠ '0') (whole : ∀ d ∈ c :: rest, d.isDigit)
    (digit : ∀ d ∈ fraction, d.isDigit)
    (signed
      : ∀ sign digits, exponent = some (sign, digits) → digits ≠ [] ∧ ∀ d ∈ digits, d.isDigit)
    : WellFormed { negative, whole := c :: rest, fraction, exponent } where
  nonempty := List.cons_ne_nil c rest
  whole := whole
  leading := fun zero => absurd (Option.some.inj zero) first
  fraction := digit
  exponent := signed

/-- The exponent of a number is some digits after a sign. -/
theorem digits_exponent {negative sign : Bool} {n : Nat} {digits : List Char}
    (same : some (negative, decimal n) = some (sign, digits))
    : digits ≠ [] ∧ ∀ d ∈ digits, d.isDigit := by
  cases same
  obtain ⟨c, rest, digits, -⟩ := exists_decimal_eq_cons n
  exact ⟨by simp [digits], fun d written => isDigit_of_mem_decimal written⟩

/-- Zeros are digits. -/
theorem isDigit_of_mem_zeros {n : Nat} {d : Char} (written : d ∈ List.replicate n '0')
    : d.isDigit := by
  rw [(List.mem_replicate.mp written).2]
  decide

/-- Holds of the text of a numeral with a fraction or an exponent, apart from its sign. -/
def IsFractional (negative : Bool) (written : List Char) : Prop :=
  ∃ n : Numeral,
    n.WellFormed
    ∧ n.negative = negative
    ∧ written = n.unsignedText
    ∧ (n.fraction ≠ [] ∨ n.exponent ≠ none)

section Layout

variable {c : Char} {rest : List Char}

/-- Digits with a point behind the digit at an index: zeros stand for those that are missing in
front of the point, and one zero behind it if none is left.
-/
theorem isFractional_positional (negative : Bool) (first : c ≠ '0')
    (digit : ∀ d ∈ c :: rest, d.isDigit) (n : Nat)
    : IsFractional negative
        ((c :: rest).take (n + 1)
          ++ List.replicate (n + 1 - ((c :: rest).take (n + 1)).length) '0' ++ '.' ::
          (if ((c :: rest).drop (n + 1)).isEmpty then ['0'] else (c :: rest).drop (n + 1))) := by
  let zeros := List.replicate (n + 1 - ((c :: rest).take (n + 1)).length) '0'
  have whole : ∀ d ∈ c :: (rest.take n ++ zeros), d.isDigit := by
    intro d written
    rcases List.mem_append.mp (List.cons_append ▸ written : d ∈ c :: rest.take n ++ zeros)
      with taken | zero
    · exact digit d (List.mem_of_mem_take (i := n + 1) taken)
    · exact isDigit_of_mem_zeros zero
  split
  next none =>
    have behind : ∀ d ∈ ['0'], d.isDigit := List.forall_mem_singleton.mpr rfl
    refine ⟨⟨negative, c :: (rest.take n ++ zeros), ['0'], .none⟩,
      wellFormed_whole first whole behind (by simp), rfl, ?_, .inl (List.cons_ne_nil _ _)⟩
    simp [unsignedText, fractionText, exponentText, zeros]
  next left =>
    obtain ⟨f, others, fraction⟩ : ∃ f others, (c :: rest).drop (n + 1) = f :: others :=
      List.exists_cons_of_ne_nil fun none => left (List.isEmpty_iff.mpr none)
    have behind : ∀ d ∈ f :: others, d.isDigit := by
      intro d written
      exact digit d (List.mem_of_mem_drop (fraction ▸ written))
    rw [fraction]
    refine ⟨⟨negative, c :: (rest.take n ++ zeros), f :: others, .none⟩,
      wellFormed_whole first whole behind (by simp), rfl, ?_, .inl (List.cons_ne_nil _ _)⟩
    simp [unsignedText, fractionText, exponentText, zeros]

/-- Digits behind the point, after as many zeros as the point is away. -/
theorem isFractional_small (negative : Bool) (digit : ∀ d ∈ c :: rest, d.isDigit) (n : Nat)
    : IsFractional negative ('0' :: '.' :: List.replicate n '0' ++ c :: rest) := by
  obtain ⟨f, others, fraction⟩ : ∃ f others, List.replicate n '0' ++ c :: rest = f :: others :=
    List.exists_cons_of_ne_nil (by simp)
  refine ⟨⟨negative, ['0'], f :: others, none⟩, ⟨by simp, by simp, fun _ => rfl, ?_, by simp⟩, rfl,
    ?_, .inl (List.cons_ne_nil _ _)⟩
  · intro d written
    rcases List.mem_append.mp (fraction ▸ written : d ∈ List.replicate n '0' ++ c :: rest)
      with zero | written
    · exact isDigit_of_mem_zeros zero
    · exact digit d written
  · rw [List.cons_append, List.cons_append, fraction]
    simp [unsignedText, fractionText, exponentText]

/-- One digit in front of the point, and an exponent. -/
theorem isFractional_exponent (negative : Bool) (first : c ≠ '0')
    (digit : ∀ d ∈ c :: rest, d.isDigit) (sign : Bool) (n : Nat)
    : IsFractional negative
        (c :: fractionText rest ++ 'e' :: (if sign then '-' else '+') :: decimal n) := by
  obtain ⟨here, later⟩ := List.forall_mem_cons.mp digit
  exact ⟨⟨negative, [c], rest, some (sign, decimal n)⟩,
    wellFormed_whole first (by simpa using here) later fun _ _ => digits_exponent, rfl, rfl,
    .inr (by simp)⟩

end Layout

/-- Digits are laid out as a numeral with a fraction or an exponent, by cases on the place of the
point.
-/
theorem isFractional_write {d : Digits} (leading : d.Leading) (negative : Bool)
    : IsFractional negative (standardLayout.write d) := by
  obtain ⟨c, rest, digits, first⟩ := leading.first
  have digit := leading.digit
  rw [digits] at digit
  rw [Layout.write, digits]
  split
  next =>
    cases d.leading with
    | ofNat n => exact isFractional_positional negative first digit n
    | negSucc n => exact isFractional_small negative digit n
  next =>
    have exponent (sign : Bool) (n : Nat) := isFractional_exponent negative first digit sign n
    cases d.leading with
    | ofNat n => cases rest <;> exact exponent false n
    | negSucc n => cases rest <;> exact exponent true (n + 1)

/-- A binary64 number is written as a numeral with a fraction or an exponent. -/
theorem exists_text_eq_floatText (bits : Nat)
    : ∃ n : Numeral,
        n.WellFormed ∧ floatText bits = n.text ∧ (n.fraction ≠ [] ∨ n.exponent ≠ none) := by
  let negative : Bool := bits / 0x8000000000000000 ≠ 0
  have signed {magnitude : List Char} (fractional : IsFractional negative magnitude)
      : ∃ n : Numeral,
          n.WellFormed
          ∧ (if bits / 0x8000000000000000 = 0 then [] else ['-']) ++ magnitude = n.text
          ∧ (n.fraction ≠ [] ∨ n.exponent ≠ none) := by
    obtain ⟨n, wellFormed, sign, rfl, fractional⟩ := fractional
    refine ⟨n, wellFormed, ?_, fractional⟩
    by_cases positive : bits / 0x8000000000000000 = 0 <;> simp [text, sign, negative, positive]
  rw [floatText]
  cases magnitude : Binary.ofBits? bits with
  | none =>
      exact signed ⟨⟨negative, ['0'], ['0'], none⟩,
        ⟨by simp, by simp, by simp, by simp, by simp⟩, rfl, rfl, .inl (by simp)⟩
  | some b =>
      have positive : 0 < b.mantissa := by
        simp only [Binary.ofBits?] at magnitude
        split at magnitude
        · split at magnitude
          · cases magnitude
          next fraction =>
            cases magnitude
            exact Nat.pos_of_ne_zero fraction
        · cases magnitude
          exact Nat.add_pos_left (by decide) _
      exact signed (isFractional_write (Binary.leading_shortest positive) negative)

end SchemaNames.Numeral
