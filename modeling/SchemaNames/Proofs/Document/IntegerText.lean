import Mathlib.Algebra.Group.Int.Defs
import SchemaNames.Proofs.Document.NumeralText
import SchemaNames.Proofs.Numeric.DecimalDigits

/-! Reading written integers. The numeral of an integer of 64 bits denotes that integer, and only
the numeral of such an integer denotes an integer at all.
-/

namespace SchemaNames

open Numeric

/-- Holds of an integer that is kept exactly when it is read. -/
def Is64Bit (value : Int) : Prop :=
  -2 ^ 63 ≤ value ∧ value < 2 ^ 64

namespace Numeral

-----------------------------------------------------------------------------------------
-- The numeral of an integer
-----------------------------------------------------------------------------------------

/-- The numeral of an integer. -/
def ofInteger : Int → Numeral
  | .ofNat n => { negative := false, whole := decimal n, fraction := [], exponent := none }
  | .negSucc n => { negative := true, whole := decimal (n + 1), fraction := [], exponent := none }

theorem text_ofInteger (value : Int)
    : (ofInteger value).text = signedDecimal value := by
  cases value <;> simp [ofInteger, text, unsignedText, fractionText, exponentText, signedDecimal]

/-- The digits of a number are well formed in front of a point. -/
theorem wellFormed_ofInteger (value : Int)
    : (ofInteger value).WellFormed := by
  have each (negative : Bool) (n : Nat)
      : WellFormed { negative, whole := decimal n, fraction := [], exponent := none } := by
    obtain ⟨first, others, digits, zero⟩ := exists_decimal_eq_cons n
    refine
      { nonempty := by simp [digits]
        whole := fun c written => isDigit_of_mem_decimal written
        leading := fun begins => ?_
        fraction := fun c written => absurd written List.not_mem_nil
        exponent := by simp }
    rw [digits, List.head?_cons, Option.some.injEq] at begins
    rw [digits, begins, (zero begins).2]
  cases value with
  | ofNat n => exact each false n
  | negSucc n => exact each true (n + 1)

-----------------------------------------------------------------------------------------
-- What it denotes
-----------------------------------------------------------------------------------------

/-- Digits of a number of 64 bits are taken up completely, by induction on the digits. -/
theorem absorb_eq {significand : Nat} {digits : List Char}
    (small : continueDecimal significand digits < UInt64.size)
    : absorb significand digits = (continueDecimal significand digits, 0) := by
  induction digits generalizing significand with
  | nil => rfl
  | cons c rest ih =>
      have next : 10 * significand + digitValue c < UInt64.size :=
        Nat.lt_of_le_of_lt (le_continueDecimal _ rest) small
      rw [absorb, if_pos next]
      exact ih small

/-- Digits that are taken up completely are those of a number of 64 bits, by induction on the
digits.
-/
theorem absorb_complete {significand taken : Nat} {digits : List Char}
    (small : significand < UInt64.size) (all : absorb significand digits = (taken, 0))
    : taken = continueDecimal significand digits ∧ taken < UInt64.size := by
  induction digits generalizing significand with
  | nil =>
      cases all
      exact ⟨rfl, small⟩
  | cons c rest ih =>
      rw [absorb] at all
      split at all
      next fits => exact ih fits all
      next => cases all

/-- The numeral of an integer of 64 bits denotes the integer. -/
theorem value_ofInteger {value : Int} (bits : Is64Bit value)
    : (ofInteger value).value = .ok (.integer value) := by
  obtain ⟨least, greatest⟩ := bits
  have taken {n : Nat} (small : n < UInt64.size) : absorb 0 (decimal n) = (n, 0) := by
    have digits : continueDecimal 0 (decimal n) = n := ofDecimal_decimal n
    rw [absorb_eq (by rwa [digits]), digits]
  cases value with
  | ofNat n =>
      have small : n < UInt64.size := by
        rw [Int.ofNat_eq_natCast] at greatest
        rw [UInt64.size]
        omega
      simp [ofInteger, Numeral.value, taken small, absorb]
  | negSucc n =>
      have small : n + 1 ≤ UInt64.size / 2 := by
        rw [UInt64.size]
        omega
      have fits : n + 1 < UInt64.size := Nat.lt_of_le_of_lt small (by decide)
      simp [ofInteger, Numeral.value, taken fits, absorb, small, Int.negSucc_eq]

/-- A numeral denotes a fraction, or else it has neither point nor exponent and denotes the integer
of its digits, which then has 64 bits.
-/
theorem value_cases {n : Numeral} {value : Scalar} (denoted : n.value = .ok value)
    : (∃ x, value = .float x)
      ∨ n.exponent = none
        ∧ n.fraction = []
        ∧ ∃ k,
            value = .integer k
            ∧ Is64Bit k
            ∧ k = if n.negative then -(ofDecimal n.whole : Int) else ofDecimal n.whole := by
  have float {x : Except Fault Float} {sign : Float → Float}
      (scaled : x.map (fun x => Scalar.float (sign x)) = .ok value) : ∃ x, value = .float x := by
    cases x with
    | error fault => cases scaled
    | ok x => exact ⟨sign x, (Except.ok.inj scaled).symm⟩
  cases whole : absorb 0 n.whole with | mk leading shortened
  cases fraction : absorb leading n.fraction with | mk significand unread
  cases exponent : n.exponent with
  | some signed =>
      simp only [Numeral.value, whole, fraction, exponent] at denoted
      split at denoted
      · exact .inl (float denoted)
      split at denoted
      · cases denoted
      · exact .inl ⟨_, (Except.ok.inj denoted).symm⟩
  | none =>
      simp only [Numeral.value, whole, fraction, exponent] at denoted
      split at denoted
      · exact .inl (float denoted)
      next complete =>
        obtain ⟨all, noFraction⟩ := not_or.mp complete
        rw [Decidable.not_not] at all noFraction
        subst all
        obtain ⟨digits, fits⟩ := absorb_complete (by decide) whole
        rw [noFraction] at fraction
        cases fraction
        rw [UInt64.size] at fits
        rw [← ofDecimal] at digits
        split at denoted
        next positive =>
          have sign : n.negative = false := by simpa using positive
          cases denoted
          exact .inr ⟨rfl, noFraction, _, rfl, ⟨by omega, by omega⟩, by simp [sign, digits]⟩
        next negative =>
          have sign : n.negative = true := by simpa using negative
          split at denoted
          next small =>
            rw [UInt64.size] at small
            cases denoted
            exact .inr ⟨rfl, noFraction, _, rfl, ⟨by omega, by omega⟩, by simp [sign, digits]⟩
          next => exact .inl (float denoted)

/-- If the numeral of an integer denotes an integer then the same one, and it has 64 bits. -/
theorem eq_of_value_ofInteger {value other : Int}
    (denoted : (ofInteger value).value = .ok (.integer other))
    : other = value ∧ Is64Bit value := by
  rcases value_cases denoted with ⟨x, float⟩ | ⟨-, -, k, isInteger, bits, same⟩
  · cases float
  cases isInteger
  have equal : other = value := by
    rw [same]
    cases value with
    | ofNat n => simp [ofInteger, ofDecimal_decimal]
    | negSucc n => simp [ofInteger, ofDecimal_decimal, Int.negSucc_eq]
  exact ⟨equal, equal ▸ bits⟩

end Numeral

end SchemaNames
