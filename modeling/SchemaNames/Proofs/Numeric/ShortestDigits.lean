import Mathlib.Algebra.Group.Nat.Defs
import SchemaNames.Numeric.Shortest
import SchemaNames.Proofs.Numeric.DecimalDigits

/-! The shortest digits of a binary64 number. They are digits of which the first is no zero, as
the counts among which they are searched are never zero.
-/

namespace SchemaNames.Numeric

-----------------------------------------------------------------------------------------
-- Numbers of digits
-----------------------------------------------------------------------------------------

/-- A number is below the power of ten that its digits count, by induction on the leading
digits.
-/
theorem lt_pow_length_decimal (n : Nat)
    : n < 10 ^ (decimal n).length := by
  induction n using decimal.induct with
  | case1 n small => simp [decimal, small]
  | case2 n large ih =>
      rw [decimal, if_neg large, List.length_append, List.length_singleton, Nat.pow_succ]
      omega

/-- A positive number reaches the power of ten that all its digits but one count, by induction
on the leading digits.
-/
theorem pow_length_decimal_le {n : Nat} (positive : 0 < n)
    : 10 ^ ((decimal n).length - 1) ≤ n := by
  induction n using decimal.induct with
  | case1 n small => simpa [decimal, small] using Nat.succ_le_of_lt positive
  | case2 n large ih =>
      have leading := ih (by omega)
      obtain ⟨c, rest, digits, -⟩ := exists_decimal_eq_cons (n / 10)
      rw [decimal, if_neg large]
      rw [digits] at leading ⊢
      simp only [List.length_cons, Nat.add_sub_cancel, List.cons_append, List.length_append,
        List.length_nil, Nat.pow_succ] at leading ⊢
      omega

-----------------------------------------------------------------------------------------
-- Counts
-----------------------------------------------------------------------------------------

/-- A positive rational has a positive count on every decimal grid from its leading digit on.
Witness: by definition of the leading exponent its power of ten is at most the rational.
-/
theorem Ratio.countBelow_pos {x : Ratio} (numerator : 0 < x.numerator)
    (denominator : 0 < x.denominator) (digits : Nat)
    : 0 < x.countBelow (x.leadingExponent - digits) := by
  have tens (e : Nat) : 0 < 10 ^ e := Nat.pow_pos (by decide)
  by_cases large : x.denominator ≤ x.numerator
  · have whole : 0 < x.numerator / x.denominator := Nat.div_pos large denominator
    have reached := pow_length_decimal_le whole
    rw [leadingExponent, if_pos large]
    generalize (decimal (x.numerator / x.denominator)).length = length at reached ⊢
    cases exponent : (length : Int) - 1 - digits with
    | ofNat e =>
        rw [Int.ofNat_eq_natCast] at exponent
        have fewer : e ≤ length - 1 := by omega
        refine Nat.div_pos ?_ (Nat.mul_pos denominator (tens e))
        calc x.denominator * 10 ^ e
          _ ≤ x.denominator * 10 ^ (length - 1) :=
            Nat.mul_le_mul_left _ (Nat.pow_le_pow_right (by decide) fewer)
          _ ≤ x.denominator * (x.numerator / x.denominator) := Nat.mul_le_mul_left _ reached
          _ ≤ x.numerator := Nat.mul_div_le _ _
    | negSucc e =>
        refine Nat.div_pos ?_ denominator
        exact Nat.le_trans large (Nat.le_mul_of_pos_right _ (tens (e + 1)))
  · have small := lt_pow_length_decimal ((x.denominator - 1) / x.numerator)
    rw [leadingExponent, if_neg large]
    obtain ⟨c, rest, digitsOf, -⟩ := exists_decimal_eq_cons ((x.denominator - 1) / x.numerator)
    have some : 0 < (decimal ((x.denominator - 1) / x.numerator)).length := by simp [digitsOf]
    generalize (decimal ((x.denominator - 1) / x.numerator)).length = length at small some ⊢
    rw [Nat.div_lt_iff_lt_mul numerator] at small
    cases exponent : -(length : Int) - digits with
    | ofNat e =>
        rw [Int.ofNat_eq_natCast] at exponent
        omega
    | negSucc e =>
        have more : length ≤ e + 1 := by omega
        refine Nat.div_pos ?_ denominator
        calc x.denominator
          _ ≤ 10 ^ length * x.numerator := by omega
          _ = x.numerator * 10 ^ length := Nat.mul_comm _ _
          _ ≤ x.numerator * 10 ^ (e + 1) :=
            Nat.mul_le_mul_left _ (Nat.pow_le_pow_right (by decide) more)

/-- A positive multiple of a power has a positive numerator, and a denominator is positive. -/
theorem Ratio.scaled_pos (n : Nat) {base : Nat} (some : 0 < base) (exponent : Int)
    : (0 < n → 0 < (Ratio.scaled n base exponent).numerator)
      ∧ 0 < (Ratio.scaled n base exponent).denominator := by
  cases exponent with
  | ofNat e => exact ⟨fun positive => Nat.mul_pos positive (Nat.pow_pos some), Nat.one_pos⟩
  | negSucc e => exact ⟨id, Nat.pow_pos some⟩

namespace Binary

variable {b : Binary}

/-- Zero does not round to a positive number. -/
theorem isRounded_scaled_zero (positive : 0 < b.mantissa) (exponent : Int)
    : b.isRounded (Ratio.scaled 0 10 exponent) = false := by
  have numerator : 0 < b.lowerEnd.numerator :=
    (Ratio.scaled_pos _ (by decide) _).1 (by split <;> omega)
  have denominator := (Ratio.scaled_pos 0 (by decide : 0 < 10) exponent).2
  have zero : (Ratio.scaled 0 10 exponent).numerator = 0 := by
    cases exponent <;> simp [Ratio.scaled]
  have apart := Nat.mul_pos numerator denominator
  have notLe : b.lowerEnd.le (Ratio.scaled 0 10 exponent) = false := by
    simp [Ratio.le, zero]
    omega
  have notLt : b.lowerEnd.lt (Ratio.scaled 0 10 exponent) = false := by
    simp [Ratio.lt, zero]
  simp [isRounded, notLe, notLt]

/-- A count that rounds to a positive number is positive. -/
theorem countOn?_pos (positive : 0 < b.mantissa) {exponent : Int} {count : Nat}
    (found : b.countOn? exponent = some count)
    : 0 < count := by
  have low (rounded : b.isRounded
        (Ratio.scaled (b.value.countBelow exponent) 10 exponent) = true)
      : 0 < b.value.countBelow exponent := by
    refine Nat.pos_of_ne_zero fun zero => ?_
    rw [zero, isRounded_scaled_zero positive] at rounded
    cases rounded
  simp only [countOn?] at found
  split at found
  next both _ =>
    split at found <;> cases found
    · exact low both
    · exact Nat.succ_pos _
  next lower _ =>
    cases found
    exact low lower
  next =>
    cases found
    exact Nat.succ_pos _
  next => cases found

/-- The count of the shortest grid is positive, by induction on the grids that remain. -/
theorem shortestFrom_pos (positive : 0 < b.mantissa) (digits remaining : Nat)
    : 0 < (b.shortestFrom b.value.leadingExponent digits remaining).1 := by
  induction remaining generalizing digits with
  | zero =>
      have scaled := Ratio.scaled_pos (4 * b.mantissa) (by decide : 0 < 2) (b.exponent - 2)
      exact Ratio.countBelow_pos (scaled.1 (by omega)) scaled.2 digits
  | succ remaining ih =>
      rw [shortestFrom]
      cases found : b.countOn? (b.value.leadingExponent - digits) with
      | none => exact ih (digits + 1)
      | some count => exact countOn?_pos positive found

end Binary

-----------------------------------------------------------------------------------------
-- Digits
-----------------------------------------------------------------------------------------

/-- Holds of digits of which the first is no zero. -/
structure Digits.Leading (d : Digits) : Prop where
  digit : ∀ c ∈ d.digits, c.isDigit = true
  first : ∃ c rest, d.digits = c :: rest ∧ c ≠ '0'

/-- The shortest digits of a positive number begin with no zero. Witness: the digits of a positive
count do, and only zeros at the end are left out.
-/
theorem Binary.leading_shortest {b : Binary} (positive : 0 < b.mantissa)
    : b.shortest.Leading := by
  have count := shortestFrom_pos positive 0 17
  rw [shortest]
  generalize b.shortestFrom b.value.leadingExponent 0 17 = found at count ⊢
  obtain ⟨c, rest, digits, zero⟩ := exists_decimal_eq_cons found.1
  have nonzero : c ≠ '0' := fun isZero => by
    obtain ⟨none, -⟩ := zero isZero
    omega
  refine ⟨fun d written => ?_, c, (rest.reverse.dropWhile (· == '0')).reverse, ?_, nonzero⟩
  · have inDecimal : d ∈ decimal found.1 := by
      rw [List.mem_reverse] at written
      exact List.mem_reverse.mp ((List.dropWhile_suffix _).subset written)
    exact isDigit_of_mem_decimal inDecimal
  · simp only [digits, List.reverse_cons, List.dropWhile_append]
    split
    next none =>
      rw [List.isEmpty_iff] at none
      simp [nonzero, none]
    next => simp

end SchemaNames.Numeric
