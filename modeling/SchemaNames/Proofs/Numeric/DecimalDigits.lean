import SchemaNames.Numeric.Decimal

/-! Written decimal digits. They are digits without a leading zero, and reading them gives back
the number that was written.
-/

namespace SchemaNames.Numeric

/-- The character of a digit is a digit of that value. -/
theorem digitValue_digitChar {digit : Nat} (small : digit < 10)
    : (digitChar digit).isDigit = true ∧ digitValue (digitChar digit) = digit := by
  have each : ∀ d < 10, (digitChar d).isDigit = true ∧ digitValue (digitChar d) = d := by decide
  exact each digit small

/-- Only the digit of zero is written as a zero. -/
theorem digitChar_ne_zero {digit : Nat} (positive : 0 < digit) (small : digit < 10)
    : digitChar digit ≠ '0' := by
  intro zero
  have value := (digitValue_digitChar small).2
  rw [zero] at value
  exact absurd value (by simp [digitValue]; omega)

/-- Reading digits is reading their first part and going on with the second. -/
theorem continueDecimal_append (before : Nat) (first second : List Char)
    : continueDecimal before (first ++ second)
      = continueDecimal (continueDecimal before first) second :=
  List.foldl_append

/-- Further digits do not make a number smaller, by induction on the digits. -/
theorem le_continueDecimal (before : Nat) (digits : List Char)
    : before ≤ continueDecimal before digits := by
  induction digits generalizing before with
  | nil => exact Nat.le_refl before
  | cons c rest ih =>
      calc before
        _ ≤ 10 * before + digitValue c := by omega
        _ ≤ continueDecimal (10 * before + digitValue c) rest := ih _

/-- Reading the digits of a number gives the number, by induction on its leading digits. -/
theorem ofDecimal_decimal (n : Nat)
    : ofDecimal (decimal n) = n := by
  induction n using decimal.induct with
  | case1 n small =>
      rw [decimal, if_pos small]
      simp [ofDecimal, continueDecimal, (digitValue_digitChar small).2]
  | case2 n large ih =>
      have last := (digitValue_digitChar (Nat.mod_lt n (by decide : 0 < 10))).2
      rw [decimal, if_neg large, ofDecimal, continueDecimal_append]
      rw [ofDecimal] at ih
      rw [ih]
      simp only [continueDecimal, List.foldl_cons, List.foldl_nil, last]
      omega

/-- Only digits are written, by induction on the leading digits. -/
theorem isDigit_of_mem_decimal {n : Nat} {c : Char} (written : c ∈ decimal n)
    : c.isDigit = true := by
  induction n using decimal.induct with
  | case1 n small =>
      rw [decimal, if_pos small, List.mem_singleton] at written
      exact written ▸ (digitValue_digitChar small).1
  | case2 n large ih =>
      rw [decimal, if_neg large, List.mem_append, List.mem_singleton] at written
      rcases written with leading | last
      · exact ih leading
      · exact last ▸ (digitValue_digitChar (Nat.mod_lt n (by decide : 0 < 10))).1

/-- The digits of a number begin with a zero only if they are that zero, by induction on the
leading digits.
-/
theorem exists_decimal_eq_cons (n : Nat)
    : ∃ c rest, decimal n = c :: rest ∧ (c = '0' → n = 0 ∧ rest = []) := by
  induction n using decimal.induct with
  | case1 n small =>
      refine ⟨digitChar n, [], by rw [decimal, if_pos small], fun zero => ⟨?_, rfl⟩⟩
      rcases Nat.eq_zero_or_pos n with rfl | positive
      · rfl
      · exact absurd zero (digitChar_ne_zero positive small)
  | case2 n large ih =>
      obtain ⟨c, rest, leading, zero⟩ := ih
      refine ⟨c, rest ++ [digitChar (n % 10)], ?_, fun isZero => ?_⟩
      · rw [decimal, if_neg large, leading, List.cons_append]
      · obtain ⟨none, -⟩ := zero isZero
        omega

end SchemaNames.Numeric
