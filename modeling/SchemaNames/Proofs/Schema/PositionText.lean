import SchemaNames.Proofs.Numeric.DecimalDigits
import SchemaNames.Schema.Position

/-! The text of a place. Column and line are found from the right, between the last marks of the
text, so that a name may hold parentheses, commas and digits of its own.
-/

namespace SchemaNames

namespace Numeric

/-- Different numbers have different digits, as reading them gives back the number. -/
theorem decimal_injective {m n : Nat} (same : decimal m = decimal n) : m = n := by
  rw [← ofDecimal_decimal m, same, ofDecimal_decimal]

/-- A mark that is no digit stands first in a text whose later characters are all digits. -/
theorem eq_nil_of_mark_before_digits {before digits after : List Char} {first mark : Char}
    (onlyDigits : ∀ c ∈ digits, c.isDigit = true) (noDigit : mark.isDigit = false)
    (same : first :: digits = before ++ mark :: after)
    : before = [] := by
  cases before with
  | nil => rfl
  | cons c rest =>
      obtain ⟨-, behind⟩ := List.cons.inj same
      have amongDigits : mark ∈ digits := by
        rw [behind]
        exact List.mem_append_right rest List.mem_cons_self
      rw [onlyDigits mark amongDigits] at noDigit
      cases noDigit

/-- A text that ends with a mark and a number is cut in one way only, whatever stands before the
mark. Witness: the shorter one of two cuts would have a mark among its digits.
-/
theorem append_mark_decimal_inj {before other : List Char} {mark : Char}
    (noDigit : mark.isDigit = false) {m n : Nat}
    (same : before ++ mark :: decimal m = other ++ mark :: decimal n)
    : before = other ∧ m = n := by
  have onlyDigits (k : Nat) : ∀ c ∈ decimal k, c.isDigit = true :=
    fun _ written => isDigit_of_mem_decimal written
  rcases List.append_eq_append_iff.mp same with ⟨more, longer, rest⟩ | ⟨more, longer, rest⟩
  all_goals
    obtain rfl := eq_nil_of_mark_before_digits (onlyDigits _) noDigit rest
    obtain ⟨-, sameDigits⟩ := List.cons.inj rest
  · exact ⟨by simp [longer], decimal_injective sameDigits⟩
  · exact ⟨by simp [longer], decimal_injective sameDigits.symm⟩

end Numeric

namespace Position

/-- The characters of the text of a place. -/
theorem toList_display (position : Position)
    : position.display.toList
      = ((position.name.getD "").toList ++ '(' :: Numeric.decimal position.line.toNat)
          ++ ',' :: Numeric.decimal position.column.toNat
          ++ [')'] := by
  simp [display, String.toList_append]

/-- Two places have one text exactly if they agree in line, column and name, where no name counts as
an empty one. Witness: the closing parenthesis is the last character, and what stands before it
ends with a comma and the column, and before these with a parenthesis and the line.
-/
theorem display_eq_iff (a b : Position)
    : a.display = b.display
      ↔ a.line = b.line ∧ a.column = b.column ∧ a.name.getD "" = b.name.getD "" := by
  constructor
  · intro same
    have sameChars := congrArg String.toList same
    rw [toList_display, toList_display] at sameChars
    obtain ⟨beforeColumn, column⟩ :=
      Numeric.append_mark_decimal_inj (by decide) (List.append_cancel_right sameChars)
    obtain ⟨name, line⟩ := Numeric.append_mark_decimal_inj (by decide) beforeColumn
    exact ⟨UInt64.toNat_inj.mp line, UInt64.toNat_inj.mp column, String.toList_inj.mp name⟩
  · intro agree
    obtain ⟨line, column, name⟩ := agree
    rw [display, display, line, column, name]

/-- The name of a place may look like the rest of its text. -/
example
    : ({ name := some "a(1,2)", line := 3, column := 4 } : Position).display
      = "a(1,2)(3,4)" := by
  decide +kernel

end Position

end SchemaNames
