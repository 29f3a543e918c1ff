/-! Hexadecimal digits of natural numbers, in lower case. -/

namespace SchemaNames.Numeric

/-- The character of a hexadecimal digit. -/
def hexDigit (digit : Nat) : Char :=
  if digit < 10 then Char.ofNat ('0'.toNat + digit) else Char.ofNat ('a'.toNat + (digit - 10))

/-- The hexadecimal digits of a number, most significant first. -/
def hexadecimal (n : Nat) : List Char :=
  if n < 16 then
    [hexDigit n]
  else
    hexadecimal (n / 16) ++ [hexDigit (n % 16)]

/-- The value of a hexadecimal digit of either case. -/
def hexValue? (c : Char) : Option Nat :=
  if '0' ≤ c ∧ c ≤ '9' then some (c.toNat - '0'.toNat)
  else if 'a' ≤ c ∧ c ≤ 'f' then some (c.toNat - 'a'.toNat + 10)
  else if 'A' ≤ c ∧ c ≤ 'F' then some (c.toNat - 'A'.toNat + 10)
  else none

end SchemaNames.Numeric
