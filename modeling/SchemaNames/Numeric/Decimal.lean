/-! Decimal digits of natural numbers. Writing gives no leading zero, and reading a run of digits
gives back the number that was written.
-/

namespace SchemaNames.Numeric

/-- The character of a decimal digit. -/
def digitChar (digit : Nat) : Char :=
  Char.ofNat ('0'.toNat + digit)

/-- The digit that a character stands for; only a decimal digit is meant. -/
def digitValue (c : Char) : Nat :=
  c.toNat - '0'.toNat

/-- The decimal digits of a number, most significant first. -/
def decimal (n : Nat) : List Char :=
  if n < 10 then
    [digitChar n]
  else
    decimal (n / 10) ++ [digitChar (n % 10)]

/-- The number that digits stand for when they follow the number `before`. -/
def continueDecimal (before : Nat) (digits : List Char) : Nat :=
  digits.foldl (fun value c => 10 * value + digitValue c) before

/-- The number that digits stand for. -/
def ofDecimal (digits : List Char) : Nat :=
  continueDecimal 0 digits

/-- The decimal digits of an integer, after a minus sign if it is negative. -/
def signedDecimal : Int → List Char
  | .ofNat n => decimal n
  | .negSucc n => '-' :: decimal (n + 1)

end SchemaNames.Numeric
