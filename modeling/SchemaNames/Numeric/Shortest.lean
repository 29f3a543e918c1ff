import SchemaNames.Numeric.Decimal

/-! Shortest decimal text of binary64 numbers. The digits are the fewest that read back as the
number; among those the nearest is taken, and of two equally near ones the even one.
-/

namespace SchemaNames.Numeric

/-- A positive number `mantissa * 2 ^ exponent`, where `narrow` says that the gap to the next
smaller binary64 number is half the gap to the next larger one. -/
structure Binary where
  mantissa : Nat
  exponent : Int
  narrow : Bool

/-- The bit in front of the fraction of a binary64 number, which its bits leave out. -/
def Binary.hiddenBit : Nat := 0x10000000000000

/-- The magnitude of a finite binary64 number given by its bits; `none` stands for zero. -/
def Binary.ofBits? (bits : Nat) : Option Binary :=
  let fraction : Nat := bits % hiddenBit
  let biased : Nat := bits / hiddenBit % 0x800
  if biased = 0 then
    if fraction = 0 then none else some ⟨fraction, -1074, false⟩
  else
    some ⟨hiddenBit + fraction, (biased : Int) - 1075, fraction == 0 && biased != 1⟩

/-- A nonnegative rational with a positive denominator. -/
structure Ratio where
  numerator : Nat
  denominator : Nat

/-- The rational `n * base ^ exponent`. -/
def Ratio.scaled (n base : Nat) (exponent : Int) : Ratio :=
  match exponent with
  | .ofNat e => ⟨n * base.pow e, 1⟩
  | .negSucc e => ⟨n, base.pow (e + 1)⟩

def Ratio.lt (x y : Ratio) : Bool :=
  x.numerator * y.denominator < y.numerator * x.denominator

def Ratio.le (x y : Ratio) : Bool :=
  x.numerator * y.denominator ≤ y.numerator * x.denominator

/-- The distance between two rationals. -/
def Ratio.distance (x y : Ratio) : Ratio :=
  let a := x.numerator * y.denominator
  let b := y.numerator * x.denominator
  ⟨(a - b) + (b - a), x.denominator * y.denominator⟩

/-- The exponent of the leading decimal digit of a positive rational. -/
def Ratio.leadingExponent (x : Ratio) : Int :=
  if x.denominator ≤ x.numerator then
    ((decimal (x.numerator / x.denominator)).length : Int) - 1
  else
    -((decimal ((x.denominator - 1) / x.numerator)).length : Int)

/-- The greatest multiple count of `10 ^ exponent` that is at most the rational. -/
def Ratio.countBelow (x : Ratio) (exponent : Int) : Nat :=
  match exponent with
  | .ofNat e => x.numerator / (x.denominator * Nat.pow 10 e)
  | .negSucc e => x.numerator * Nat.pow 10 (e + 1) / x.denominator

def Binary.value (b : Binary) : Ratio :=
  Ratio.scaled (4 * b.mantissa) 2 (b.exponent - 2)

/-- The lower end of the interval of reals that round to the number. -/
def Binary.lowerEnd (b : Binary) : Ratio :=
  Ratio.scaled (4 * b.mantissa - if b.narrow then 1 else 2) 2 (b.exponent - 2)

/-- The upper end of the interval of reals that round to the number. -/
def Binary.upperEnd (b : Binary) : Ratio :=
  Ratio.scaled (4 * b.mantissa + 2) 2 (b.exponent - 2)

/-- Holds when a rational rounds to the number: a real at an end does so for an even mantissa. -/
def Binary.isRounded (b : Binary) (x : Ratio) : Bool :=
  if b.mantissa % 2 = 0 then
    b.lowerEnd.le x && x.le b.upperEnd
  else
    b.lowerEnd.lt x && x.lt b.upperEnd

/-- The count of `10 ^ exponent` that is nearest to the number among the two neighbours that
round to it, if one does. -/
def Binary.countOn? (b : Binary) (exponent : Int) : Option Nat :=
  let low := b.value.countBelow exponent
  let atLow := Ratio.scaled low 10 exponent
  let atHigh := Ratio.scaled (low + 1) 10 exponent
  match b.isRounded atLow, b.isRounded atHigh with
  | true, true =>
      let below := b.value.distance atLow
      let above := b.value.distance atHigh
      if below.lt above || (below.le above && low % 2 == 0) then some low else some (low + 1)
  | true, false => some low
  | false, true => some (low + 1)
  | false, false => none

/-- The first decimal grid, from the leading digit on, that has a point that rounds to the
number, with that point's count; seventeen digits always suffice. -/
def Binary.shortestFrom (b : Binary) (leading : Int) (digits : Nat) : Nat → Nat × Int
  | 0 => (b.value.countBelow (leading - digits), leading - digits)
  | remaining + 1 =>
      match b.countOn? (leading - digits) with
      | some count => (count, leading - digits)
      | none => b.shortestFrom leading (digits + 1) remaining

/-- Decimal digits without trailing zeros, and the exponent of the first one. -/
structure Digits where
  digits : List Char
  leading : Int

/-- The shortest decimal digits of a positive number. -/
def Binary.shortest (b : Binary) : Digits :=
  let (count, exponent) := b.shortestFrom b.value.leadingExponent 0 17
  let written := decimal count
  { digits := (written.reverse.dropWhile (· == '0')).reverse
    leading := exponent + written.length - 1 }

/-- How digits become text: the leading exponents that are written without an exponent, the
mark of the exponent and the sign of a positive one. -/
structure Layout where
  positionalFrom : Int
  positionalTo : Int
  exponentMark : Char
  plusSign : List Char

/-- Numbers from `0.00001` up to sixteen integer digits are positional and keep `.0`. -/
def standardLayout : Layout :=
  { positionalFrom := -5, positionalTo := 15, exponentMark := 'e', plusSign := ['+'] }

/-- The text of decimal digits in a layout. -/
def Layout.write (layout : Layout) (d : Digits) : List Char :=
  if layout.positionalFrom ≤ d.leading && d.leading ≤ layout.positionalTo then
    match d.leading with
    | .ofNat n =>
        let whole := d.digits.take (n + 1)
        let fraction := d.digits.drop (n + 1)
        whole ++ List.replicate (n + 1 - whole.length) '0' ++ '.' ::
          (if fraction.isEmpty then ['0'] else fraction)
    | .negSucc n => '0' :: '.' :: List.replicate n '0' ++ d.digits
  else
    let exponent :=
      match d.leading with
      | .ofNat n => layout.plusSign ++ decimal n
      | .negSucc n => '-' :: decimal (n + 1)
    match d.digits with
    | [] => ['0']
    | first :: [] => first :: layout.exponentMark :: exponent
    | first :: more => first :: '.' :: more ++ layout.exponentMark :: exponent

/-- The text of a finite binary64 number given by its bits. -/
def floatText (bits : Nat) : List Char :=
  let sign := if bits / 0x8000000000000000 = 0 then [] else ['-']
  match Binary.ofBits? bits with
  | none => sign ++ ['0', '.', '0']
  | some b => sign ++ standardLayout.write b.shortest

end SchemaNames.Numeric
