import SchemaNames.Document.Basic
import SchemaNames.Document.Fault
import SchemaNames.Numeric.Decimal

/-! Numerals. A numeral without fraction and exponent denotes an integer where 64 bits suffice;
every other one denotes the binary64 number that its leading digits and one scaling give.
-/

namespace SchemaNames

open Numeric

/-- A numeral by its parts; the exponent comes with whether it is negative. -/
structure Numeral where
  negative : Bool
  whole : List Char
  fraction : List Char
  exponent : Option (Bool × List Char)

namespace Numeral

/-- How a numeral breaks off. -/
inductive Break where
  | endOfText
  | malformed

/-- One digit or more, and what follows them. -/
def readDigits : List Char → Except Break (List Char × List Char)
  | [] => .error .endOfText
  | c :: rest =>
      if c.isDigit then
        .ok (c :: rest.takeWhile Char.isDigit, rest.dropWhile Char.isDigit)
      else
        .error .malformed

/-- The digits before a decimal point: a zero has no digit after it. -/
def readWhole : List Char → Except Break (List Char × List Char)
  | [] => .error .endOfText
  | c :: rest =>
      if c = '0' then
        if rest.head?.any Char.isDigit then .error .malformed else .ok ([c], rest)
      else
        readDigits (c :: rest)

/-- The digits after a decimal point, if there is one. -/
def readFraction : List Char → Except Break (List Char × List Char)
  | [] => .ok ([], [])
  | c :: rest => if c = '.' then readDigits rest else .ok ([], c :: rest)

/-- The sign of an exponent, if there is one. -/
def readSign : List Char → Bool × List Char
  | [] => (false, [])
  | c :: rest =>
      if c = '-' then (true, rest)
      else if c = '+' then (false, rest)
      else (false, c :: rest)

/-- The exponent, if there is one. -/
def readExponent : List Char → Except Break (Option (Bool × List Char) × List Char)
  | [] => .ok (none, [])
  | c :: rest =>
      if c = 'e' ∨ c = 'E' then do
        let (negative, unsigned) := readSign rest
        let (digits, rest) ← readDigits unsigned
        return (some (negative, digits), rest)
      else
        .ok (none, c :: rest)

/-- A numeral whose sign has been read, and what follows it. -/
def readUnsigned (negative : Bool) (cs : List Char) : Except Break (Numeral × List Char) := do
  let (whole, cs) ← readWhole cs
  let (fraction, cs) ← readFraction cs
  let (exponent, cs) ← readExponent cs
  return ({ negative, whole, fraction, exponent }, cs)

/-- Appends digits to a significand while it stays below `UInt64.size`, and counts those that
are left out. -/
def absorb (significand : Nat) : List Char → Nat × Nat
  | [] => (significand, 0)
  | c :: rest =>
      let next := 10 * significand + digitValue c
      if next < UInt64.size then absorb next rest else (significand, rest.length + 1)

/-- The greatest power of ten by which a number is scaled at once. -/
def greatestPower : Nat := 308

/-- Divides by a power of ten in steps. -/
def scaleDown (x : Float) (exponent : Nat) : Float :=
  if exponent ≤ greatestPower then
    x / Float.ofScientific 1 false exponent
  else if x == 0.0 then
    x
  else
    scaleDown (x / Float.ofScientific 1 false greatestPower) (exponent - greatestPower)
termination_by exponent
decreasing_by simp only [greatestPower] at *; omega

/-- The binary64 number nearest to the significand, scaled once by a power of ten. -/
def scaled (significand : Nat) (exponent : Int) : Except Fault Float :=
  let x := significand.toUInt64.toFloat
  match exponent with
  | .ofNat e =>
      if e ≤ greatestPower then
        let y := x * Float.ofScientific 1 false e
        if y.isInf then .error .numberOutOfRange else .ok y
      else if x == 0.0 then
        .ok x
      else
        .error .numberOutOfRange
  | .negSucc e => .ok (scaleDown x (e + 1))

def signed (negative : Bool) (x : Float) : Float :=
  if negative then -x else x

/-- The greatest exponent that is evaluated. -/
def greatestExponent : Nat := 0x7FFFFFFF

/-- The number that a numeral denotes. -/
def value (n : Numeral) : Except Fault Scalar :=
  let (leading, shortened) := absorb 0 n.whole
  let (significand, unread) := absorb leading n.fraction
  let exponent : Int := (shortened : Int) - (n.fraction.length - unread : Nat)
  let float (exponent : Int) : Except Fault Scalar :=
    (scaled significand exponent).map (fun x => .float (signed n.negative x))
  match n.exponent with
  | some (negative, digits) =>
      let e := ofDecimal digits
      if e ≤ greatestExponent then
        float (if negative then exponent - e else exponent + e)
      else if significand ≠ 0 ∧ !negative then
        .error .numberOutOfRange
      else
        .ok (.float (signed n.negative 0.0))
  | none =>
      if shortened ≠ 0 ∨ n.fraction ≠ [] then
        float exponent
      else if !n.negative then
        .ok (.integer significand)
      else if 0 < significand ∧ significand ≤ UInt64.size / 2 then
        .ok (.integer (-(significand : Int)))
      else
        float 0

/-- What a broken numeral is reported as when its value is wanted. -/
def Break.fault : Break → Fault
  | .endOfText => .endOfValue
  | .malformed => .invalidNumber

/-- Reads a numeral from its first character on. -/
def read (c : Char) (rest : List Char) : Lexeme Scalar × List Char :=
  match (if c = '-' then readUnsigned true rest else readUnsigned false (c :: rest)) with
  | .ok (n, rest) => ({ reading := n.value, skipping := .ok () }, rest)
  | .error b => ({ reading := .error b.fault, skipping := .error .invalidNumber }, [])

theorem length_rest_readDigits_lt {cs digits rest : List Char}
    (h : readDigits cs = .ok (digits, rest))
    : rest.length < cs.length := by
  cases cs with
  | nil => simp [readDigits] at h
  | cons c cs =>
      simp only [readDigits] at h
      split at h <;> simp at h
      rw [← h.2, List.length_cons]
      exact Nat.lt_succ_of_le (List.dropWhile_suffix _).length_le

theorem length_rest_readWhole_lt {cs digits rest : List Char}
    (h : readWhole cs = .ok (digits, rest))
    : rest.length < cs.length := by
  cases cs with
  | nil => simp [readWhole] at h
  | cons c cs =>
      simp only [readWhole] at h
      split at h
      · split at h <;> simp at h
        simp [← h.2]
      · exact length_rest_readDigits_lt h

theorem length_rest_readFraction_le {cs digits rest : List Char}
    (h : readFraction cs = .ok (digits, rest))
    : rest.length ≤ cs.length := by
  cases cs with
  | nil => simp [readFraction] at h; simp [h]
  | cons c cs =>
      simp only [readFraction] at h
      split at h
      · exact Nat.le_succ_of_le (Nat.le_of_lt (length_rest_readDigits_lt h))
      · simp at h; simp [← h.2]

theorem length_readSign_le (cs : List Char) : (readSign cs).2.length ≤ cs.length := by
  cases cs with
  | nil => simp [readSign]
  | cons c cs =>
      simp only [readSign]
      split
      · simp
      · split <;> simp

theorem length_rest_readExponent_le {cs rest : List Char} {exponent : Option (Bool × List Char)}
    (h : readExponent cs = .ok (exponent, rest))
    : rest.length ≤ cs.length := by
  cases cs with
  | nil => simp [readExponent] at h; simp [h]
  | cons c cs =>
      simp only [readExponent] at h
      split at h
      · cases hd : readDigits (readSign cs).2 with
        | error b => simp [hd, bind, Except.bind] at h
        | ok parts =>
            obtain ⟨digits, remaining⟩ := parts
            simp [hd, bind, Except.bind, pure, Except.pure] at h
            have := length_rest_readDigits_lt hd
            have := length_readSign_le cs
            rw [← h.2, List.length_cons]
            omega
      · simp at h; simp [← h.2]

theorem length_rest_readUnsigned_lt {negative : Bool} {cs rest : List Char} {n : Numeral}
    (h : readUnsigned negative cs = .ok (n, rest))
    : rest.length < cs.length := by
  simp only [readUnsigned, bind, Except.bind] at h
  split at h
  · simp at h
  · rename_i whole hw
    split at h
    · simp at h
    · rename_i fraction hf
      split at h
      · simp at h
      · rename_i exponent he
        simp [pure, Except.pure] at h
        have := length_rest_readWhole_lt hw
        have := length_rest_readFraction_le hf
        have := length_rest_readExponent_le he
        rw [← h.2]
        omega

theorem length_rest_read_le (c : Char) (rest : List Char)
    : (read c rest).2.length ≤ rest.length := by
  simp only [read]
  split
  · rename_i n remaining h
    split at h
    · exact Nat.le_of_lt (length_rest_readUnsigned_lt h)
    · exact Nat.le_of_lt_succ (length_rest_readUnsigned_lt h)
  · simp

end Numeral

end SchemaNames
