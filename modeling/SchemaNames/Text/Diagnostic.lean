import SchemaNames.Numeric.Hexadecimal
import SchemaNames.Text.PrintableTable

/-! Text shown inside a diagnostic. It stands between quotes, and every character that would be
invisible or would join the one before it is written by number.
-/

namespace SchemaNames.Text

/-- Holds when a character is shown as it is. -/
def isShown (c : Char) : Bool :=
  if c.toNat < 0x80 then 0x20 ≤ c.toNat && c.toNat < 0x7F else !isIn unshownRanges c

/-- One character as a diagnostic shows it. -/
def showChar (c : Char) : List Char :=
  if c.toNat = 0 then ['\\', '0']
  else if c = '\t' then ['\\', 't']
  else if c = '\r' then ['\\', 'r']
  else if c = '\n' then ['\\', 'n']
  else if c = '\\' then ['\\', '\\']
  else if c = '"' then ['\\', '"']
  else if isShown c then [c]
  else '\\' :: 'u' :: '\x7b' :: Numeric.hexadecimal c.toNat ++ ['\x7d']

/-- A text as a diagnostic shows it. -/
def showText (text : String) : String :=
  String.ofList ('"' :: text.toList.flatMap showChar ++ ['"'])

end SchemaNames.Text
