import SchemaNames.Text.UpperTable
import SchemaNames.Text.LowerTable
import SchemaNames.Text.LetterTable

/-! Changing the case of text. Capitalizing touches the first character only; lowering goes
character by character, except that a capital sigma at the end of a word becomes a final one.
-/

namespace SchemaNames.Text

/-- upper (c) is the full upper-case form of a character. -/
def upper (c : Char) : List Char :=
  (mapCode upperRuns upperExpansions c.toNat).map Char.ofNat

/-- lower (c) is the full lower-case form of a character outside any context. -/
def lower (c : Char) : List Char :=
  (mapCode lowerRuns lowerExpansions c.toNat).map Char.ofNat

def isCased (c : Char) : Bool :=
  isIn casedRanges c

def isCaseIgnorable (c : Char) : Bool :=
  isIn caseIgnorableRanges c

/-- meetsCased (cs) holds when the first character that is not case-ignorable is cased. -/
def meetsCased (cs : List Char) : Bool :=
  match cs.dropWhile isCaseIgnorable with
  | [] => false
  | c :: _ => isCased c

def capitalSigma : Char := Char.ofNat 0x03A3
def smallSigma : Char := Char.ofNat 0x03C3
def finalSigma : Char := Char.ofNat 0x03C2

/-- lowerInContext (before c after) lowers a character that stands between the characters before
it, nearest first, and those after it. -/
def lowerInContext (before : List Char) (c : Char) (after : List Char) : List Char :=
  if c = capitalSigma then
    if meetsCased before && !meetsCased after then [finalSigma] else [smallSigma]
  else
    lower c

/-- lowerAfter (before cs) lowers text that follows the characters before it, nearest first. -/
def lowerAfter (before : List Char) : List Char → List Char
  | [] => []
  | c :: after => lowerInContext before c after ++ lowerAfter (c :: before) after

/-- lowerCase (text) is the text in lower case. -/
def lowerCase (text : String) : String :=
  String.ofList (lowerAfter [] text.toList)

/-- capitalizeChars (cs) upper-cases the first character and keeps the others. -/
def capitalizeChars : List Char → List Char
  | [] => []
  | c :: rest => upper c ++ rest

/-- capitalize (text) upper-cases the first character of a text and keeps the others. -/
def capitalize (text : String) : String :=
  String.ofList (capitalizeChars text.toList)

end SchemaNames.Text
