import SchemaNames.Document.Fault
import SchemaNames.Numeric.Hexadecimal

/-! Quoted text. Writing escapes the quote, the backslash and the control characters. Reading
first cuts a text into characters and escaped code units and then joins surrogate pairs.
-/

namespace SchemaNames.Quoted

open Numeric

/-- The written form of one character. -/
def escape (c : Char) : List Char :=
  if c = '"' then ['\\', '"']
  else if c = '\\' then ['\\', '\\']
  else if c = '\n' then ['\\', 'n']
  else if c = '\r' then ['\\', 'r']
  else if c = '\t' then ['\\', 't']
  else if c.toNat = 0x08 then ['\\', 'b']
  else if c.toNat = 0x0C then ['\\', 'f']
  else if c.toNat < 0x20 then
    ['\\', 'u', '0', '0', hexDigit (c.toNat / 16), hexDigit (c.toNat % 16)]
  else [c]

/-- The written form of characters, without the quotes around it. -/
def escapeAll (cs : List Char) : List Char :=
  cs.flatMap escape

/-- The written form of a text. -/
def write (content : String) : List Char :=
  '"' :: escapeAll content.toList ++ ['"']

/-- What stands for a character or for half of one. -/
inductive Piece where
  | char (c : Char)
  | unit (code : Nat)

/-- How quoted text ends. -/
inductive Ending where
  | closed
  | endOfText
  | control
  | unknownEscape
  | badUnit
deriving DecidableEq

/-- Quoted text cut into pieces, with what follows it. -/
structure Pieces where
  pieces : List Piece
  ending : Ending
  rest : List Char

/-- Text that breaks off here. -/
def Pieces.stop (ending : Ending) : Pieces :=
  ⟨[], ending, []⟩

def Pieces.push (piece : Piece) (p : Pieces) : Pieces :=
  { p with pieces := piece :: p.pieces }

/-- The code unit that four characters write. -/
def unit? (a b c d : Char) : Option Nat := do
  let w ← hexValue? a
  let x ← hexValue? b
  let y ← hexValue? c
  let z ← hexValue? d
  return ((w * 16 + x) * 16 + y) * 16 + z

/-- The character that a one-letter escape stands for. -/
def simpleEscape? (c : Char) : Option Char :=
  if c = '"' then some '"'
  else if c = '\\' then some '\\'
  else if c = '/' then some '/'
  else if c = 'b' then some (Char.ofNat 0x08)
  else if c = 'f' then some (Char.ofNat 0x0C)
  else if c = 'n' then some '\n'
  else if c = 'r' then some '\r'
  else if c = 't' then some '\t'
  else none

/-- The number of bytes that characters take in UTF-8. -/
def byteSize (cs : List Char) : Nat :=
  (String.ofList cs).utf8ByteSize

/-- A code unit that has fewer than four bytes after it runs into the end of the text. -/
def shortUnit (cs : List Char) : Ending :=
  if byteSize (cs.take 4) < 4 then .endOfText else .badUnit

/-- Cuts what follows an opening quote. -/
def split : List Char → Pieces
  | [] => .stop .endOfText
  | c :: rest =>
      if c = '"' then
        ⟨[], .closed, rest⟩
      else if c = '\\' then
        match rest with
        | [] => .stop .endOfText
        | e :: more =>
            if e = 'u' then
              match more with
              | w :: x :: y :: z :: tail =>
                  match unit? w x y z with
                  | some code => (split tail).push (.unit code)
                  | none => .stop (shortUnit [w, x, y, z])
              | short => .stop (shortUnit short)
            else
              match simpleEscape? e with
              | some plain => (split more).push (.char plain)
              | none => .stop .unknownEscape
      else if c.toNat < 0x20 then
        .stop .control
      else
        (split rest).push (.char c)

def isLeading (code : Nat) : Bool :=
  0xD800 ≤ code && code < 0xDC00

def isTrailing (code : Nat) : Bool :=
  0xDC00 ≤ code && code < 0xE000

/-- The character of a surrogate pair. -/
def joinPair (leading trailing : Nat) : Char :=
  Char.ofNat (0x10000 + (leading - 0xD800) * 0x400 + (trailing - 0xDC00))

/-- What an ending means for text that is complete so far. -/
def Ending.check : Ending → Except Fault Unit
  | .closed => .ok ()
  | .endOfText => .error .endOfText
  | .control => .error .controlCharacter
  | .unknownEscape => .error .invalidEscape
  | .badUnit => .error .invalidEscape

/-- What an ending means right after the first half of a surrogate pair. -/
def Ending.faultInPair : Ending → Fault
  | .endOfText => .endOfText
  | .badUnit => .invalidEscape
  | _ => .endOfEscape

/-- Joins pieces to characters; half of a surrogate pair is refused. -/
def join (ending : Ending) : List Piece → Except Fault (List Char)
  | [] => do
      ending.check
      return []
  | .char c :: rest => do
      return c :: (← join ending rest)
  | .unit code :: rest =>
      if isTrailing code then
        .error .loneSurrogate
      else if isLeading code then
        match rest with
        | [] => .error ending.faultInPair
        | .char _ :: _ => .error .endOfEscape
        | .unit second :: more =>
            if isTrailing second then do
              return joinPair code second :: (← join ending more)
            else
              .error .loneSurrogate
      else do
        return Char.ofNat code :: (← join ending rest)

/-- Reads what follows an opening quote; text that breaks off leaves nothing behind it. -/
def read (cs : List Char) : Lexeme String × List Char :=
  let p := split cs
  ({ reading := (join p.ending p.pieces).map String.ofList
     skipping := p.ending.check },
   p.rest)

theorem length_rest_split_le (cs : List Char)
    : (split cs).rest.length ≤ cs.length := by
  fun_induction split cs <;> simp_all [Pieces.stop, Pieces.push] <;> omega

end SchemaNames.Quoted
