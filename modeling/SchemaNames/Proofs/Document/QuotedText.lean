import SchemaNames.Document.Quoted

/-! Reading what was quoted. Every written text reads back as itself, whatever it contains, and
what stands behind its closing quote is left.
-/

namespace SchemaNames.Quoted

open Numeric

/-- A hexadecimal digit has the value that was written. -/
theorem hexValue?_hexDigit {digit : Nat} (small : digit < 16)
    : hexValue? (hexDigit digit) = some digit := by
  have each : ∀ d < 16, hexValue? (hexDigit d) = some d := by decide
  exact each digit small

/-- Two digits after two zeros write a code below 256. -/
theorem unit?_hexDigits {code : Nat} (small : code < 256)
    : unit? '0' '0' (hexDigit (code / 16)) (hexDigit (code % 16)) = some code := by
  have zero : hexValue? '0' = some 0 := by decide
  have high : code / 16 < 16 := by omega
  have low : code % 16 < 16 := by omega
  simp only [unit?, zero, hexValue?_hexDigit high, hexValue?_hexDigit low, Option.bind_eq_bind,
    Option.bind_some, pure, Option.some.injEq]
  omega

/-- Holds of characters that are cut off as one piece, which joins to one character. -/
structure Writes (written : List Char) (c : Char) (piece : Piece) : Prop where
  cut
    : ∀ more, split (written ++ more) = (split more).push piece
  joined
    : ∀ ending rest, join ending (piece :: rest) = (join ending rest).map (c :: ·)

/-- A piece that is a character joins to that character. -/
theorem join_char (c : Char) (ending : Ending) (rest : List Piece)
    : join ending (.char c :: rest) = (join ending rest).map (c :: ·) := by
  rw [join]
  cases join ending rest <;> rfl

/-- A code unit below the surrogates joins to the character with that code. -/
theorem join_unit {code : Nat} (small : code < 0xD800) (ending : Ending) (rest : List Piece)
    : join ending (.unit code :: rest) = (join ending rest).map (Char.ofNat code :: ·) := by
  have notTrailing : isTrailing code = false := by simp [isTrailing]; omega
  have notLeading : isLeading code = false := by simp [isLeading]; omega
  rw [join.eq_def]
  simp only [notTrailing, notLeading, Bool.false_eq_true, ↓reduceIte]
  cases join ending rest <;> rfl

/-- A backslash and a letter write the character that the letter stands for. -/
theorem writes_simpleEscape {letter c : Char} (plain : simpleEscape? letter = some c)
    (notUnit : letter ≠ 'u')
    : Writes ['\\', letter] c (.char c) := by
  refine ⟨fun more => ?_, join_char c⟩
  rw [List.cons_append, split.eq_def]
  simp [notUnit, plain]

/-- The escaped code of a control character writes it. -/
theorem writes_unit {c : Char} (control : c.toNat < 0x20)
    : Writes ['\\', 'u', '0', '0', hexDigit (c.toNat / 16), hexDigit (c.toNat % 16)] c
        (.unit c.toNat) := by
  have code := unit?_hexDigits (Nat.lt_trans control (by decide : 0x20 < 256))
  refine ⟨fun more => ?_, fun ending rest => ?_⟩
  · rw [List.cons_append, split.eq_def]
    simp [code]
  · rw [join_unit (by omega) ending rest, Char.ofNat_toNat]

/-- The written form of a character writes it, by cases on the escapes. -/
theorem exists_writes_escape (c : Char)
    : ∃ piece, Writes (escape c) c piece := by
  unfold escape
  split
  · next quote => exact ⟨_, writes_simpleEscape (by rw [quote]; rfl) (by decide)⟩
  split
  · next backslash => exact ⟨_, writes_simpleEscape (by rw [backslash]; rfl) (by decide)⟩
  split
  · next lineFeed => exact ⟨_, writes_simpleEscape (by rw [lineFeed]; rfl) (by decide)⟩
  split
  · next carriage => exact ⟨_, writes_simpleEscape (by rw [carriage]; rfl) (by decide)⟩
  split
  · next tab => exact ⟨_, writes_simpleEscape (by rw [tab]; rfl) (by decide)⟩
  split
  · next backspace =>
      have same : Char.ofNat 0x08 = c := by rw [← backspace, Char.ofNat_toNat]
      exact ⟨_, writes_simpleEscape (congrArg some same) (by decide)⟩
  split
  · next formFeed =>
      have same : Char.ofNat 0x0C = c := by rw [← formFeed, Char.ofNat_toNat]
      exact ⟨_, writes_simpleEscape (congrArg some same) (by decide)⟩
  split
  · next control => exact ⟨_, writes_unit control⟩
  · next notQuote notBackslash _ _ _ _ _ notControl =>
      refine ⟨.char c, fun more => ?_, join_char c⟩
      rw [List.cons_append, split.eq_def]
      simp [notQuote, notBackslash, notControl]

/-- Written characters are cut at the closing quote into pieces that join to the characters, by
induction on the characters.
-/
theorem exists_split_escapeAll (cs rest : List Char)
    : ∃ pieces,
        split (escapeAll cs ++ '"' :: rest) = ⟨pieces, .closed, rest⟩
        ∧ join .closed pieces = .ok cs := by
  induction cs with
  | nil =>
      refine ⟨[], ?_, rfl⟩
      rw [escapeAll, List.flatMap_nil, List.nil_append, split.eq_def]
      rfl
  | cons c cs ih =>
      obtain ⟨pieces, cut, joined⟩ := ih
      obtain ⟨piece, writes⟩ := exists_writes_escape c
      refine ⟨piece :: pieces, ?_, ?_⟩
      · rw [escapeAll, List.flatMap_cons, List.append_assoc, writes.cut]
        rw [escapeAll] at cut
        rw [cut, Pieces.push]
      · rw [writes.joined, joined]
        rfl

/-- A written text reads back as itself and leaves what follows its closing quote. -/
theorem read_write (content : String) (rest : List Char)
    : read (escapeAll content.toList ++ '"' :: rest) = (⟨.ok content, .ok ()⟩, rest) := by
  obtain ⟨pieces, cut, joined⟩ := exists_split_escapeAll content.toList rest
  rw [read, cut, joined]
  simp [Except.map, Ending.check, String.ofList_toList]

end SchemaNames.Quoted
