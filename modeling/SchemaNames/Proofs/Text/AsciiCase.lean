import SchemaNames.Text.Case

/-! Texts that differ in the case of ASCII letters only. Such a letter has the same forms in either
case and is the same neighbour to a capital sigma, so that lowering does not see the difference, and
neither does capitalizing before it.
-/

namespace SchemaNames.Text

/-- (SameUpToAsciiCase a b) says that the texts have the same characters, where an ASCII letter may
be in upper case in one and in lower case in the other.
-/
def SameUpToAsciiCase (a b : String) : Prop :=
  -- `Char.toLower` maps ASCII letters only
  a.toList.map Char.toLower = b.toList.map Char.toLower

instance (a b : String) : Decidable (SameUpToAsciiCase a b) :=
  inferInstanceAs (Decidable (_ = _))

-----------------------------------------------------------------------------------------
-- Letters
-----------------------------------------------------------------------------------------

/-- A function that is the same for both cases of every ASCII letter does not see whether a
character was put in ASCII lower case. Witness: any other character is left as it is.
-/
theorem apply_toLower_of_letters {α : Type} {f : Char → α}
    (letters
      : ∀ offset < 26, f (Char.ofNat (offset + 65)).toLower = f (Char.ofNat (offset + 65)))
    (c : Char)
    : f c.toLower = f c := by
  by_cases capital : c.val ≥ 'A'.val ∧ c.val ≤ 'Z'.val
  · have above : 65 ≤ c.toNat := UInt32.le_iff_toNat_le.mp capital.1
    have below : c.toNat ≤ 90 := UInt32.le_iff_toNat_le.mp capital.2
    have same := letters (c.toNat - 65) (by omega)
    rwa [Nat.sub_add_cancel above, Char.ofNat_toNat] at same
  · have kept : c.toLower = c := dif_neg capital
    rw [kept]

@[simp] theorem upper_toLower (c : Char) : upper c.toLower = upper c :=
  apply_toLower_of_letters (by decide +kernel) c

/-- Capitalizing keeps texts the same but for the case of ASCII letters. Witness: the first
characters have the same upper-case form.
-/
theorem SameUpToAsciiCase.capitalize {a b : String} (same : SameUpToAsciiCase a b)
    : SameUpToAsciiCase (capitalize a) (capitalize b) := by
  rw [SameUpToAsciiCase] at *
  rw [Text.capitalize, Text.capitalize, String.toList_ofList, String.toList_ofList]
  cases first : a.toList with
  | nil =>
      rw [first, List.map_nil, eq_comm, List.map_eq_nil_iff] at same
      rw [same]
  | cons c rest =>
      rw [first, List.map_cons, eq_comm, List.map_eq_cons_iff] at same
      obtain ⟨d, others, second, here, later⟩ := same
      have form : upper d = upper c := by rw [← upper_toLower, here, upper_toLower]
      rw [second, capitalizeChars, capitalizeChars, List.map_append, List.map_append, form, later]

/-- Texts joined from such parts are the same but for the case of ASCII letters. -/
theorem SameUpToAsciiCase.append {a b c d : String} (left : SameUpToAsciiCase a b)
    (right : SameUpToAsciiCase c d)
    : SameUpToAsciiCase (a ++ c) (b ++ d) := by
  rw [SameUpToAsciiCase] at *
  simp only [String.toList_append, List.map_append, left, right]

theorem SameUpToAsciiCase.refl (text : String) : SameUpToAsciiCase text text :=
  rfl

end SchemaNames.Text
