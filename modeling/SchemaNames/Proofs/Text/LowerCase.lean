import SchemaNames.Proofs.Text.CaseTables

/-! Text in lower case. Its characters are their own lower-case forms and none is a capital sigma,
so that no context changes it and lowering it once more gives the same text.
-/

namespace SchemaNames.Text

/-- No lower-case form has a character that has another lower-case form. -/
theorem isFinal_lower : IsFinal lowerRuns lowerExpansions where
  runsAvoidRuns := by decide +kernel
  runsAvoidExpansions := by decide +kernel
  formsUnmapped := by decide +kernel
  runsValid := by decide +kernel
  formsValid := by decide +kernel

/-- (IsLower c) says that a character is its own lower-case form. -/
def IsLower (c : Char) : Prop :=
  lower c = [c]

instance : DecidablePred IsLower :=
  fun c => inferInstanceAs (Decidable (lower c = [c]))

/-- Every character of a lower-case form is in lower case. -/
theorem isLower_of_mem_lower {c form : Char} (inForm : form ∈ lower c) : IsLower form :=
  isFinal_lower.map_ofNat_mapCode inForm

/-- A character in lower case is left alone in every context, as it is no capital sigma. -/
theorem IsLower.lowerInContext_eq {c : Char} (isLower : IsLower c) (before after : List Char)
    : lowerInContext before c after = [c] := by
  have sigmaIsUpper : ¬ IsLower capitalSigma := by decide +kernel
  have noSigma : c ≠ capitalSigma := by
    intro isSigma
    exact sigmaIsUpper (isSigma ▸ isLower)
  rw [lowerInContext, if_neg noSigma]
  exact isLower

/-- A character is lowered to characters in lower case, in every context; so are both forms of a
capital sigma.
-/
theorem isLower_of_mem_lowerInContext {before after : List Char} {c form : Char}
    (inForm : form ∈ lowerInContext before c after)
    : IsLower form := by
  have small : IsLower smallSigma := by decide +kernel
  have final : IsLower finalSigma := by decide +kernel
  rw [lowerInContext] at inForm
  split at inForm
  · split at inForm
    · exact List.mem_singleton.mp inForm ▸ final
    · exact List.mem_singleton.mp inForm ▸ small
  · exact isLower_of_mem_lower inForm

/-- Lowering gives characters in lower case only, by induction on the text with the characters
before it.
-/
theorem isLower_of_mem_lowerAfter {before cs : List Char} {form : Char}
    (inText : form ∈ lowerAfter before cs)
    : IsLower form := by
  induction cs generalizing before with
  | nil => cases inText
  | cons c after ih =>
      rw [lowerAfter, List.mem_append] at inText
      rcases inText with here | later
      · exact isLower_of_mem_lowerInContext here
      · exact ih later

/-- Lowering changes nothing in lower case, by induction on the text with the characters before
it.
-/
theorem lowerAfter_eq_self {cs : List Char} (each : ∀ c ∈ cs, IsLower c) (before : List Char)
    : lowerAfter before cs = cs := by
  induction cs generalizing before with
  | nil => rfl
  | cons c after ih =>
      obtain ⟨here, later⟩ := List.forall_mem_cons.mp each
      rw [lowerAfter, here.lowerInContext_eq, ih later, List.singleton_append]

/-- Lowering a text in lower case changes nothing, even where it gave a final sigma or several
characters for one.
-/
theorem lowerCase_lowerCase (text : String) : lowerCase (lowerCase text) = lowerCase text := by
  have settled : ∀ c ∈ lowerAfter [] text.toList, IsLower c :=
    fun _ inText => isLower_of_mem_lowerAfter inText
  rw [lowerCase, lowerCase, String.toList_ofList, lowerAfter_eq_self settled]

end SchemaNames.Text
