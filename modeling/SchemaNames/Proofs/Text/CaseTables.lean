import Mathlib.Data.Nat.ModEq
import SchemaNames.Text.Case

/-! Case mappings whose forms are not mapped any further. Whether a run leaves the forms of another
one alone is decided from the two runs, without a look at each of their code points.
-/

namespace SchemaNames.Text

-----------------------------------------------------------------------------------------
-- Runs
-----------------------------------------------------------------------------------------

namespace CaseRun

/-- The run that covers one code point. -/
def single (code : Nat) : CaseRun :=
  { first := code, last := code, stride := 1, target := code }

/-- Holds when the forms of a run lie before or behind another run, or between the code points that
it covers.
-/
def avoids (run other : CaseRun) : Bool :=
  -- `Nat.blt` is what the kernel computes at once, and a table has some fifty thousand pairs
  Nat.blt (run.target + (run.last - run.first)) other.first
    || Nat.blt other.last run.target
    || ((run.first == run.last || run.stride % other.stride == 0)
      && run.target % other.stride != other.first % other.stride)

theorem avoids_iff {run other : CaseRun}
    : run.avoids other = true
      ↔ (run.target + (run.last - run.first) < other.first ∨ other.last < run.target)
        ∨ (run.first = run.last ∨ run.stride % other.stride = 0)
          ∧ run.target % other.stride ≠ other.first % other.stride := by
  simp only [avoids, Bool.or_eq_true, Nat.blt_eq, Bool.and_eq_true, beq_iff_eq, bne_iff_ne]

theorem covers_iff {run : CaseRun} {code : Nat}
    : run.covers code = true
      ↔ (run.first ≤ code ∧ code ≤ run.last) ∧ (code - run.first) % run.stride = 0 := by
  simp only [covers, Bool.and_eq_true, decide_eq_true_eq, beq_iff_eq]

theorem covers_single (code : Nat) : (single code).covers code = true := by
  simp [covers_iff, single]

/-- A run that is avoided covers no form. Witness: a form inside its span is as far from its first
code point, up to its stride, as the first form is.
-/
theorem covers_image_of_avoids {run other : CaseRun} (avoided : run.avoids other = true)
    {code : Nat} (covered : run.covers code = true)
    : other.covers (run.image code) = false := by
  obtain ⟨⟨above, below⟩, onStride⟩ := covers_iff.mp covered
  rw [Bool.eq_false_iff, Ne, covers_iff, image]
  rintro ⟨⟨firstLe, leLast⟩, onOther⟩
  rcases avoids_iff.mp avoided with (before | behind) | ⟨steps, residue⟩
  · omega
  · omega
  · have offset : other.stride ∣ code - run.first := by
      rcases steps with one | multiple
      · rw [show code - run.first = 0 by omega]
        exact Nat.dvd_zero _
      · exact (Nat.dvd_of_mod_eq_zero multiple).trans (Nat.dvd_of_mod_eq_zero onStride)
    have fromTarget : run.target ≡ run.target + (code - run.first) [MOD other.stride] :=
      (Nat.modEq_iff_dvd' (Nat.le_add_right _ _)).mpr (by simpa using offset)
    have fromFirst : other.first ≡ run.target + (code - run.first) [MOD other.stride] :=
      (Nat.modEq_iff_dvd' firstLe).mpr (Nat.dvd_of_mod_eq_zero onOther)
    exact residue (fromTarget.trans fromFirst.symm)

end CaseRun

-----------------------------------------------------------------------------------------
-- Tables
-----------------------------------------------------------------------------------------

/-- Holds for a code point that neither table maps. -/
def isUnmapped (runs : List CaseRun) (expansions : List Expansion) (code : Nat) : Bool :=
  !expansions.any (·.code == code) && !runs.any (·.covers code)

/-- Tables that map none of their forms any further; all forms are characters. -/
structure IsFinal (runs : List CaseRun) (expansions : List Expansion) : Prop where
  runsAvoidRuns : (runs.all fun run => runs.all run.avoids) = true
  runsAvoidExpansions
    : (runs.all fun run =>
        expansions.all fun expansion => run.avoids (.single expansion.code)) = true
  formsUnmapped
    : ∀ expansion ∈ expansions, ∀ code ∈ expansion.form, isUnmapped runs expansions code = true
  runsValid
    : ∀ run ∈ runs,
        run.target + (run.last - run.first) < 0xD800
        ∨ 0xDFFF < run.target ∧ run.target + (run.last - run.first) < 0x110000
  formsValid : ∀ expansion ∈ expansions, ∀ code ∈ expansion.form, code.isValidChar

section

variable {runs : List CaseRun} {expansions : List Expansion}

theorem isUnmapped_iff {code : Nat}
    : isUnmapped runs expansions code = true
      ↔ (∀ expansion ∈ expansions, expansion.code ≠ code)
        ∧ ∀ run ∈ runs, run.covers code = false := by
  simp [isUnmapped]

/-- A code point that is not mapped is its own form. -/
theorem mapCode_of_isUnmapped {code : Nat} (unmapped : isUnmapped runs expansions code = true)
    : mapCode runs expansions code = [code] := by
  obtain ⟨noExpansion, noRun⟩ := isUnmapped_iff.mp unmapped
  rw [mapCode, List.find?_eq_none.mpr (by simpa using noExpansion),
    List.find?_eq_none.mpr (by simpa using noRun)]

/-- A form of a final table either is a code point that is its own form, or is a character that the
table does not map. Witness: it comes from an expansion, from a run, or from neither.
-/
theorem IsFinal.isUnmapped_form (final : IsFinal runs expansions) {code form : Nat}
    (mapped : form ∈ mapCode runs expansions code)
    : (form = code ∧ mapCode runs expansions code = [code])
      ∨ (isUnmapped runs expansions form = true ∧ form.isValidChar) := by
  unfold mapCode at mapped ⊢
  split at mapped
  case h_1 expansion found =>
    have listed := List.mem_of_find?_eq_some found
    exact .inr ⟨final.formsUnmapped expansion listed form mapped,
      final.formsValid expansion listed form mapped⟩
  case h_2 =>
    split at mapped
    case h_1 run found =>
      obtain rfl := List.mem_singleton.mp mapped
      have listed := List.mem_of_find?_eq_some found
      have covered : run.covers code = true := by simpa using List.find?_some found
      have avoidsRuns := List.all_eq_true.mp final.runsAvoidRuns run listed
      have avoidsExpansions := List.all_eq_true.mp final.runsAvoidExpansions run listed
      rw [List.all_eq_true] at avoidsRuns avoidsExpansions
      refine .inr ⟨isUnmapped_iff.mpr ⟨?_, ?_⟩, ?_⟩
      · intro expansion expands same
        have apart :=
          CaseRun.covers_image_of_avoids (avoidsExpansions expansion expands) covered
        rw [← same, CaseRun.covers_single] at apart
        cases apart
      · intro other inRuns
        exact CaseRun.covers_image_of_avoids (avoidsRuns other inRuns) covered
      · have span := (CaseRun.covers_iff.mp covered).1
        have valid := final.runsValid run listed
        simp only [CaseRun.image, Nat.isValidChar]
        omega
    case h_2 => exact .inl ⟨List.mem_singleton.mp mapped, by simp [*]⟩

/-- Every character of a form is its own form, when the table is final. -/
theorem IsFinal.map_ofNat_mapCode (final : IsFinal runs expansions) {c form : Char}
    (mapped : form ∈ (mapCode runs expansions c.toNat).map Char.ofNat)
    : (mapCode runs expansions form.toNat).map Char.ofNat = [form] := by
  obtain ⟨code, inForm, rfl⟩ := List.mem_map.mp mapped
  rcases final.isUnmapped_form inForm with ⟨rfl, own⟩ | ⟨unmapped, valid⟩
  · rw [Char.ofNat_toNat, own, List.map_singleton, Char.ofNat_toNat]
  · have number : (Char.ofNat code).toNat = code := by
      rw [Char.ofNat, dif_pos valid]
      rfl
    rw [number, mapCode_of_isUnmapped unmapped, List.map_singleton]

/-- Every code point has a form. -/
theorem mapCode_ne_nil (filled : ∀ expansion ∈ expansions, expansion.form ≠ []) (code : Nat)
    : mapCode runs expansions code ≠ [] := by
  unfold mapCode
  split
  case h_1 expansion found => exact filled expansion (List.mem_of_find?_eq_some found)
  case h_2 => split <;> exact List.cons_ne_nil _ _

end

-----------------------------------------------------------------------------------------
-- Upper case
-----------------------------------------------------------------------------------------

/-- No upper-case form has a character that has another upper-case form. -/
theorem isFinal_upper : IsFinal upperRuns upperExpansions where
  runsAvoidRuns := by decide +kernel
  runsAvoidExpansions := by decide +kernel
  formsUnmapped := by decide +kernel
  runsValid := by decide +kernel
  formsValid := by decide +kernel

/-- The upper-case form of a character begins with a character that is in upper case already. -/
theorem exists_upper_eq_cons (c : Char)
    : ∃ first rest, upper c = first :: rest ∧ upper first = [first] := by
  have filled : upper c ≠ [] := by
    rw [upper, Ne, List.map_eq_nil_iff]
    exact mapCode_ne_nil (by decide +kernel) c.toNat
  obtain ⟨first, rest, form⟩ := List.exists_cons_of_ne_nil filled
  have inForm : first ∈ upper c := form ▸ List.mem_cons_self
  exact ⟨first, rest, form, isFinal_upper.map_ofNat_mapCode inForm⟩

/-- Capitalizing a capitalized text changes nothing, even where the form of the first character has
several characters.
-/
theorem capitalize_capitalize (text : String) : capitalize (capitalize text) = capitalize text := by
  rw [capitalize, capitalize, String.toList_ofList]
  congr 1
  cases text.toList with
  | nil => rfl
  | cons c rest =>
      obtain ⟨first, others, form, settled⟩ := exists_upper_eq_cons c
      simp only [capitalizeChars, form, List.cons_append, settled, List.nil_append]

end SchemaNames.Text
