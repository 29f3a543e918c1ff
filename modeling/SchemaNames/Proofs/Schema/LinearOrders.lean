import SchemaNames.Schema.FieldRef

/-! The orders of places and of identities of fields. Both compare part by part, so that the first
part in which two values differ decides, and both are linear orders that tell any two values apart.
-/

namespace SchemaNames

/-- (ComparesBy precedes) says that comparison is a linear order in which exactly those values come
before another that precede it, and in which only a value and itself are equal.
-/
structure ComparesBy {α : Type} [Ord α] (precedes : α → α → Prop) : Prop where
  less_iff : ∀ a b : α, compare a b = .lt ↔ precedes a b
  equal_iff : ∀ a b : α, compare a b = .eq ↔ a = b
  greater_iff : ∀ a b : α, compare a b = .gt ↔ precedes b a
  total : ∀ a b : α, (compare a b).isLE ∨ (compare b a).isLE
  antisymm : ∀ a b : α, (compare a b).isLE → (compare b a).isLE → a = b
  trans : ∀ a b c : α, (compare a b).isLE → (compare b c).isLE → (compare a c).isLE

/-- A comparison whose equality, reversal and transitivity are known is one by what it finds
less.
-/
theorem ComparesBy.of_less_iff {α : Type} [Ord α] [Std.TransOrd α] [Std.LawfulEqOrd α]
    {precedes : α → α → Prop} (less_iff : ∀ a b, compare a b = .lt ↔ precedes a b)
    : ComparesBy precedes where
  less_iff := less_iff
  equal_iff _ _ := Std.LawfulEqOrd.compare_eq_iff_eq
  greater_iff a b := Std.OrientedCmp.gt_iff_lt.trans (less_iff b a)
  total a b := by
    rw [Std.OrientedOrd.eq_swap (a := b) (b := a)]
    cases compare a b <;> decide
  antisymm _ _ below above :=
    Std.LawfulEqOrd.eq_of_compare (Std.OrientedCmp.isLE_antisymm below above)
  trans _ _ _ := Std.TransOrd.isLE_trans

/-- A value that compares as less is another one. -/
theorem ne_of_compare_eq_lt {α : Type} [Ord α] [Std.ReflOrd α] {a b : α}
    (less : compare a b = .lt)
    : a ≠ b := by
  rintro rfl
  rw [Std.ReflOrd.compare_self] at less
  cases less

-- The library orders texts by the first characters that differ, but has no lemma for this.
theorem compare_text_eq_lt_iff {a b : String} : compare a b = .lt ↔ a < b :=
  compareOfLessAndEq_eq_lt

-----------------------------------------------------------------------------------------
-- Places
-----------------------------------------------------------------------------------------

namespace Position

/-- The first part in which two places differ decides which one precedes the other; a place without
a name precedes those that have one.
-/
inductive Precedes (a b : Position) : Prop
  | unnamed {name : String} (unnamed : a.name = none) (named : b.name = some name)
  | name {m n : String} (here : a.name = some m) (there : b.name = some n) (earlier : m < n)
  | line (name : a.name = b.name) (earlier : a.line < b.line)
  | column (name : a.name = b.name) (line : a.line = b.line) (earlier : a.column < b.column)

instance : Std.TransOrd Position :=
  inferInstanceAs
    (Std.TransCmp
      (compareLex (compareOn name) (compareLex (compareOn line) (compareOn column))))

instance : Std.LawfulEqOrd Position where
  eq_of_compare {a b} same := by
    obtain ⟨_, _, _⟩ := a
    obtain ⟨_, _, _⟩ := b
    change compare _ _ = .eq at same
    simpa only [compare, Ordering.then_eq_eq, Std.LawfulEqOrd.compare_eq_iff_eq, mk.injEq]
      using same

/-- Names compare as texts, and no name comes before every name. -/
theorem compare_name_eq_lt_iff {a b : Position}
    : Ord.compare a.name b.name = .lt
      ↔ (a.name = none ∧ ∃ n, b.name = some n)
        ∨ ∃ m n, a.name = some m ∧ b.name = some n ∧ m < n := by
  cases a.name with
  | none => cases b.name <;> simp [Ord.compare]
  | some m =>
      cases b.name with
      | none => simp [Ord.compare]
      | some n =>
          change Ord.compare m n = .lt ↔ _
          simp [compare_text_eq_lt_iff]

/-- A place comes first exactly if it precedes, by cases on the first part that differs. -/
theorem compare_eq_lt_iff (a b : Position) : Ord.compare a b = .lt ↔ a.Precedes b := by
  change compare a b = .lt ↔ _
  have less {m n : UInt64} : Ord.compare m n = .lt ↔ m < n := compareOfLessAndEq_eq_lt
  simp only [compare, Ordering.then_eq_lt, Std.LawfulEqOrd.compare_eq_iff_eq,
    compare_name_eq_lt_iff, less]
  constructor
  · rintro ((⟨unnamed, _, named⟩ | ⟨_, _, here, there, earlier⟩)
      | ⟨name, earlier | ⟨line, earlier⟩⟩)
    · exact .unnamed unnamed named
    · exact .name here there earlier
    · exact .line name earlier
    · exact .column name line earlier
  · rintro (⟨unnamed, named⟩ | ⟨here, there, earlier⟩ | ⟨name, earlier⟩ | ⟨name, line, earlier⟩)
    · exact .inl (.inl ⟨unnamed, _, named⟩)
    · exact .inl (.inr ⟨_, _, here, there, earlier⟩)
    · exact .inr ⟨name, .inl earlier⟩
    · exact .inr ⟨name, .inr ⟨line, earlier⟩⟩

end Position

-----------------------------------------------------------------------------------------
-- Identities of fields
-----------------------------------------------------------------------------------------

/-- Requests precede responses, and both precede data objects. -/
inductive FieldGroup.Precedes : FieldGroup → FieldGroup → Prop
  | requestResponse : Precedes .request .response
  | requestDataObject : Precedes .request .dataObject
  | responseDataObject : Precedes .response .dataObject

theorem FieldGroup.rank_lt_iff {a b : FieldGroup} : a.rank < b.rank ↔ a.Precedes b := by
  constructor
  · intro earlier
    match a, b, earlier with
    | .request, .response, _ => exact .requestResponse
    | .request, .dataObject, _ => exact .requestDataObject
    | .response, .dataObject, _ => exact .responseDataObject
  · rintro (_ | _ | _) <;> decide

theorem FieldGroup.rank_inj {a b : FieldGroup} : a.rank = b.rank ↔ a = b := by
  cases a <;> cases b <;> decide

namespace FieldId

/-- The first part in which two identities differ decides which one precedes the other. -/
inductive Precedes (a b : FieldId) : Prop
  | member (earlier : a.member < b.member)
  | group (member : a.member = b.member) (earlier : a.group.Precedes b.group)
  | index (member : a.member = b.member) (group : a.group = b.group)
    (earlier : a.index < b.index)
  | owner (member : a.member = b.member) (group : a.group = b.group)
    (index : a.index = b.index) (earlier : a.owner < b.owner)
  | field (member : a.member = b.member) (group : a.group = b.group)
    (index : a.index = b.index) (owner : a.owner = b.owner) (earlier : a.field < b.field)

instance : Std.TransOrd FieldId :=
  inferInstanceAs
    (Std.TransCmp
      (compareLex (compareOn member)
        (compareLex (compareOn fun id => id.group.rank)
          (compareLex (compareOn index) (compareLex (compareOn owner) (compareOn field))))))

instance : Std.LawfulEqOrd FieldId where
  eq_of_compare {a b} same := by
    obtain ⟨_, _, _, _, _⟩ := a
    obtain ⟨_, _, _, _, _⟩ := b
    change compare _ _ = .eq at same
    simpa only [compare, Ordering.then_eq_eq, Std.LawfulEqOrd.compare_eq_iff_eq,
      FieldGroup.rank_inj, mk.injEq] using same

/-- An identity comes first exactly if it precedes, by cases on the first part that differs. -/
theorem compare_eq_lt_iff {a b : FieldId} : Ord.compare a b = .lt ↔ a.Precedes b := by
  change compare a b = .lt ↔ _
  simp only [compare, Ordering.then_eq_lt, Std.LawfulEqOrd.compare_eq_iff_eq, Nat.compare_eq_lt,
    FieldGroup.rank_lt_iff, FieldGroup.rank_inj, compare_text_eq_lt_iff]
  constructor
  · rintro (earlier | ⟨member, earlier | ⟨group, earlier | ⟨index, earlier | ⟨owner, earlier⟩⟩⟩⟩)
    · exact .member earlier
    · exact .group member earlier
    · exact .index member group earlier
    · exact .owner member group index earlier
    · exact .field member group index owner earlier
  · rintro (earlier | ⟨member, earlier⟩ | ⟨member, group, earlier⟩
      | ⟨member, group, index, earlier⟩ | ⟨member, group, index, owner, earlier⟩)
    · exact .inl earlier
    · exact .inr ⟨member, .inl earlier⟩
    · exact .inr ⟨member, .inr ⟨group, .inl earlier⟩⟩
    · exact .inr ⟨member, .inr ⟨group, .inr ⟨index, .inl earlier⟩⟩⟩
    · exact .inr ⟨member, .inr ⟨group, .inr ⟨index, .inr ⟨owner, earlier⟩⟩⟩⟩

end FieldId

end SchemaNames
