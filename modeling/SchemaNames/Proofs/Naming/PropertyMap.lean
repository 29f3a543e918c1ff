import Mathlib.Data.List.Induction
import SchemaNames.Naming.PropertyNames
import SchemaNames.Proofs.Schema.FieldOrder

/-! Property names as a map from identities of fields. A name that is put in is found under its own
identity, and nothing changes for any other; after any number of insertions the entries stand in
strictly increasing order, one for each identity.
-/

namespace SchemaNames.PropertyNames

-----------------------------------------------------------------------------------------
-- Finding a name
-----------------------------------------------------------------------------------------

/-- Entries are found by equality of identities. -/
theorem find?_eq (names : PropertyNames) (id : FieldId)
    : names.find? id = (names.entries.find? (·.1 = id)).map (·.2) := by
  simp only [find?, Std.LawfulEqOrd.compare_eq_iff_eq]

/-- The entries in increasing order are those that are found. -/
theorem mem_entries_iff {names : PropertyNames}
    (increasing : names.entries.Pairwise fun a b => compare a.1 b.1 = .lt) {id : FieldId}
    {name : String}
    : (id, name) ∈ names.entries ↔ names.find? id = some name := by
  have apart := increasing.imp ne_of_compare_eq_lt
  rw [find?_eq, Option.map_eq_some_iff]
  constructor
  · intro listed
    exact ⟨(id, name), (find?_key_eq_some_iff apart).mpr ⟨listed, rfl⟩, rfl⟩
  · rintro ⟨entry, found, rfl⟩
    obtain ⟨listed, rfl⟩ := (find?_key_eq_some_iff apart).mp found
    exact listed

-----------------------------------------------------------------------------------------
-- One insertion
-----------------------------------------------------------------------------------------

/-- The entry that was put in is the first one of its identity, by induction on the entries
before its place.
-/
theorem find?_insertEntry_self (id : FieldId) (name : String)
    (entries : List (FieldId × String))
    : (insertEntry id name entries).find? (·.1 = id) = some (id, name) := by
  induction entries with
  | nil => simp [insertEntry]
  | cons entry rest ih =>
      obtain ⟨other, otherName⟩ := entry
      unfold insertEntry
      split
      · simp
      · simp
      case h_3 after =>
        have different : other ≠ id := by
          rintro rfl
          rw [Std.ReflOrd.compare_self] at after
          cases after
        rw [List.find?_cons_of_neg (by simpa using different), ih]

/-- Putting an entry in changes nothing for another identity, by induction on the entries before
its place; an entry that is replaced is of the same identity.
-/
theorem find?_insertEntry_of_ne {id other : FieldId} (different : other ≠ id) (name : String)
    (entries : List (FieldId × String))
    : (insertEntry id name entries).find? (·.1 = other) = entries.find? (·.1 = other) := by
  induction entries with
  | nil => simp [insertEntry, different.symm]
  | cons entry rest ih =>
      obtain ⟨found, foundName⟩ := entry
      unfold insertEntry
      split
      · rw [List.find?_cons_of_neg (by simpa using different.symm)]
      case h_2 same =>
        obtain rfl := Std.LawfulEqOrd.eq_of_compare same
        rw [List.find?_cons_of_neg (by simpa using different.symm),
          List.find?_cons_of_neg (by simpa using different.symm)]
      · rw [List.find?_cons, List.find?_cons, ih]

/-- A name that was put in is found under its identity. -/
theorem find?_insert_self (names : PropertyNames) (id : FieldId) (name : String)
    : (names.insert id name).find? id = some name := by
  rw [find?_eq, insert, find?_insertEntry_self, Option.map_some]

/-- Under every other identity nothing changes. -/
theorem find?_insert_of_ne (names : PropertyNames) {id other : FieldId} (different : other ≠ id)
    (name : String)
    : (names.insert id name).find? other = names.find? other := by
  rw [find?_eq, find?_eq, insert, find?_insertEntry_of_ne different]

/-- An insertion adds no entry but its own, by induction on the entries before its place. -/
theorem mem_insertEntry {id : FieldId} {name : String} {entries : List (FieldId × String)}
    {entry : FieldId × String} (listed : entry ∈ insertEntry id name entries)
    : entry = (id, name) ∨ entry ∈ entries := by
  induction entries with
  | nil => exact .inl (List.mem_singleton.mp listed)
  | cons first rest ih =>
      obtain ⟨other, otherName⟩ := first
      unfold insertEntry at listed
      split at listed
      · exact List.mem_cons.mp listed
      · exact (List.mem_cons.mp listed).imp_right (List.mem_cons_of_mem _)
      · rcases List.mem_cons.mp listed with rfl | later
        · exact .inr List.mem_cons_self
        · exact (ih later).imp_right (List.mem_cons_of_mem _)

/-- An insertion keeps entries in increasing order, by induction on the entries before its place:
the new identity is less than the one it is put before, and so than all behind that.
-/
theorem pairwise_insertEntry {entries : List (FieldId × String)}
    (increasing : entries.Pairwise fun a b => compare a.1 b.1 = .lt) (id : FieldId)
    (name : String)
    : (insertEntry id name entries).Pairwise fun a b => compare a.1 b.1 = .lt := by
  induction entries with
  | nil => exact List.pairwise_singleton _ _
  | cons first rest ih =>
      obtain ⟨other, otherName⟩ := first
      obtain ⟨here, later⟩ := List.pairwise_cons.mp increasing
      unfold insertEntry
      split
      case h_1 before =>
        refine List.pairwise_cons.mpr ⟨?_, increasing⟩
        rintro entry (_ | ⟨_, behind⟩)
        · exact before
        · exact Std.TransCmp.lt_trans before (here entry behind)
      case h_2 same =>
        obtain rfl := Std.LawfulEqOrd.eq_of_compare same
        exact List.pairwise_cons.mpr ⟨here, later⟩
      case h_3 after =>
        refine List.pairwise_cons.mpr ⟨?_, ih later⟩
        intro entry listed
        rcases mem_insertEntry listed with rfl | old
        · exact Std.OrientedCmp.gt_iff_lt.mp after
        · exact here entry old

/-- A name whose field comes behind all others is put at the end, by induction on the entries. -/
theorem insertEntry_of_last {id : FieldId} {entries : List (FieldId × String)}
    (last : ∀ entry ∈ entries, compare entry.1 id = .lt) (name : String)
    : insertEntry id name entries = entries ++ [(id, name)] := by
  induction entries with
  | nil => rfl
  | cons entry rest ih =>
      obtain ⟨here, later⟩ := List.forall_mem_cons.mp last
      have behind : compare id entry.1 = .gt := Std.OrientedCmp.gt_iff_lt.mpr here
      simp only [insertEntry, behind, ih later, List.cons_append]

-----------------------------------------------------------------------------------------
-- Any number of insertions
-----------------------------------------------------------------------------------------

/-- The property names that come of the given ones, where a later name replaces an earlier one. -/
def insertAll (given : List (FieldId × String)) : PropertyNames :=
  given.foldl (fun names entry => names.insert entry.1 entry.2) {}

/-- The name that was given last to a field. -/
def lastGiven? (given : List (FieldId × String)) (id : FieldId) : Option String :=
  (given.reverse.find? (·.1 = id)).map (·.2)

/-- (names.MapOf given) says that the names are a map of the given ones: in strictly increasing
order and no identity twice, with one entry for each identity that was given, and no other.
-/
structure MapOf (names : PropertyNames) (given : List (FieldId × String)) : Prop where
  increasing : names.entries.Pairwise fun a b => compare a.1 b.1 = .lt
  once : (names.entries.map (·.1)).Nodup
  mem_iff : ∀ id name, (id, name) ∈ names.entries ↔ lastGiven? given id = some name
  find?_eq : ∀ id, names.find? id = lastGiven? given id

theorem insertAll_append_singleton (given : List (FieldId × String)) (id : FieldId)
    (name : String)
    : insertAll (given ++ [(id, name)]) = (insertAll given).insert id name := by
  rw [insertAll, List.foldl_append]
  rfl

/-- Insertions keep entries in increasing order, by induction with the last insertion taken off. -/
theorem increasing_insertAll (given : List (FieldId × String))
    : (insertAll given).entries.Pairwise fun a b => compare a.1 b.1 = .lt := by
  induction given using List.reverseRecOn with
  | nil => exact List.Pairwise.nil
  | append_singleton given entry ih =>
      rw [insertAll_append_singleton]
      exact pairwise_insertEntry ih entry.1 entry.2

/-- A field is found under the name that it was given last, by induction with the last insertion
taken off.
-/
theorem find?_insertAll (given : List (FieldId × String)) (id : FieldId)
    : (insertAll given).find? id = lastGiven? given id := by
  induction given using List.reverseRecOn with
  | nil => rfl
  | append_singleton given entry ih =>
      rw [insertAll_append_singleton, lastGiven?, List.reverse_concat]
      by_cases same : entry.1 = id
      · subst same
        rw [find?_insert_self, List.find?_cons_of_pos (by simp), Option.map_some]
      · rw [find?_insert_of_ne _ (Ne.symm same), List.find?_cons_of_neg (by simpa using same), ih,
          lastGiven?]

/-- Insertions make a map of what is inserted. -/
theorem mapOf_insertAll (given : List (FieldId × String)) : (insertAll given).MapOf given := by
  have increasing := increasing_insertAll given
  have apart := increasing.imp ne_of_compare_eq_lt
  refine ⟨increasing, List.pairwise_map.mpr apart, ?_, find?_insertAll given⟩
  intro id name
  rw [← find?_insertAll, mem_entries_iff increasing]

/-- Names that are given in increasing order are the entries, by induction with the last insertion
taken off.
-/
theorem entries_insertAll_of_increasing {given : List (FieldId × String)}
    (increasing : given.Pairwise fun a b => compare a.1 b.1 = .lt)
    : (insertAll given).entries = given := by
  induction given using List.reverseRecOn with
  | nil => rfl
  | append_singleton given entry ih =>
      obtain ⟨earlier, -, behind⟩ := List.pairwise_append.mp increasing
      rw [insertAll_append_singleton, insert, ih earlier]
      exact insertEntry_of_last (fun other listed => behind other listed entry List.mem_cons_self) _

end SchemaNames.PropertyNames
