import SchemaNames.Proofs.Loading.AcceptedTexts
import SchemaNames.Proofs.Loading.KnownKeys

/-! Texts that are refused. A known key that stands twice, a required one that is missing, a value
too many and null in place of a value are refused wherever they stand in a document.
-/

namespace SchemaNames

/-- Holds of a document of a shape and what becomes of it by one change that is not forgiven, in
one part of the document. Entries with unknown keys and unrecognized members are not touched.
-/
inductive Altered : (shape : Shape) → Document → Document → Prop where
  /-- A second entry for a field, with any value and anywhere in the record. -/
  | repeated {kind : RecordKind} (before after : List (String × Document))
    (i : Fin kind.arity) (value : Document)
    (present : kind.key i ∈ (before ++ after).map (·.1))
    : Altered (.record kind) (.record (before ++ after))
        (.record (before ++ (kind.key i, value) :: after))
  /-- A field that has no fallback is gone. -/
  | removed {kind : RecordKind} (before after : List (String × Document))
    (i : Fin kind.arity) (value : Document) (required : kind.fallback i = none)
    : Altered (.record kind) (.record (before ++ (kind.key i, value) :: after))
        (.record (before ++ after))
  /-- One value more than there are fields. -/
  | surplus {kind : RecordKind} (items : List Document) (item : Document)
    (full : items.length = kind.arity)
    : Altered (.record kind) (.list items) (.list (items ++ [item]))
  /-- Null in place of what may not be absent. -/
  | nulled {shape : Shape} (document : Document) (mandatory : shape ≠ .optionalText)
    : Altered shape document .null
  /-- A change in the value of a field. -/
  | entry {kind : RecordKind} (before after : List (String × Document)) (i : Fin kind.arity)
    {value altered : Document} (inside : Altered (kind.shape i) value altered)
    : Altered (.record kind) (.record (before ++ (kind.key i, value) :: after))
        (.record (before ++ (kind.key i, altered) :: after))
  /-- A change in the value of a field that stands in the order of the fields. -/
  | valueInOrder {kind : RecordKind} (before after : List Document) (i : Fin kind.arity)
    (place : before.length = i.val) {value altered : Document}
    (inside : Altered (kind.shape i) value altered)
    : Altered (.record kind) (.list (before ++ value :: after))
        (.list (before ++ altered :: after))
  /-- A change in one item of a list. -/
  | item {shape : Shape} (before after : List Document) {value altered : Document}
    (inside : Altered shape value altered)
    : Altered (.list shape) (.list (before ++ value :: after)) (.list (before ++ altered :: after))
  /-- A second entry for the kind of a member. -/
  | kindRepeated (before after : List (String × Document)) (value : Document)
    (present : kindKey ∈ (before ++ after).map (·.1))
    : Altered .member (.record (before ++ after))
        (.record (before ++ (kindKey, value) :: after))
  /-- The kind of a member is gone. -/
  | kindRemoved (before after : List (String × Document)) (value : Document)
    : Altered .member (.record (before ++ (kindKey, value) :: after)) (.record (before ++ after))
  /-- Null in place of the kind of a member. -/
  | kindNulled (before after : List (String × Document)) (value : Document)
    : Altered .member (.record (before ++ (kindKey, value) :: after))
        (.record (before ++ (kindKey, .null) :: after))
  /-- Null in place of the kind of a member that stands in front of its values. -/
  | kindNulledInOrder (items : List Document) (value : Document)
    : Altered .member (.list (value :: items)) (.list (.null :: items))
  /-- A change in the other entries of a member of a recognized kind. -/
  | member {kind : MemberKind} {before after alteredBefore alteredAfter : List (String × Document)}
    (inside
      : Altered (.record kind.record) (.record (before ++ after))
          (.record (alteredBefore ++ alteredAfter)))
    : Altered .member (.record (before ++ (kindKey, .text kind.tag) :: after))
        (.record (alteredBefore ++ (kindKey, .text kind.tag) :: alteredAfter))
  /-- A change in the values behind the kind of a member of a recognized kind. -/
  | memberInOrder {kind : MemberKind} {items altered : List Document}
    (inside : Altered (.record kind.record) (.list items) (.list altered))
    : Altered .member (.list (.text kind.tag :: items)) (.list (.text kind.tag :: altered))

-----------------------------------------------------------------------------------------
-- What represented documents have in common
-----------------------------------------------------------------------------------------

/-- The key of one entry stands in no other one if known keys are not repeated. -/
theorem RecordKind.not_mem_of_unrepeated {kind : RecordKind}
    {before after : List (String × Document)} {i : Fin kind.arity} {value : Document}
    (unrepeated
      : (before ++ (kind.key i, value) :: after).Pairwise
          fun a b => a.1 = b.1 → ∀ i, kind.key i ≠ a.1)
    : kind.key i ∉ (before ++ after).map (·.1) := by
  obtain ⟨-, behind, apartBefore⟩ := List.pairwise_append.mp unrepeated
  obtain ⟨apartAfter, -⟩ := List.pairwise_cons.mp behind
  intro listed
  obtain ⟨entry, listed, sameKey⟩ := List.mem_map.mp listed
  rcases List.mem_append.mp listed with earlier | later
  · exact apartBefore entry earlier _ List.mem_cons_self sameKey i sameKey.symm
  · exact apartAfter entry later sameKey.symm i rfl

/-- An entry with the key of the kind is the one that is tagged, if no other one is. Witness:
induction on the entries before it.
-/
theorem eq_of_untagged {before after first second : List (String × Document)}
    {value tag : Document}
    (same : before ++ (kindKey, value) :: after = first ++ (kindKey, tag) :: second)
    (untagged : ∀ entry ∈ first ++ second, entry.1 ≠ kindKey)
    : before = first ∧ value = tag ∧ after = second := by
  induction before generalizing first with
  | nil =>
      cases first with
      | nil =>
          obtain ⟨sameEntry, sameRest⟩ := List.cons.inj same
          exact ⟨rfl, (Prod.mk.inj sameEntry).2, sameRest⟩
      | cons entry rest =>
          obtain ⟨sameEntry, -⟩ := List.cons.inj same
          exact absurd (congrArg Prod.fst sameEntry).symm (untagged entry List.mem_cons_self)
  | cons entry rest ih =>
      cases first with
      | nil =>
          obtain ⟨-, sameRest⟩ := List.cons.inj same
          have listed : (kindKey, value) ∈ second := by
            rw [← sameRest]
            exact List.mem_append_right _ List.mem_cons_self
          exact absurd rfl (untagged _ listed)
      | cons other more =>
          obtain ⟨rfl, sameRest⟩ := List.cons.inj same
          obtain ⟨rfl, sameValue, sameAfter⟩ :=
            ih sameRest fun entry listed => untagged entry (List.mem_cons_of_mem _ listed)
          exact ⟨rfl, sameValue, sameAfter⟩

namespace Represents

/-- Every item of a list represents a value. -/
theorem exists_of_mem_list {item : Shape} {items : List Document} {values : List item.Value}
    (represents : Represents (.list item) (.list items) values) {document : Document}
    (listed : document ∈ items)
    : ∃ value, Represents item document value := by
  cases represents with
  | list sameLength each =>
      obtain ⟨index, bound, rfl⟩ := List.mem_iff_getElem.mp listed
      have inside : index < (items.zip values).length := by
        rw [List.length_zip, ← sameLength, Nat.min_self]
        exact bound
      refine ⟨_, List.getElem_zip ▸ each _ (List.getElem_mem inside)⟩

/-- The other entries of a member of a recognized kind represent a record. -/
theorem exists_record_of_member {kind : MemberKind} {before after : List (String × Document)}
    {member : Member}
    (represents
      : Represents .member (.record (before ++ (kindKey, .text kind.tag) :: after)) member)
    : ∃ value, Represents (.record kind.record) (.record (before ++ after)) value := by
  obtain ⟨first, word, second, same, untagged, -⟩ := represents.exists_kind_of_member
  obtain ⟨rfl, -, rfl⟩ := eq_of_untagged same untagged
  have allowed : Level.checked.Allows (.record (before ++ (kindKey, .text kind.tag) :: after)) :=
    trivial
  have read := represents.read_ofDocument .checked allowed
  rw [Node.read_member_of_record untagged allowed] at read
  obtain ⟨value, read, -⟩ := map_eq_ok_iff.mp read
  exact ⟨value, of_read _ read⟩

/-- The values behind the kind of a member of a recognized kind represent a record. -/
theorem exists_inOrder_of_member {kind : MemberKind} {items : List Document} {member : Member}
    (represents : Represents .member (.list (.text kind.tag :: items)) member)
    : ∃ value, Represents (.record kind.record) (.list items) value := by
  have allowed : Level.checked.Allows (.list (.text kind.tag :: items)) := trivial
  have read := represents.read_ofDocument .checked allowed
  rw [Node.read_member_of_list allowed] at read
  obtain ⟨value, read, -⟩ := map_eq_ok_iff.mp read
  exact ⟨value, of_read _ read⟩

end Represents

-----------------------------------------------------------------------------------------
-- Altered documents
-----------------------------------------------------------------------------------------

/-- A document that represents a value represents none after an alteration. Witness: induction on
the place of the alteration.
-/
theorem Altered.not_represents {shape : Shape} {document altered : Document}
    (alteration : Altered shape document altered) {value other : shape.Value}
    (represents : Represents shape document value)
    : ¬ Represents shape altered other := by
  induction alteration with
  | repeated before after i value present =>
      intro refused
      cases refused with
      | record unrepeated => exact RecordKind.not_mem_of_unrepeated unrepeated present
  | removed before after i value required =>
      intro refused
      cases represents with
      | record unrepeated =>
        cases refused with
        | record _ _ omitted =>
            have absent := omitted i (RecordKind.not_mem_of_unrepeated unrepeated)
            rw [required] at absent
            cases absent
  | surplus items item full =>
      intro refused
      have bounded := refused.length_le
      rw [List.length_append, full] at bounded
      exact absurd bounded (Nat.not_succ_le_self _)
  | nulled document mandatory =>
      intro refused
      cases refused with
      | absentText => exact mandatory rfl
  | @entry kind before after i value altered inside ih =>
      intro refused
      cases represents with
      | record _ given =>
        cases refused with
        | record _ givenAltered =>
            exact ih (given i value (List.mem_append_right _ List.mem_cons_self))
              (givenAltered i altered (List.mem_append_right _ List.mem_cons_self))
  | @valueInOrder kind before after i place value altered inside ih =>
      intro refused
      have stands (item : Document) : (before ++ item :: after)[i.val]? = some item := by
        simp [← place]
      cases represents with
      | inOrder _ given =>
        cases refused with
        | inOrder _ givenAltered =>
            exact ih (given i value (stands value)) (givenAltered i altered (stands altered))
  | item before after inside ih =>
      intro refused
      obtain ⟨_, here⟩ :=
        represents.exists_of_mem_list (List.mem_append_right before List.mem_cons_self)
      obtain ⟨_, alteredHere⟩ :=
        refused.exists_of_mem_list (List.mem_append_right before List.mem_cons_self)
      exact ih here alteredHere
  | kindRepeated before after value present =>
      intro refused
      obtain ⟨first, word, second, same, untagged, -⟩ := refused.exists_kind_of_member
      obtain ⟨rfl, -, rfl⟩ := eq_of_untagged same untagged
      obtain ⟨entry, listed, isKind⟩ := List.mem_map.mp present
      exact untagged entry listed isKind
  | kindRemoved before after value =>
      intro refused
      obtain ⟨first, word, second, same, untagged, -⟩ := represents.exists_kind_of_member
      obtain ⟨rfl, -, rfl⟩ := eq_of_untagged same untagged
      obtain ⟨first, word, second, same, -⟩ := refused.exists_kind_of_member
      rw [same] at untagged
      exact untagged _ (List.mem_append_right _ List.mem_cons_self) rfl
  | kindNulled before after value =>
      intro refused
      obtain ⟨first, word, second, same, untagged, -⟩ := refused.exists_kind_of_member
      obtain ⟨-, isText, -⟩ := eq_of_untagged same untagged
      cases isText
  | kindNulledInOrder items value =>
      intro refused
      cases refused
  | member inside ih =>
      intro refused
      obtain ⟨_, record⟩ := represents.exists_record_of_member
      obtain ⟨_, alteredRecord⟩ := refused.exists_record_of_member
      exact ih record alteredRecord
  | memberInOrder inside ih =>
      intro refused
      obtain ⟨_, record⟩ := represents.exists_inOrder_of_member
      obtain ⟨_, alteredRecord⟩ := refused.exists_inOrder_of_member
      exact ih record alteredRecord

-----------------------------------------------------------------------------------------
-- Refused texts
-----------------------------------------------------------------------------------------

/-- A text that is not loaded is a failure to load with the problem as its message. -/
theorem Shape.exists_loadModel_eq_error {shape : Shape} {text : String}
    (refused : ∀ value, shape.loadModel text ≠ .ok value)
    : ∃ message, shape.loadModel text = .error (.model message) := by
  rw [loadModel] at refused ⊢
  cases result : shape.load text with
  | error problem => exact ⟨problem.message, rfl⟩
  | ok value =>
      rw [result] at refused
      exact absurd rfl (refused value)

/-- The text of a document that represents a service loads if it is not too deep, but after an
alteration it is refused, wherever in the service that is.
-/
theorem Service.load_altered {document altered : Document} {service : Service}
    (represents : Represents (.record .service) document service)
    (alteration : Altered (.record .service) document altered)
    : (document.Within depthLimit → Service.load document.compact = .ok service)
      ∧ ∃ message, Service.load altered.compact = .error (.model message) := by
  refine ⟨represents.load_service, Shape.exists_loadModel_eq_error fun other loaded => ?_⟩
  exact alteration.not_represents represents (.of_load (Shape.load_of_loadModel loaded))

/-- A service is refused when a field of one of its members has its name twice. -/
theorem Service.load_altered_repeatedName
    : let service : Service :=
        { name := "api", members := [.dataObject { name := "item", fields := [{ name := "id" }] }] }
      let position : Document := .record [("line", .natural 0), ("column", .natural 0)]
      let closing : List (String × Document) :=
        [("attributes", .list []), ("position", position)]
      let written (field : List (String × Document)) : Document :=
        .record
          [("name", .text "api"), ("attributes", .list []),
            ("members",
              .list
                [.record
                  ([("kind", .text "dto"), ("name", .text "item"),
                      ("fields", .list [.record field])] ++ closing)]),
            ("position", position)]
      let field : List (String × Document) := ("name", .text "id") :: closing
      let repeatedField : List (String × Document) := field ++ [("name", .list [.null])]
      Represents (.record .service) (written field) service
      ∧ Altered (.record .service) (written field) (written repeatedField)
      ∧ Service.load (written field).compact = .ok service
      ∧ ∃ message,
          Service.load (written repeatedField).compact = .error (.model message) := by
  intro service position closing written field repeatedField
  obtain ⟨represents, within⟩ : Encodes depthLimit (.record .service) (written field) service :=
    service.encodes 117
  have inField : Altered (.record .field) (.record field) (.record repeatedField) :=
    .repeated field [] ⟨0, by decide⟩ (.list [.null]) (by decide)
  have alteration : Altered (.record .service) (written field) (written repeatedField) := by
    refine .entry [_, _] [_] ⟨2, by decide⟩ (.item [] [] ?_)
    refine @Altered.member .dataObject [] _ [] _ ?_
    exact .entry [_] closing ⟨1, by decide⟩ (.item [] [] inField)
  obtain ⟨loaded, refused⟩ := Service.load_altered represents alteration
  exact ⟨represents, alteration, loaded within, refused⟩

end SchemaNames
