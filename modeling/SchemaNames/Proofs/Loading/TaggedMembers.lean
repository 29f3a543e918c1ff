import SchemaNames.Proofs.Loading.AcceptedTexts

/-! Members beside the records that they wrap. A document with the tag of a kind loads as a member
exactly if the document without the tag loads as the record of that kind.
-/

namespace SchemaNames

namespace MemberKind

/-- Holds of a document and what becomes of it when it is tagged with a kind. A record gets one
more entry, at any place, and a list one more item in front.
-/
inductive Tags (kind : MemberKind) : Document → Document → Prop where
  | entry (before after : List (String × Document))
    (untagged : ∀ entry ∈ before ++ after, entry.1 ≠ kindKey)
    : Tags kind (.record (before ++ after))
        (.record (before ++ (kindKey, .text kind.tag) :: after))
  | front (items : List Document)
    : Tags kind (.list items) (.list (.text kind.tag :: items))

namespace Tags

variable {kind : MemberKind} {document tagged : Document}

/-- A tag adds no bracket around another one, by cases on where it stands. -/
theorem within (tags : kind.Tags document tagged) {room : Nat} (within : document.Within room)
    : tagged.Within room := by
  cases tags with
  | entry before after untagged =>
      cases within with
      | record each =>
          obtain ⟨eachBefore, eachAfter⟩ := List.forall_mem_append.mp each
          refine .record (List.forall_mem_append.mpr ⟨eachBefore, ?_⟩)
          exact List.forall_mem_cons.mpr ⟨.text kind.tag, eachAfter⟩
  | front items =>
      cases within with
      | list each => exact .list (List.forall_mem_cons.mpr ⟨.text kind.tag, each⟩)

end Tags

end MemberKind

end SchemaNames
