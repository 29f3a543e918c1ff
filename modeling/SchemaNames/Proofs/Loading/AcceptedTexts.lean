import SchemaNames.Proofs.Loading.ServiceRoundTrip

/-! Which texts load. A text is a document only up to a number of open brackets, and the compact
text of a document loads as exactly what the document represents, whichever of its forms each part
is written in.
-/

namespace SchemaNames

-----------------------------------------------------------------------------------------
-- Nesting
-----------------------------------------------------------------------------------------

/-- Items that are read as documents one after the other are each read as one, by induction on the
items.
-/
theorem Node.exists_toDocument_of_items {room : Nat} {items documents : List Document}
    (read : Node.toDocuments room (Node.ofItems items) = .ok documents) {item : Document}
    (listed : item ∈ items)
    : ∃ document, (Node.ofDocument item).toDocument room = .ok document := by
  induction items generalizing documents with
  | nil => cases listed
  | cons first rest ih =>
      rw [Node.ofItems, Node.toDocuments] at read
      obtain ⟨document, here, read⟩ := exists_of_bind_eq_ok read
      obtain ⟨_, later, -⟩ := exists_of_bind_eq_ok read
      rcases List.mem_cons.mp listed with rfl | behind
      · exact ⟨document, here⟩
      · exact ih later behind

/-- The values of entries that are read one after the other are each read as a document, by
induction on the entries.
-/
theorem Node.exists_toDocument_of_entries {room : Nat} {entries read : List (String × Document)}
    (isRead : Node.toEntries room (Node.ofEntries entries) = .ok read)
    {entry : String × Document} (listed : entry ∈ entries)
    : ∃ document, (Node.ofDocument entry.2).toDocument room = .ok document := by
  induction entries generalizing read with
  | nil => cases listed
  | cons first rest ih =>
      rw [Node.ofEntries, Node.toEntries] at isRead
      obtain ⟨_, -, isRead⟩ := exists_of_bind_eq_ok isRead
      obtain ⟨document, here, isRead⟩ := exists_of_bind_eq_ok isRead
      obtain ⟨_, later, -⟩ := exists_of_bind_eq_ok isRead
      rcases List.mem_cons.mp listed with rfl | behind
      · exact ⟨document, here⟩
      · exact ih later behind

/-- The tree of a document is read only where there is room for its brackets, by induction on the
nesting.
-/
theorem Document.Within.of_toDocument {document read : Document} {more room : Nat}
    (within : document.Within more)
    (isRead : (Node.ofDocument document).toDocument room = .ok read)
    : document.Within room := by
  induction within generalizing room read with
  | scalar exact => exact .scalar exact
  | text content => exact .text content
  | list _ ih =>
      cases room with
      | zero => cases isRead
      | succ room =>
          rw [Node.ofDocument, Node.toDocument] at isRead
          obtain ⟨_, each, -⟩ := exists_of_bind_eq_ok isRead
          refine .list fun item listed => ?_
          obtain ⟨_, here⟩ := Node.exists_toDocument_of_items each listed
          exact ih item listed here
  | record _ ih =>
      cases room with
      | zero => cases isRead
      | succ room =>
          rw [Node.ofDocument, Node.toDocument] at isRead
          obtain ⟨_, each, -⟩ := exists_of_bind_eq_ok isRead
          refine .record fun entry listed => ?_
          obtain ⟨_, here⟩ := Node.exists_toDocument_of_entries each listed
          exact ih entry listed here

/-- The text of a document whose numbers are integers of 64 bits is read as a document exactly if
no more than 127 of its brackets are open at once.
-/
theorem Document.exists_parse_compact_iff {document : Document} {room : Nat}
    (within : document.Within room)
    : (∃ read, Document.parse document.compact = .ok read) ↔ document.Within 127 := by
  constructor
  · rintro ⟨read, parsed⟩
    rw [parse, Tree.parse_compact] at parsed
    obtain ⟨_, root, -⟩ := exists_of_bind_eq_ok parsed
    exact within.of_toDocument root
  · intro shallow
    exact ⟨document, Document.parse_write Style.blank_compact shallow⟩

-----------------------------------------------------------------------------------------
-- Services
-----------------------------------------------------------------------------------------

/-- A document represents whatever its text loads as. -/
theorem Represents.of_load {shape : Shape} {document : Document} {value : shape.Value}
    (loaded : shape.load document.compact = .ok value)
    : Represents shape document value := by
  rw [shape.load_compact_eq_read] at loaded
  exact of_read document loaded

/-- A success does not depend on how problems are reported. -/
theorem Shape.load_of_loadModel {shape : Shape} {text : String} {value : shape.Value}
    (loaded : shape.loadModel text = .ok value)
    : shape.load text = .ok value := by
  rw [loadModel] at loaded
  cases found : shape.load text with
  | error problem =>
      rw [found] at loaded
      cases loaded
  | ok other =>
      rw [found] at loaded
      rw [Except.ok.inj loaded]

/-- The text of a document that represents a service loads as the service. -/
theorem Represents.load_service {document : Document} {service : Service}
    (represents : Represents (.record .service) document service)
    (within : document.Within depthLimit)
    : Service.load document.compact = .ok service := by
  rw [Service.load, Shape.loadModel, Shape.load_compact represents within]
  rfl

end SchemaNames
