import SchemaNames.Document.Parse
import SchemaNames.Proofs.Document.ScalarText

/-! The unbroken tree of a document. Where the document does not nest too deep and has no number
that is not kept, the tree is read as the document again, and skipping the tree never fails.
-/

namespace SchemaNames

/-- A property holds of every document if it holds of a list whenever it holds of the items, and
of a record whenever it holds of the values, by structural induction.
-/
@[elab_as_elim]
theorem Document.induction {motive : Document → Prop}
    (scalar : ∀ value, motive (.scalar value)) (text : ∀ content, motive (.text content))
    (list : ∀ items, (∀ item ∈ items, motive item) → motive (.list items))
    (record : ∀ entries, (∀ entry ∈ entries, motive entry.2) → motive (.record entries))
    (document : Document)
    : motive document :=
  @Document.rec motive (fun items => ∀ item ∈ items, motive item)
    (fun entries => ∀ entry ∈ entries, motive entry.2) (fun entry => motive entry.2)
    scalar text list record
    (fun _ listed => absurd listed List.not_mem_nil)
    (fun _ _ here later => List.forall_mem_cons.mpr ⟨here, later⟩)
    (fun _ listed => absurd listed List.not_mem_nil)
    (fun _ _ here later => List.forall_mem_cons.mpr ⟨here, later⟩)
    (fun _ _ value => value) document

/-- Holds of a document whose numbers are integers of 64 bits and that has at most so many open
brackets around any of its parts.
-/
inductive Document.Within : Nat → Document → Prop where
  | scalar {room : Nat} {value : Scalar} (exact : value.Exact)
    : Within room (.scalar value)
  | text {room : Nat} (content : String)
    : Within room (.text content)
  | list {room : Nat} {items : List Document} (each : ∀ item ∈ items, Within room item)
    : Within (room + 1) (.list items)
  | record {room : Nat} {entries : List (String × Document)}
    (each : ∀ entry ∈ entries, Within room entry.2)
    : Within (room + 1) (.record entries)

@[simp] theorem Document.within_scalar_iff {room : Nat} {value : Scalar}
    : (scalar value).Within room ↔ value.Exact :=
  ⟨fun | .scalar exact => exact, .scalar⟩

@[simp] theorem Document.within_text (room : Nat) (content : String)
    : (text content).Within room :=
  .text content

@[simp] theorem Document.within_list_iff {room : Nat} {items : List Document}
    : (list items).Within (room + 1) ↔ ∀ item ∈ items, item.Within room :=
  ⟨fun | .list each => each, .list⟩

@[simp] theorem Document.within_record_iff {room : Nat} {entries : List (String × Document)}
    : (record entries).Within (room + 1) ↔ ∀ entry ∈ entries, entry.2.Within room :=
  ⟨fun | .record each => each, .record⟩

mutual
/-- The tree of a document. -/
def Node.ofDocument : Document → Node
  | .scalar value => .scalar value.lexeme
  | .text content => .text (.accepted content)
  | .list items => .list (Node.ofItems items) .closed
  | .record entries => .record (Node.ofEntries entries) .closed
termination_by structural document => document

def Node.ofItems : List Document → List Node
  | [] => []
  | item :: rest => Node.ofDocument item :: Node.ofItems rest
termination_by structural items => items

def Node.ofEntries : List (String × Document) → List (Lexeme String × Node)
  | [] => []
  | (key, value) :: rest => (.accepted key, Node.ofDocument value) :: Node.ofEntries rest
termination_by structural entries => entries
end

/-- The trees of entries belong to one entry each, by induction on the first ones. -/
theorem Node.ofEntries_append (first second : List (String × Document))
    : Node.ofEntries (first ++ second) = Node.ofEntries first ++ Node.ofEntries second := by
  induction first with
  | nil => rfl
  | cons entry rest ih => rw [List.cons_append, ofEntries, ofEntries, ih, List.cons_append]

/-- The tree of a document is read as the document if there is room for its brackets. Witness:
induction on the nesting, and on the items or entries of one level.
-/
theorem Document.Within.toDocument_ofDocument {room : Nat} {document : Document}
    (within : document.Within room)
    : (Node.ofDocument document).toDocument room = .ok document := by
  induction within with
  | scalar exact =>
      rw [Node.ofDocument, exact.lexeme_eq]
      rfl
  | text => rfl
  | @list room items each ih =>
      have all : Node.toDocuments room (Node.ofItems items) = .ok items := by
        clear each
        induction items with
        | nil => rfl
        | cons item rest rest_ih =>
            obtain ⟨here, later⟩ := List.forall_mem_cons.mp ih
            rw [Node.ofItems, Node.toDocuments, here, rest_ih later]
            rfl
      rw [Node.ofDocument, Node.toDocument, all]
      rfl
  | @record room entries each ih =>
      have all : Node.toEntries room (Node.ofEntries entries) = .ok entries := by
        clear each
        induction entries with
        | nil => rfl
        | cons entry rest rest_ih =>
            obtain ⟨key, value⟩ := entry
            obtain ⟨here, later⟩ := List.forall_mem_cons.mp ih
            rw [Node.ofEntries, Node.toEntries, here, rest_ih later]
            rfl
      rw [Node.ofDocument, Node.toDocument, all]
      rfl

/-- The tree of a document can be skipped, by induction on the document and on the items or entries
of one level.
-/
theorem Node.skip_ofDocument (document : Document)
    : (Node.ofDocument document).skip = .ok () := by
  induction document using Document.induction with
  | scalar value => exact value.skipping_lexeme
  | text content => rfl
  | list items ih =>
      have all : skipItems (ofItems items) = .ok () := by
        induction items with
        | nil => rfl
        | cons item rest rest_ih =>
            obtain ⟨here, later⟩ := List.forall_mem_cons.mp ih
            rw [ofItems, skipItems, here]
            exact rest_ih later
      rw [ofDocument, skip, all]
      rfl
  | record entries ih =>
      have all : skipEntries (ofEntries entries) = .ok () := by
        induction entries with
        | nil => rfl
        | cons entry rest rest_ih =>
            obtain ⟨key, value⟩ := entry
            obtain ⟨here, later⟩ := List.forall_mem_cons.mp ih
            rw [ofEntries, skipEntries, here]
            exact rest_ih later
      rw [ofDocument, skip, all]
      rfl

end SchemaNames
