import SchemaNames.Loading.Load
import SchemaNames.Proofs.Document.WrittenText
import SchemaNames.Proofs.Loading.EncodedSchema
import SchemaNames.Proofs.Loading.RepresentationReading

/-! Loading what was written. The compact text of a document that represents a value loads as that
value, and so the text of a service loads as the service and has its names.
-/

namespace SchemaNames

/-- The text of a document loads as what the tree of the document is read as. -/
theorem Shape.load_compact_eq_read (shape : Shape) (document : Document)
    : shape.load document.compact
      = (Node.ofDocument document).read shape (.streamed depthLimit) := by
  rw [load, Tree.parse_compact document]
  exact bind_pure _

/-- The text of a document that represents a value loads as the value. -/
theorem Shape.load_compact {shape : Shape} {document : Document} {value : shape.Value}
    (represents : Represents shape document value) (within : document.Within depthLimit)
    : shape.load document.compact = .ok value := by
  rw [shape.load_compact_eq_read]
  exact represents.read_ofDocument (.streamed depthLimit) within

/-- The text of a service loads as the service, and the names that are found through the text are
those of the service.
-/
theorem Service.load_toDocument (service : Service)
    : Service.load service.toDocument.compact = .ok service
      ∧ ∀ options,
          Service.loadAndResolve service.toDocument.compact options
          = service.tryResolve options := by
  obtain ⟨represents, within⟩ := service.encodes 117
  have loaded : Service.load service.toDocument.compact = .ok service := by
    rw [load, Shape.loadModel, Shape.load_compact represents within]
    rfl
  refine ⟨loaded, fun options => ?_⟩
  rw [loadAndResolve, loaded]
  rfl

end SchemaNames
