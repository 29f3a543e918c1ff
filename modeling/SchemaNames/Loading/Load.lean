import SchemaNames.Loading.Read
import SchemaNames.Naming.Info

/-! Loading services and settings from text, and naming what was loaded. -/

namespace SchemaNames

/-- The value of a shape that a text denotes; whatever is wrong is a failure to load. -/
def Shape.loadModel (shape : Shape) (text : String) : Except Failure shape.Value :=
  (shape.load text).mapError fun problem => .model problem.message

def Service.load (text : String) : Except Failure Service :=
  (Shape.record .service).loadModel text

def Options.load (text : String) : Except Failure Options :=
  (Shape.record .options).loadModel text

/-- The names of the service that a text denotes. -/
def Service.loadAndResolve (text : String) (options : Options)
    : Except Failure NamingOutcome := do
  let service ← Service.load text
  service.tryResolve options

end SchemaNames
