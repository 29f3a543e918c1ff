import SchemaNames.Schema.Position

/-! What every part of a schema has: a name, attributes and a place. An attribute carries a tag
and parameters, and parameters of one name may stand in it more than once.
-/

namespace SchemaNames

structure Parameter where
  name : String
  value : String
  position : Position := {}
deriving DecidableEq

/-- An attribute, tagged by its name. -/
structure Attribute where
  name : String
  parameters : List Parameter := []
  position : Position := {}
deriving DecidableEq

structure Declaration where
  name : String
  attributes : List Attribute := []
  position : Position := {}
deriving DecidableEq

/-- The attributes that carry exactly the tag, in order. -/
def Declaration.attributesTagged (declaration : Declaration) (tag : String) : List Attribute :=
  declaration.attributes.filter (·.name = tag)

end SchemaNames
