import Std.Data.TreeMap
import SchemaNames.Text.Case

/-! Registries of type names. Two names are the same for a registry when they agree in lower
case; the first spelling of a name is kept.
-/

namespace SchemaNames

/-- The names registered so far: each spelling under its lower-case form, and all in order. -/
structure TypeRegistry where
  spellings : Std.TreeMap String String := {}
  ordered : List String := []

namespace TypeRegistry

/-- Registers a name. If it is taken, the answer is the spelling under which it is there, and the
registry stays as it is. -/
def tryInsert (registry : TypeRegistry) (name : String) : TypeRegistry × Option String :=
  let folded := Text.lowerCase name
  if registry.spellings.contains folded then
    (registry, registry.spellings[folded]?)
  else
    ({ spellings := registry.spellings.insert folded name
       ordered := registry.ordered ++ [name] }, none)

def contains (registry : TypeRegistry) (name : String) : Bool :=
  registry.spellings.contains (Text.lowerCase name)

def size (registry : TypeRegistry) : Nat :=
  registry.ordered.length

def isEmpty (registry : TypeRegistry) : Bool :=
  registry.ordered.isEmpty

/-- The registered spellings, in order. -/
def names (registry : TypeRegistry) : List String :=
  registry.ordered

end TypeRegistry

end SchemaNames
