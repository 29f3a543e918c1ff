import SchemaNames.Naming.Failure
import SchemaNames.Naming.TypeNames
import SchemaNames.Naming.TypeRegistry

/-! Collisions of generated type names. The root type is registered first and then the types of
member after member; a name that is taken is reported at the member that generates it again.
-/

namespace SchemaNames

/-- The type names of a service, or the member that has none, and what was reported up to the
end or up to that member. -/
structure CollisionReport where
  typeNames : Except Failure (List String)
  errors : List ValidationError

/-- Registers the names of one element, and reports those that are taken. -/
def TypeRegistry.register (element : Element) (registry : TypeRegistry)
    : List String → TypeRegistry × List ValidationError
  | [] => (registry, [])
  | name :: rest =>
      let (next, existing?) := registry.tryInsert name
      let (registered, errors) := next.register element rest
      match existing? with
      | some existing => (registered, .duplicateGeneratedType element name existing :: errors)
      | none => (registered, errors)

/-- Registers the names of members, the first of which stands at an index. -/
def TypeRegistry.registerMembers (service : Service) (options : Options) (registry : TypeRegistry)
    (index : Nat) : List Member → CollisionReport
  | [] => { typeNames := .ok registry.names, errors := [] }
  | member :: rest =>
      match member.element?, member.typeNames? options with
      | some element, some names =>
          let (registered, errors) := registry.register element names
          let report := registered.registerMembers service options (index + 1) rest
          { report with errors := errors ++ report.errors }
      | _, _ => { typeNames := .error (.unrecognizedMember service.name index), errors := [] }

/-- The type names of a service and what is reported about them. -/
def Service.collisions (service : Service) (options : Options) : CollisionReport :=
  (TypeRegistry.tryInsert {} service.typeName).1.registerMembers service options 0 service.members

end SchemaNames
