import SchemaNames.Schema.Service

/-! Schemas as documents. Every part becomes a record that begins with its name, and a member
begins with its kind; an absent type name is left out.
-/

namespace SchemaNames

def Parameter.toDocument (parameter : Parameter) : Document :=
  .record
    [("name", .text parameter.name), ("value", .text parameter.value),
      ("position", parameter.position.toDocument)]

def Attribute.toDocument (attr : Attribute) : Document :=
  .record
    [("name", .text attr.name),
      ("parameters", .list (attr.parameters.map Parameter.toDocument)),
      ("position", attr.position.toDocument)]

/-- The entries that end the record of every part. -/
def Declaration.closingEntries (declaration : Declaration) : List (String × Document) :=
  [("attributes", .list (declaration.attributes.map Attribute.toDocument)),
    ("position", declaration.position.toDocument)]

/-- An enumeration value or an error. -/
def Declaration.toDocument (declaration : Declaration) : Document :=
  .record (("name", .text declaration.name) :: declaration.closingEntries)

def Field.toDocument (field : Field) : Document :=
  .record
    (("name", .text field.name)
      :: (match field.typeName with
        | some typeName => [("typeName", .text typeName)]
        | none => [])
      ++ field.closingEntries)

def Method.entries (method : Method) : List (String × Document) :=
  ("name", .text method.name)
    :: ("requestFields", .list (method.requestFields.map Field.toDocument))
    :: ("responseFields", .list (method.responseFields.map Field.toDocument))
    :: method.closingEntries

def DataObject.entries (dataObject : DataObject) : List (String × Document) :=
  ("name", .text dataObject.name)
    :: ("fields", .list (dataObject.fields.map Field.toDocument))
    :: dataObject.closingEntries

def Enumeration.entries (enumeration : Enumeration) : List (String × Document) :=
  ("name", .text enumeration.name)
    :: ("values", .list (enumeration.values.map Declaration.toDocument))
    :: enumeration.closingEntries

def ErrorSet.entries (errorSet : ErrorSet) : List (String × Document) :=
  ("name", .text errorSet.name)
    :: ("errors", .list (errorSet.errors.map Declaration.toDocument))
    :: errorSet.closingEntries

def Method.toDocument (method : Method) : Document := .record method.entries
def DataObject.toDocument (dataObject : DataObject) : Document := .record dataObject.entries
def Enumeration.toDocument (enumeration : Enumeration) : Document := .record enumeration.entries
def ErrorSet.toDocument (errorSet : ErrorSet) : Document := .record errorSet.entries

/-- The kinds of members that are recognized. -/
inductive MemberKind where
  | method
  | dataObject
  | enumeration
  | errorSet
deriving DecidableEq

/-- The word for a kind of members. -/
def MemberKind.tag : MemberKind → String
  | .method => "method"
  | .dataObject => "dto"
  | .enumeration => "enum"
  | .errorSet => "errorSet"

/-- The kind that a word names, if it names one. -/
def MemberKind.ofTag? (tag : String) : Option MemberKind :=
  [method, dataObject, enumeration, errorSet].find? (·.tag = tag)

def Member.toDocument : Member → Document
  | .method m => tagged MemberKind.method.tag m.entries
  | .dataObject d => tagged MemberKind.dataObject.tag d.entries
  | .enumeration e => tagged MemberKind.enumeration.tag e.entries
  | .errorSet s => tagged MemberKind.errorSet.tag s.entries
  | .unrecognized => tagged "unrecognized" []
where
  /-- A record with its kind before the other entries. -/
  tagged (tag : String) (entries : List (String × Document)) : Document :=
    .record (("kind", .text tag) :: entries)

def Service.toDocument (service : Service) : Document :=
  .record
    [("name", .text service.name),
      ("attributes", .list (service.attributes.map Attribute.toDocument)),
      ("members", .list (service.members.map Member.toDocument)),
      ("position", service.position.toDocument)]

end SchemaNames
