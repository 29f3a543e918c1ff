import SchemaNames.Document.Basic

/-! Settings of one run: the language whose attributes count, and what is appended to the name
of a method to name its request and its response.
-/

namespace SchemaNames

structure Options where
  language : String := "csharp"
  requestSuffix : String := "Request"
  responseSuffix : String := "Response"
deriving DecidableEq

/-- The default settings for another language. -/
def Options.forLanguage (language : String) : Options :=
  { language }

def Options.toDocument (options : Options) : Document :=
  .record
    [("language", .text options.language), ("requestSuffix", .text options.requestSuffix),
      ("responseSuffix", .text options.responseSuffix)]

end SchemaNames
