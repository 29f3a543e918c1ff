import SchemaNames.Document.Parse
import SchemaNames.Document.Write
import SchemaNames.Loading.Load
import SchemaNames.Naming.Info
import SchemaNames.Schema.Element
import SchemaNames.Schema.Encode
import SchemaNames.Schema.FieldRef
import SchemaNames.Proofs.Loading.ServiceRoundTrip
import SchemaNames.Proofs.Naming.CollisionReport
import SchemaNames.Proofs.Naming.EffectiveNames
import SchemaNames.Proofs.Naming.Validity
import SchemaNames.Proofs.Naming.OtherTags
import SchemaNames.Proofs.Naming.MemberOrder
import SchemaNames.Proofs.Naming.OverrideOrder
import SchemaNames.Proofs.Numeric.ShortestDigits
import SchemaNames.Proofs.Loading.AcceptedTexts
import SchemaNames.Proofs.Loading.StrictLoading
import SchemaNames.Proofs.Naming.AddedMember
import SchemaNames.Proofs.Document.EntryOrder
import SchemaNames.Proofs.Naming.BlamedMembers
import SchemaNames.Proofs.Naming.OutcomeText
import SchemaNames.Proofs.Loading.TaggedMembers
import SchemaNames.Proofs.Naming.DocumentOrder
import SchemaNames.Proofs.Naming.MemberOutlines
import SchemaNames.Proofs.Text.CaseTables
import SchemaNames.Proofs.Naming.UnexpectedParameters
import SchemaNames.Proofs.Naming.Renaming
import SchemaNames.Proofs.Naming.FirstDeclaration
import SchemaNames.Proofs.Naming.LocatedFields
import SchemaNames.Proofs.Naming.FirstUnrecognized
import SchemaNames.Proofs.Text.AsciiCase
import SchemaNames.Proofs.Naming.CaseVariants
import SchemaNames.Proofs.Schema.PositionText
import SchemaNames.Proofs.Text.LowerCase
import SchemaNames.Proofs.Naming.RegistryRuns
import SchemaNames.Proofs.Loading.OptionsLists
