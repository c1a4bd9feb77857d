import DeclaredSettings.Schema.Registry
import DeclaredSettings.Script.Command
import DeclaredSettings.Derive.TypeMeaning
import DeclaredSettings.Proofs.Script.MapRefinement
import DeclaredSettings.Proofs.Script.SourceLayering
import DeclaredSettings.Proofs.Script.BlockTransparency
import DeclaredSettings.Proofs.Script.KeyAddressing
import DeclaredSettings.Proofs.Name.HandedOutNames
import DeclaredSettings.Proofs.Derive.AcceptedKeys
import DeclaredSettings.Proofs.Derive.GeneratedMethods
import DeclaredSettings.Proofs.Derive.InheritedAccessors
import DeclaredSettings.Proofs.Script.Respelling
import DeclaredSettings.Proofs.Json.TokenReading
import DeclaredSettings.Proofs.Json.ValueReading
import DeclaredSettings.Proofs.Json.DocumentValues
import DeclaredSettings.Proofs.Settings.TextRoundTrip
import DeclaredSettings.Proofs.Schema.DeclarationHistory
import DeclaredSettings.Proofs.Script.ValuePersistence
import DeclaredSettings.Proofs.Derive.SchemaAgreement
import DeclaredSettings.Proofs.Derive.NameLaw
import DeclaredSettings.Proofs.Settings.MappingReading
import DeclaredSettings.Proofs.Settings.ReloadCycle
import DeclaredSettings.Proofs.Script.BatchApplication
import DeclaredSettings.Proofs.Derive.GeneratedCode
import DeclaredSettings.Proofs.Derive.GenericAccess
import DeclaredSettings.Proofs.Name.CanonicalForm
import DeclaredSettings.Proofs.Derive.MethodNames
import DeclaredSettings.Proofs.Derive.WellFormedItems
