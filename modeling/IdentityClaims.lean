import IdentityClaims.Configuration.Loading
import IdentityClaims.Contextual
import IdentityClaims.ErrorEnum.Expansion
import IdentityClaims.Json.Printer
import IdentityClaims.Session.Claims
import IdentityClaims.Session.Mappings
import IdentityClaims.Session.Outcome
import IdentityClaims.Session.Sharing
import IdentityClaims.Proofs.PathGrammar
import IdentityClaims.Proofs.Reaching
import IdentityClaims.Proofs.ReaderMeaning
import IdentityClaims.Proofs.ClaimFields
import IdentityClaims.Proofs.Resolution
import IdentityClaims.Proofs.ResolutionMeaning
import IdentityClaims.Proofs.SnakeCase
import IdentityClaims.Proofs.Writing
import IdentityClaims.Proofs.PayloadLayout
import IdentityClaims.Proofs.DefaultDecoding
import IdentityClaims.Proofs.Lens
import IdentityClaims.Proofs.Redaction
import IdentityClaims.Proofs.MappingEntries
import IdentityClaims.Proofs.Lowering
import IdentityClaims.Proofs.JoinedWords
import IdentityClaims.Proofs.EnvironmentKeys
import IdentityClaims.Proofs.Layering
import IdentityClaims.Proofs.LastWrite
import IdentityClaims.Proofs.Sharing
import IdentityClaims.Proofs.Isolation
import IdentityClaims.Proofs.RecordFields
import IdentityClaims.Proofs.DecodingMeaning
import IdentityClaims.Proofs.Numerals
import IdentityClaims.Proofs.PrintedValues
import IdentityClaims.Proofs.RoundTrip
import IdentityClaims.Proofs.Obstacles
import IdentityClaims.Proofs.ResolutionLog
import IdentityClaims.Proofs.GeneratedErrors
import IdentityClaims.Proofs.Contexts
import IdentityClaims.Proofs.TreeKeys
import IdentityClaims.Proofs.Loads
import IdentityClaims.Proofs.LoneCapitals
import IdentityClaims.Proofs.Rounding
import IdentityClaims.Proofs.FallbackTrace
import IdentityClaims.Proofs.CapitalisedNames
import IdentityClaims.Proofs.PathShape
import IdentityClaims.Proofs.Admission
import IdentityClaims.Proofs.ContextTypes
import IdentityClaims.Proofs.Implementations
import IdentityClaims.Proofs.VariantLiterals
import IdentityClaims.Proofs.ConditionalVariants
import IdentityClaims.Proofs.InsertedUnderscores
import IdentityClaims.Proofs.MappingContents
import IdentityClaims.Proofs.MappingHistory
import IdentityClaims.Proofs.DerivedTraits
import IdentityClaims.Proofs.Inventory
