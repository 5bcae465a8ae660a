import Attest.Files.Tree
import Attest.Key.Shown
import Attest.Main
import Attest.Token.Representation
import Attest.Proofs.Base64
import Attest.Proofs.Base64.Spelling
import Attest.Proofs.Json.ReadBack
import Attest.Proofs.Table
import Attest.Proofs.Token.Generation
import Attest.Proofs.Token.Phases
import Attest.Proofs.Vault
import Attest.Proofs.Key.Resolver
import Attest.Proofs.Key.LocalService
import Attest.Proofs.Text.Blank
import Attest.Proofs.Key.TextForm
import Attest.Proofs.Der
import Attest.Proofs.Rsa
import Attest.Proofs.Key.Der
import Attest.Proofs.Key.Admission
import Attest.Proofs.Pem
import Attest.Proofs.Key.RoundTrip
import Attest.Proofs.Key.RsaForms
import Attest.Proofs.Key.PublicHalf
import Attest.Proofs.Key.Consistency
import Attest.Proofs.Token.Lifetime
import Attest.Proofs.Key.VaultLookup
import Attest.Proofs.Token.Rotation
import Attest.Proofs.Settings
import Attest.Proofs.Demo
import Attest.Proofs.Token.Leeway
import Attest.Proofs.Config
import Attest.Proofs.Key.Discretion
import Attest.Proofs.Token.RuleBook
import Attest.Proofs.Key.Configured
import Attest.Proofs.Double
import Attest.Proofs.Token.NumericTime
import Attest.Proofs.Token.Aging
import Attest.Proofs.Modular
import Attest.Proofs.Token.HandedKey
import Attest.Proofs.Token.Components
import Attest.Proofs.P256.Group
import Attest.Proofs.Key.Identity
import Attest.Proofs.Pem.Enclosed
import Attest.Proofs.Key.Body
import Attest.Proofs.Json.Extent
import Attest.Proofs.Key.Listing
import Attest.Proofs.Key.PrivateText
import Attest.Proofs.Token.Spelling
import Attest.Proofs.Token.NullClaims
import Attest.Proofs.Key.TrialOrder
import Attest.Proofs.Key.Preload
import Attest.Proofs.Token.RuleScope
import Attest.Proofs.Token.Obstacles
import Attest.Proofs.Token.Composition
import Attest.Proofs.Settings.Range
import Attest.Proofs.Did
import Attest.Proofs.Files
import Attest.Proofs.Key.Directory
import Attest.Proofs.Token.Pinned
import Attest.Proofs.Token.Numbers
