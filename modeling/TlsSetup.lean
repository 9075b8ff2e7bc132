import TlsSetup.Alpn
import TlsSetup.Bytes
import TlsSetup.Codec.Base64
import TlsSetup.Codec.Der
import TlsSetup.Codec.Der.Fields
import TlsSetup.Codec.Der.Value
import TlsSetup.Codec.Json
import TlsSetup.Codec.Pem.Armor
import TlsSetup.Codec.Pem.Block
import TlsSetup.Context
import TlsSetup.Context.Assembly
import TlsSetup.Context.Creation
import TlsSetup.Credentials
import TlsSetup.Crypto.Aes
import TlsSetup.Crypto.BlockCipher
import TlsSetup.Crypto.Curve
import TlsSetup.Crypto.Digest
import TlsSetup.Crypto.Dsa
import TlsSetup.Crypto.Edwards
import TlsSetup.Crypto.Edwards448
import TlsSetup.Crypto.Keccak
import TlsSetup.Crypto.KeyDerivation
import TlsSetup.Crypto.KnownCurves
import TlsSetup.Crypto.Ladder
import TlsSetup.Crypto.Md5
import TlsSetup.Crypto.Modular
import TlsSetup.Crypto.NamedDigest
import TlsSetup.Crypto.OctetKey
import TlsSetup.Crypto.Ripemd
import TlsSetup.Crypto.TripleDes
import TlsSetup.Decimal.Shortest
import TlsSetup.Engine
import TlsSetup.Engine.CipherRules
import TlsSetup.Engine.CipherSuite
import TlsSetup.Engine.LeafForm
import TlsSetup.Engine.Openssl
import TlsSetup.Engine.Provider
import TlsSetup.Engine.Request
import TlsSetup.Engine.Rustls
import TlsSetup.Engine.SuiteSetup
import TlsSetup.Error
import TlsSetup.Event
import TlsSetup.Handshake
import TlsSetup.Host
import TlsSetup.Key.Archive
import TlsSetup.Key.Cryptogram
import TlsSetup.Key.CurveChoice
import TlsSetup.Key.Identity
import TlsSetup.Key.Padding
import TlsSetup.Key.PrivateKey
import TlsSetup.Key.PublicKey
import TlsSetup.Key.Signature
import TlsSetup.Options
import TlsSetup.Proofs.AddedLists
import TlsSetup.Proofs.Assembly
import TlsSetup.Proofs.Attempt
import TlsSetup.Proofs.Authorities
import TlsSetup.Proofs.Base64
import TlsSetup.Proofs.Blocks
import TlsSetup.Proofs.BundleForms
import TlsSetup.Proofs.BundleRounds
import TlsSetup.Proofs.Bundles
import TlsSetup.Proofs.ClientAuth
import TlsSetup.Proofs.Coherence
import TlsSetup.Proofs.Consultation
import TlsSetup.Proofs.Conversion
import TlsSetup.Proofs.Creation
import TlsSetup.Proofs.Credentials
import TlsSetup.Proofs.Cutting
import TlsSetup.Proofs.Documents
import TlsSetup.Proofs.FieldOrder
import TlsSetup.Proofs.FileReads
import TlsSetup.Proofs.Forms
import TlsSetup.Proofs.HostLabels
import TlsSetup.Proofs.Identities
import TlsSetup.Proofs.KeyPairs
import TlsSetup.Proofs.Layers
import TlsSetup.Proofs.Loaders
import TlsSetup.Proofs.Locations
import TlsSetup.Proofs.NamedHosts
import TlsSetup.Proofs.NamedSuites
import TlsSetup.Proofs.Negotiation
import TlsSetup.Proofs.OfferedNames
import TlsSetup.Proofs.PeerVerification
import TlsSetup.Proofs.Precedence
import TlsSetup.Proofs.Preference
import TlsSetup.Proofs.Protocols
import TlsSetup.Proofs.Questions
import TlsSetup.Proofs.Reading
import TlsSetup.Proofs.Records
import TlsSetup.Proofs.Revocation
import TlsSetup.Proofs.RevocationInput
import TlsSetup.Proofs.ServerNames
import TlsSetup.Proofs.SettingHistory
import TlsSetup.Proofs.SettingsForms
import TlsSetup.Proofs.Stages
import TlsSetup.Proofs.SuiteLists
import TlsSetup.Proofs.TrustByName
import TlsSetup.Proofs.TrustingAll
import TlsSetup.Proofs.UndeclaredFields
import TlsSetup.Proofs.Verdict
import TlsSetup.Resource.FileTree
import TlsSetup.Resource.Loader
import TlsSetup.Resource.Path
import TlsSetup.Role
import TlsSetup.ServerName
import TlsSetup.Settings.Basic
import TlsSetup.Settings.Reader
import TlsSetup.Source.Basic
import TlsSetup.Source.KeySource
import TlsSetup.Source.Material
import TlsSetup.Source.TrustSource
import TlsSetup.Text.Ascii
import TlsSetup.Text.Blank
import TlsSetup.Text.Invisible
import TlsSetup.Text.Pieces
import TlsSetup.Text.Quoted
import TlsSetup.Trust.Revocation
import TlsSetup.Trust.Validator
import TlsSetup.X509.Certificate
import TlsSetup.X509.GeneralName
import TlsSetup.X509.Holder
import TlsSetup.X509.Name
import TlsSetup.X509.NameRules
import TlsSetup.X509.Outline
import TlsSetup.X509.Path
import TlsSetup.X509.RevocationList
import TlsSetup.X509.Time
import TlsSetup.X509.Traits
