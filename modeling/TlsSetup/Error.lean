import TlsSetup.Text.Quoted

/-!
# Errors

What can go wrong while credentials are resolved and a context is built. An error is a cause; its
wording is in `Error.message`, and `Rejection` is the verdict on a certificate chain.
-/

namespace TlsSetup

open Text

/-- What a configuration asks for and cannot have. -/
inductive ConfigFault where
  | emptyChain
  | keyMismatch
  | keyMandatory
  | protocolLength (length : Nat)
  | unknownEngine (name : String)
  | unsupportedSuite (name : String)
  | notRustlsServer
  | wrongSide (wanted actual : String)
  | blockingEngine (engine : String)
  | other (text : String)
  deriving Repr, DecidableEq

def ConfigFault.message : ConfigFault → String
  | .emptyChain => "Certificate chain is empty"
  | .keyMismatch => "Private key does not match the leaf certificate"
  | .keyMandatory => "Key/certificate is mandatory for SSL"
  | .protocolLength n =>
    "application protocol must be 1 to 255 bytes long, got " ++ toString n ++ " bytes"
  | .unknownEngine name => "Unknown TLS engine: " ++ name
  | .unsupportedSuite name => "Unsupported cipher suite for rustls: " ++ name
  | .notRustlsServer => "not a rustls server context"
  | .wrongSide wanted actual => wanted ++ " handshake on a " ++ actual ++ " context"
  | .blockingEngine engine =>
    "Blocking handshakes need the openssl engine, context uses " ++ engine
  | .other text => text

/-- Why the text of a list in PEM form cannot be taken apart. -/
inductive PemFault where
  | base64
  | incomplete
  | invalidHeader
  | notUtf8
  deriving Repr, DecidableEq

def PemFault.message : PemFault → String
  | .base64 => "base64 decode error"
  | .incomplete => "incomplete PEM"
  | .invalidHeader => "invalid header"
  | .notUtf8 => "IO error: stream did not contain valid UTF-8"

/-- Which material could not be read, and at which step. -/
inductive ParseFault where
  | privateKey
  | certificate
  | noCertificate
  | archive
  | archiveWithoutKey
  | archiveWithoutCertificate
  | trustAnchor
  | noTrustAnchor
  | crlStructure
  | crlContent
  | crlPem (fault : PemFault)
  | crlLabel (label : String)
  | other (text : String)
  deriving Repr, DecidableEq

def ParseFault.message : ParseFault → String
  | .privateKey => "Failed to load private key"
  | .certificate => "Failed to load certificate"
  | .noCertificate => "No certificate found in PEM input"
  | .archive => "Failed to load PKCS#12 archive"
  | .archiveWithoutKey => "PKCS#12 archive has no private key"
  | .archiveWithoutCertificate => "PKCS#12 archive has no certificate"
  | .trustAnchor => "Failed to load CA certificate"
  | .noTrustAnchor => "No CA certificate found in PEM input"
  | .crlStructure => "Invalid CRL"
  | .crlContent => "Failed to load CRL"
  | .crlPem fault => "Invalid PEM CRL: " ++ fault.message
  | .crlLabel label => "Unexpected PEM block '" ++ label ++ "' in CRL input"
  | .other text => text

inductive ReadFault where
  | absent (text : String)
  | noSuchFile
  | notDirectory
  | isDirectory
  | nameTooLong
  | nulInName
  deriving Repr, DecidableEq

def ReadFault.message : ReadFault → String
  | .absent text => text
  | .noSuchFile => "No such file or directory (os error 2)"
  | .notDirectory => "Not a directory (os error 20)"
  | .isDirectory => "Is a directory (os error 21)"
  | .nameTooLong => "File name too long (os error 36)"
  | .nulInName => "file name contained an unexpected NUL byte"

def ReadFault.kind : ReadFault → String
  | .absent _ | .noSuchFile => "NotFound"
  | .notDirectory => "NotADirectory"
  | .isDirectory => "IsADirectory"
  | .nameTooLong => "InvalidFilename"
  | .nulInName => "InvalidInput"

/-- How the fault describes itself inside a larger description. -/
def ReadFault.describe : ReadFault → String
  | .absent text => record "Custom" [("kind", "NotFound"), ("error", quoted text)]
  | .nulInName =>
    record "Error" [("kind", "InvalidInput"), ("message", quoted ReadFault.nulInName.message)]
  | .noSuchFile => os 2 "NotFound" "No such file or directory"
  | .notDirectory => os 20 "NotADirectory" "Not a directory"
  | .isDirectory => os 21 "IsADirectory" "Is a directory"
  | .nameTooLong => os 36 "InvalidFilename" "File name too long"
where
  os (code : Nat) (kind text : String) : String :=
    record "Os" [("code", toString code), ("kind", kind), ("message", quoted text)]

/-- What an engine refuses when it is configured. -/
inductive ProviderFault where
  /-- The engine's own error, which has no text of this library. -/
  | engine
  | unusableKey
  | certificateVersion
  | certificateEncoding
  | algorithmsDiffer
  | repeatedExtension
  | criticalExtension
  | keysDiffer
  | other (text : String)
  deriving Repr, DecidableEq

def ProviderFault.message : ProviderFault → String
  | .engine => ""
  | .unusableKey => "unexpected error: failed to parse private key as RSA, ECDSA, or EdDSA"
  | .certificateVersion => "invalid peer certificate: Other(OtherError(UnsupportedCertVersion))"
  | .certificateEncoding => "invalid peer certificate: BadEncoding"
  | .algorithmsDiffer =>
    "invalid peer certificate: Other(OtherError(SignatureAlgorithmMismatch))"
  | .repeatedExtension => "invalid peer certificate: Other(OtherError(ExtensionValueInvalid))"
  | .criticalExtension =>
    "invalid peer certificate: Other(OtherError(UnsupportedCriticalExtension))"
  | .keysDiffer => "keys may not be consistent: KeyMismatch"
  | .other text => text

/-- A failure to resolve credentials, build a context or complete a handshake. -/
inductive Error where
  | config (fault : ConfigFault)
  | io (path : String) (fault : ReadFault)
  | parse (fault : ParseFault)
  | provider (fault : ProviderFault)
  | handshake (text : String)
  /-- A text with a NUL inside was meant for an engine, which stops the program. -/
  | nulInText
  deriving Repr, DecidableEq

namespace Error

def kind : Error → String
  | .config _ => "Config"
  | .io _ _ => "Io"
  | .parse _ => "Parse"
  | .provider _ => "Provider"
  | .handshake _ => "Handshake"
  | .nulInText => "Stopped"

/-- The wording of an error. An engine's own error is left unnamed. -/
def message : Error → String
  | .config fault => "Invalid configuration: " ++ fault.message
  | .io path fault => "I/O error reading " ++ path ++ ": " ++ fault.message
  | .parse fault => "Parse error: " ++ fault.message
  | .provider .engine => "TLS provider error"
  | .provider fault => "TLS provider error: " ++ fault.message
  | .handshake text => "Handshake failed: " ++ text
  | .nulInText => "NUL inside a text"

def describe : Error → String
  | .config fault => "Config(" ++ quoted fault.message ++ ")"
  | .io path fault => record "Io" [("path", quotedPath path), ("source", fault.describe)]
  | .parse fault => "Parse(" ++ quoted fault.message ++ ")"
  | .provider fault => "Provider(" ++ quoted fault.message ++ ")"
  | .handshake text => "Handshake(" ++ quoted text ++ ")"
  | .nulInText => "NulInText"

end Error

inductive Rejection where
  | revoked
  | rejected (reason : String)
  | emptyChain
  deriving Repr, DecidableEq

namespace Rejection

def message : Rejection → String
  | .revoked => "Certificate revoked"
  | .rejected reason => "Certificate rejected: " ++ reason
  | .emptyChain => "Empty certificate chain"

def describe : Rejection → String
  | .revoked => "Revoked"
  | .rejected reason => "Rejected(" ++ quoted reason ++ ")"
  | .emptyChain => "EmptyChain"

end Rejection

end TlsSetup
