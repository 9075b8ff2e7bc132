import TlsSetup.Bytes

/-!
# Cipher suites of the openssl engine

A suite of the older protocol versions combines a way to agree on keys, a way to prove who one is, a
cipher and a digest for messages. Every suite has two names. The suites of version 1.3 are known by
their names alone.
-/

namespace TlsSetup

inductive KeyExchange where
  | rsa
  | dhe
  | ecdhe
  | psk
  | rsaPsk
  | dhePsk
  | ecdhePsk
  | srp
  deriving Repr, DecidableEq

inductive Authentication where
  | rsa
  | dss
  | ecdsa
  | psk
  | srp
  | anonymous
  deriving Repr, DecidableEq

/-- How messages are encrypted. No suite uses the triple cipher any more. -/
inductive BulkCipher where
  | null
  | tripleDes
  | aes128
  | aes256
  | aes128Gcm
  | aes256Gcm
  | aes128Ccm
  | aes256Ccm
  | aes128Ccm8
  | aes256Ccm8
  | chacha20
  | aria128Gcm
  | aria256Gcm
  deriving Repr, DecidableEq

/-- How messages are protected against changes; an authenticated cipher does it by itself. -/
inductive MessageDigest where
  | md5
  | sha1
  | sha256
  | sha384
  | byCipher
  deriving Repr, DecidableEq

inductive FirstVersion where
  | ssl3
  | tls1
  | tls12
  deriving Repr, DecidableEq

inductive StrengthClass where
  | unencrypted
  | low
  | medium
  | high
  | approved
  deriving Repr, DecidableEq

/-- A suite of the older protocol versions. -/
structure CipherSuite where
  name : String
  longName : String
  exchange : KeyExchange
  authentication : Authentication
  cipher : BulkCipher
  digest : MessageDigest
  since : FirstVersion
  deriving Repr, DecidableEq

namespace CipherSuite

/-- A cipher and digest as they occur in the suites of several families. -/
structure Protection where
  name : String
  longName : String
  cipher : BulkCipher
  digest : MessageDigest
  since : FirstVersion

/-- The suites of one way to agree on keys and to prove who one is. -/
def family (front longFront : String) (exchange : KeyExchange) (authentication : Authentication)
    (protections : List Protection) : List CipherSuite :=
  protections.map fun p =>
    ⟨front ++ p.name, "TLS_" ++ longFront ++ "_WITH_" ++ p.longName, exchange, authentication,
      p.cipher, p.digest, p.since⟩

namespace Protection

def unencrypted (v : FirstVersion) : List Protection := [⟨"NULL-SHA", "NULL_SHA", .null, .sha1, v⟩]

def chained (v : FirstVersion) : List Protection :=
  [⟨"AES128-SHA", "AES_128_CBC_SHA", .aes128, .sha1, v⟩,
    ⟨"AES256-SHA", "AES_256_CBC_SHA", .aes256, .sha1, v⟩]

/-- Chained ciphers with the shorter of the newer digests. -/
def chained256 : List Protection :=
  [⟨"AES128-SHA256", "AES_128_CBC_SHA256", .aes128, .sha256, .tls12⟩,
    ⟨"AES256-SHA256", "AES_256_CBC_SHA256", .aes256, .sha256, .tls12⟩]

/-- Chained ciphers with a digest as strong as the cipher. -/
def chained384 : List Protection :=
  [⟨"AES128-SHA256", "AES_128_CBC_SHA256", .aes128, .sha256, .tls12⟩,
    ⟨"AES256-SHA384", "AES_256_CBC_SHA384", .aes256, .sha384, .tls12⟩]

def counted : List Protection :=
  [⟨"AES128-GCM-SHA256", "AES_128_GCM_SHA256", .aes128Gcm, .byCipher, .tls12⟩,
    ⟨"AES256-GCM-SHA384", "AES_256_GCM_SHA384", .aes256Gcm, .byCipher, .tls12⟩]

def ccm : List Protection :=
  [⟨"AES128-CCM", "AES_128_CCM", .aes128Ccm, .byCipher, .tls12⟩,
    ⟨"AES256-CCM", "AES_256_CCM", .aes256Ccm, .byCipher, .tls12⟩]

def ccm8 : List Protection :=
  [⟨"AES128-CCM8", "AES_128_CCM_8", .aes128Ccm8, .byCipher, .tls12⟩,
    ⟨"AES256-CCM8", "AES_256_CCM_8", .aes256Ccm8, .byCipher, .tls12⟩]

def chacha : List Protection :=
  [⟨"CHACHA20-POLY1305", "CHACHA20_POLY1305_SHA256", .chacha20, .byCipher, .tls12⟩]

def aria : List Protection :=
  [⟨"ARIA128-GCM-SHA256", "ARIA_128_GCM_SHA256", .aria128Gcm, .byCipher, .tls12⟩,
    ⟨"ARIA256-GCM-SHA384", "ARIA_256_GCM_SHA384", .aria256Gcm, .byCipher, .tls12⟩]

/-- What the suites with shared keys have in common; `v` is the version of the oldest ones. -/
def shared (v : FirstVersion) : List Protection :=
  [⟨"NULL-SHA", "NULL_SHA", .null, .sha1, v⟩,
    ⟨"NULL-SHA256", "NULL_SHA256", .null, .sha256, .tls1⟩,
    ⟨"NULL-SHA384", "NULL_SHA384", .null, .sha384, .tls1⟩,
    ⟨"AES128-CBC-SHA", "AES_128_CBC_SHA", .aes128, .sha1, v⟩,
    ⟨"AES256-CBC-SHA", "AES_256_CBC_SHA", .aes256, .sha1, v⟩,
    ⟨"AES128-CBC-SHA256", "AES_128_CBC_SHA256", .aes128, .sha256, .tls1⟩,
    ⟨"AES256-CBC-SHA384", "AES_256_CBC_SHA384", .aes256, .sha384, .tls1⟩] ++ chacha

def password : List Protection :=
  [⟨"AES-128-CBC-SHA", "AES_128_CBC_SHA", .aes128, .sha1, .ssl3⟩,
    ⟨"AES-256-CBC-SHA", "AES_256_CBC_SHA", .aes256, .sha1, .ssl3⟩]

end Protection

open Protection in
def known : List CipherSuite :=
  family "" "RSA" .rsa .rsa
      ([⟨"NULL-MD5", "NULL_MD5", .null, .md5, .ssl3⟩,
        ⟨"NULL-SHA256", "NULL_SHA256", .null, .sha256, .tls12⟩] ++
        unencrypted .ssl3 ++ chained .ssl3 ++ chained256 ++ counted ++ ccm ++ ccm8 ++ aria) ++
    family "DHE-DSS-" "DHE_DSS" .dhe .dss (chained .ssl3 ++ chained256 ++ counted ++ aria) ++
    family "DHE-RSA-" "DHE_RSA" .dhe .rsa
      (chained .ssl3 ++ chained256 ++ counted ++ ccm ++ ccm8 ++ chacha ++ aria) ++
    family "ADH-" "DH_anon" .dhe .anonymous (chained .ssl3 ++ chained256 ++ counted) ++
    family "ECDHE-ECDSA-" "ECDHE_ECDSA" .ecdhe .ecdsa
      (unencrypted .tls1 ++ chained .tls1 ++ chained384 ++ counted ++ ccm ++ ccm8 ++ chacha ++
        aria) ++
    family "ECDHE-RSA-" "ECDHE_RSA" .ecdhe .rsa
      (unencrypted .tls1 ++ chained .tls1 ++ chained384 ++ counted ++ chacha) ++
    family "ECDHE-" "ECDHE_RSA" .ecdhe .rsa aria ++
    family "AECDH-" "ECDH_anon" .ecdhe .anonymous (unencrypted .tls1 ++ chained .tls1) ++
    family "PSK-" "PSK" .psk .psk (shared .ssl3 ++ counted ++ ccm ++ ccm8 ++ aria) ++
    family "DHE-PSK-" "DHE_PSK" .dhePsk .psk (shared .ssl3 ++ counted ++ ccm ++ aria) ++
    family "DHE-PSK-" "PSK_DHE" .dhePsk .psk ccm8 ++
    family "RSA-PSK-" "RSA_PSK" .rsaPsk .rsa (shared .ssl3 ++ counted ++ aria) ++
    family "ECDHE-PSK-" "ECDHE_PSK" .ecdhePsk .psk (shared .tls1) ++
    family "SRP-" "SRP_SHA" .srp .srp password ++
    family "SRP-RSA-" "SRP_SHA_RSA" .srp .rsa password ++
    family "SRP-DSS-" "SRP_SHA_DSS" .srp .dss password

def classes (s : CipherSuite) : List StrengthClass :=
  match s.cipher with
  | .null => [.unencrypted]
  | .tripleDes | .chacha20 | .aria128Gcm | .aria256Gcm | .aes128Ccm | .aes256Ccm => [.high]
  | .aes128Ccm8 | .aes256Ccm8 => [.medium]
  | .aes128 | .aes256 | .aes128Gcm | .aes256Gcm =>
    if s.exchange = .srp then [.high] else [.high, .approved]

/-- Whether a suite is only used if it is asked for, although it encrypts. -/
def isOptional (s : CipherSuite) : Bool :=
  match s.cipher with
  | .null => false
  | .aes128Ccm | .aes256Ccm | .aes128Ccm8 | .aes256Ccm8 | .aria128Gcm | .aria256Gcm => true
  | _ => s.authentication == .anonymous || s.authentication == .dss

def modernNames : List String :=
  ["TLS_AES_128_GCM_SHA256", "TLS_AES_256_GCM_SHA384", "TLS_CHACHA20_POLY1305_SHA256",
    "TLS_AES_128_CCM_SHA256", "TLS_AES_128_CCM_8_SHA256", "TLS_SHA256_SHA256", "TLS_SHA384_SHA384"]

/-- Names in lists of suites that stand for a message of the client and not for a suite. They are
counted among the suites of the oldest versions. -/
def signals : List String := ["TLS_EMPTY_RENEGOTIATION_INFO_SCSV", "TLS_FALLBACK_SCSV"]

end CipherSuite

end TlsSetup
