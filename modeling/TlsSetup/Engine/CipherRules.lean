import TlsSetup.Engine.CipherSuite
import TlsSetup.Text.Pieces

/-!
# Lists of cipher suites

How the openssl engine reads what it is told about suites. The suites of version 1.3 are a plain list
of names. For the older ones there is a small language: every rule takes suites into use, puts them
out of use again or bans them, and names them one by one or by what they have in common. A name that
is not known is passed over with the rest of its rule. A list that leaves no suite in use is an error.
-/

namespace TlsSetup.CipherRules

/-- Whether a name is meant for version 1.3. -/
def isModern (name : String) : Bool :=
  "TLS_".toList.isPrefixOf name.toList && !contains "_WITH_".toList name.toList
where
  contains (part : List Char) : List Char → Bool
    | [] => part.isEmpty
    | c :: cs => part.isPrefixOf (c :: cs) || contains part cs

/-- What some suites have in common. A field that is none does not restrict them. -/
structure Pattern where
  exchange : Option (List KeyExchange) := none
  authentication : Option (List Authentication) := none
  cipher : Option (List BulkCipher) := none
  digest : Option (List MessageDigest) := none
  classes : Option (List StrengthClass) := none
  /-- Only suites that must be asked for. -/
  optional : Bool := false
  since : Option FirstVersion := none
  /-- The only suite that is meant. -/
  suite : Option CipherSuite := none
  deriving Repr, DecidableEq

namespace Pattern

def allows {α : Type} [DecidableEq α] (field : Option (List α)) (values : List α) : Bool :=
  field.all fun xs => xs.any fun x => values.contains x

def isMet (p : Pattern) (s : CipherSuite) : Bool :=
  p.suite.all (· == s) && allows p.exchange [s.exchange] &&
    allows p.authentication [s.authentication] && allows p.cipher [s.cipher] &&
    allows p.digest [s.digest] && allows p.classes s.classes && (!p.optional || s.isOptional) &&
    p.since.all (· == s.since)

/-- The pattern that describes one suite. Its version is no part of it. -/
def ofSuite (s : CipherSuite) : Pattern where
  exchange := some [s.exchange]
  authentication := some [s.authentication]
  cipher := some [s.cipher]
  digest := some [s.digest]
  classes := some s.classes
  optional := s.isOptional
  suite := some s

/-- What two fields allow together, unless that is nothing. -/
def both? {α : Type} [DecidableEq α] (a b : Option (List α)) : Option (Option (List α)) :=
  match a, b with
  | a, none => some a
  | none, b => some b
  | some xs, some ys =>
    let common := xs.filter (ys.contains ·)
    if common.isEmpty then none else some (some common)

/-- What two patterns describe together, unless they contradict each other. The suite that is meant is
the one that the second pattern names, and a first class of strength makes optional suites count like
the others again. -/
def and? (p q : Pattern) : Option Pattern := do
  let exchange ← both? p.exchange q.exchange
  let authentication ← both? p.authentication q.authentication
  let cipher ← both? p.cipher q.cipher
  let digest ← both? p.digest q.digest
  let classes ← both? p.classes q.classes
  let optional := q.optional || (p.optional && !(p.classes.isNone && q.classes.isSome))
  let since ← match p.since, q.since with
    | a, none => some a
    | none, b => some b
    | some a, some b => if a = b then some (some a) else none
  return ⟨exchange, authentication, cipher, digest, classes, optional, since, q.suite⟩

end Pattern

def encrypted : List BulkCipher :=
  [.tripleDes, .aes128, .aes256, .aes128Gcm, .aes256Gcm, .aes128Ccm, .aes256Ccm, .aes128Ccm8,
    .aes256Ccm8, .chacha20, .aria128Gcm, .aria256Gcm]

def named : List Authentication := [.rsa, .dss, .ecdsa, .psk, .srp]

/-- Names for several suites at once. -/
def groups : List (String × Pattern) :=
  exchanges ++ authentications ++ ciphers ++ digests ++ versions ++ strengths
where
  exchange (x : KeyExchange) : Pattern := { exchange := some [x] }
  authentication (x : Authentication) : Pattern := { authentication := some [x] }
  pair (x : KeyExchange) (xs : List Authentication) : Pattern :=
    { exchange := some [x], authentication := some xs }
  cipher (xs : List BulkCipher) : Pattern := { cipher := some xs }
  digest (x : MessageDigest) : Pattern := { digest := some [x] }
  exchanges : List (String × Pattern) :=
    [("kRSA", exchange .rsa), ("kEDH", exchange .dhe), ("kDHE", exchange .dhe),
      ("DH", exchange .dhe), ("kEECDH", exchange .ecdhe), ("kECDHE", exchange .ecdhe),
      ("ECDH", exchange .ecdhe), ("kPSK", exchange .psk), ("kRSAPSK", exchange .rsaPsk),
      ("kECDHEPSK", exchange .ecdhePsk), ("kDHEPSK", exchange .dhePsk), ("kSRP", exchange .srp),
      ("SRP", exchange .srp), ("PSK", { exchange := some [.psk, .rsaPsk, .ecdhePsk, .dhePsk] })]
  authentications : List (String × Pattern) :=
    [("aRSA", authentication .rsa), ("aDSS", authentication .dss), ("DSS", authentication .dss),
      ("aNULL", authentication .anonymous), ("aECDSA", authentication .ecdsa),
      ("ECDSA", authentication .ecdsa), ("aPSK", authentication .psk),
      ("aSRP", authentication .srp), ("EDH", pair .dhe named), ("DHE", pair .dhe named),
      ("EECDH", pair .ecdhe named), ("ECDHE", pair .ecdhe named), ("RSA", pair .rsa [.rsa]),
      ("ADH", pair .dhe [.anonymous]), ("AECDH", pair .ecdhe [.anonymous])]
  ciphers : List (String × Pattern) :=
    [("ALL", cipher encrypted), ("COMPLEMENTOFALL", cipher [.null]), ("NULL", cipher [.null]),
      ("eNULL", cipher [.null]), ("3DES", cipher [.tripleDes]),
      ("AES128", cipher [.aes128, .aes128Gcm, .aes128Ccm, .aes128Ccm8]),
      ("AES256", cipher [.aes256, .aes256Gcm, .aes256Ccm, .aes256Ccm8]),
      ("AES", cipher [.aes128, .aes256, .aes128Gcm, .aes256Gcm, .aes128Ccm, .aes256Ccm,
        .aes128Ccm8, .aes256Ccm8]),
      ("AESGCM", cipher [.aes128Gcm, .aes256Gcm]),
      ("AESCCM", cipher [.aes128Ccm, .aes256Ccm, .aes128Ccm8, .aes256Ccm8]),
      ("AESCCM8", cipher [.aes128Ccm8, .aes256Ccm8]), ("CHACHA20", cipher [.chacha20]),
      ("ARIA", cipher [.aria128Gcm, .aria256Gcm]), ("ARIAGCM", cipher [.aria128Gcm, .aria256Gcm]),
      ("ARIA128", cipher [.aria128Gcm]), ("ARIA256", cipher [.aria256Gcm]),
      ("CBC", cipher [.tripleDes, .aes128, .aes256])]
  digests : List (String × Pattern) :=
    [("MD5", digest .md5), ("SHA1", digest .sha1), ("SHA", digest .sha1),
      ("SHA256", digest .sha256), ("SHA384", digest .sha384)]
  versions : List (String × Pattern) :=
    [("SSLv3", { since := some .ssl3 }), ("TLSv1", { since := some .tls1 }),
      ("TLSv1.0", { since := some .tls1 }), ("TLSv1.2", { since := some .tls12 })]
  strengths : List (String × Pattern) :=
    [("COMPLEMENTOFDEFAULT", { optional := true }), ("LOW", { classes := some [.low] }),
      ("MEDIUM", { classes := some [.medium] }), ("HIGH", { classes := some [.high] }),
      ("FIPS", { cipher := some encrypted, classes := some [.approved] }),
      ("EDH-DSS-DES-CBC3-SHA", tripleDes .dss), ("EDH-RSA-DES-CBC3-SHA", tripleDes .rsa)]
  tripleDes (x : Authentication) : Pattern :=
    { exchange := some [.dhe], authentication := some [x], cipher := some [.tripleDes],
      digest := some [.sha1], classes := some [.high, .approved] }

/-- What a name stands for: one suite, by either of its names, or a group. -/
def pattern? (name : String) : Option Pattern :=
  match CipherSuite.known.find? fun s => s.name == name || s.longName == name with
  | some s => some (.ofSuite s)
  | none => groups.lookup name

/-- What a rule does with the suites that it names. -/
inductive Action where
  | use
  | drop
  | ban
  /-- Changes the order of the suites that are in use, but not which ones are. -/
  | move
  deriving Repr, DecidableEq

structure Rule where
  action : Action
  pattern : Pattern
  deriving Repr, DecidableEq

/-- The suites that can still be used, each with whether it is in use. -/
abbrev Selection := List (CipherSuite × Bool)

namespace Selection

def initial : Selection := CipherSuite.known.map fun s => (s, false)

def apply (sel : Selection) (r : Rule) : Selection :=
  match r.action with
  | .use => sel.map fun (s, used) => (s, used || r.pattern.isMet s)
  | .drop => sel.map fun (s, used) => (s, used && !r.pattern.isMet s)
  | .ban => sel.filter fun (s, _) => !r.pattern.isMet s
  | .move => sel

def used (sel : Selection) : List CipherSuite :=
  sel.filterMap fun (s, used) => if used then some s else none

end Selection

def isSeparator (c : Char) : Bool := c == ':' || c == ' ' || c == ',' || c == ';'

def isNameChar (c : Char) : Bool :=
  ('a' ≤ c && c ≤ 'z') || ('A' ≤ c && c ≤ 'Z') || ('0' ≤ c && c ≤ '9') || c == '-' || c == '_' ||
    c == '.' || c == '='

/-- What follows a rule that is not read to its end. -/
def skipRule (cs : List Char) : List Char := cs.dropWhile fun c => !isSeparator c

/-- Reads names joined by plus signs. The outcome is none if a name is missing; the pattern is none if
a name is not known or contradicts those before it, and then the rest of the rule is passed over. -/
def readPattern (fuel : Nat) (sofar : Pattern) (cs : List Char) :
    Option (Option Pattern × List Char) :=
  match fuel with
  | 0 => none
  | fuel + 1 =>
    let name := cs.takeWhile isNameChar
    let rest := cs.dropWhile isNameChar
    if name.isEmpty then none
    else
      let (more, rest) := match rest with
        | '+' :: rest => (true, rest)
        | _ => (false, rest)
      match (pattern? (String.ofList name)).bind sofar.and? with
      | none => some (none, skipRule rest)
      | some p => if more then readPattern fuel p rest else some (some p, rest)

/-- Whether a command that is not about single suites is known: one sorts them, one sets the least
strength of keys. -/
def isCommand (name : String) : Bool :=
  name == "STRENGTH" ||
    match name.toList.drop 9 with
    | [level] => "SECLEVEL=".toList.isPrefixOf name.toList && '0' ≤ level && level ≤ '5'
    | _ => false

/-- The rules in a text, none if one of them is malformed. -/
def readRules (fuel : Nat) (cs : List Char) : Option (List Rule) :=
  match fuel with
  | 0 => some []
  | fuel + 1 =>
    let rule (action : Action) (cs : List Char) : Option (List Rule) :=
      match readPattern (cs.length + 1) {} cs with
      | none => none
      | some (none, rest) => readRules fuel rest
      | some (some p, rest) => (readRules fuel rest).map (⟨action, p⟩ :: ·)
    match cs with
    | [] => some []
    | '-' :: cs => rule .drop cs
    | '+' :: cs => rule .move cs
    | '!' :: cs => rule .ban cs
    | '@' :: cs =>
      if isCommand (String.ofList (cs.takeWhile isNameChar)) then readRules fuel (skipRule cs)
      else none
    | c :: cs => if isSeparator c then readRules fuel cs else rule .use (c :: cs)

def parse (cs : List Char) : Option (List Rule) := readRules (cs.length + 1) cs

/-- The rules that the word `DEFAULT` stands for: all suites that encrypt and need not be asked for. -/
def standard : List Rule :=
  [⟨.use, { cipher := some encrypted }⟩, ⟨.ban, { optional := true }⟩,
    ⟨.ban, { cipher := some [.null] }⟩]

/-- The rules of a list of suites: the word `DEFAULT` may stand at its beginning only. -/
def rules? (cs : List Char) : Option (List Rule) :=
  let word := "DEFAULT".toList
  if word.isPrefixOf cs then
    let rest := match cs.drop word.length with
      | ':' :: rest => rest
      | rest => rest
    (parse rest).map (standard ++ ·)
  else parse cs

/-- Words at the beginning of a list that stand for suites of their own, whatever follows. -/
def profiles : List (String × List String) :=
  [("SUITEB128ONLY", ["ECDHE-ECDSA-AES128-GCM-SHA256"]),
    ("SUITEB128C2", ["ECDHE-ECDSA-AES256-GCM-SHA384"]),
    ("SUITEB128", ["ECDHE-ECDSA-AES128-GCM-SHA256", "ECDHE-ECDSA-AES256-GCM-SHA384"]),
    ("SUITEB192", ["ECDHE-ECDSA-AES256-GCM-SHA384"])]

/-- The suites that a list puts into use, none if it is malformed. -/
def suites? (cs : List Char) : Option (List CipherSuite) :=
  match profiles.find? fun (word, _) => word.toList.isPrefixOf cs with
  | some (_, names) => some (CipherSuite.known.filter fun s => names.contains s.name)
  | none => (rules? cs).map fun rules => (rules.foldl Selection.apply .initial).used

def isBlank (c : Char) : Bool := c == ' ' || (9 ≤ c.toNat && c.toNat ≤ 13)

def trim (cs : List Char) : List Char := ((cs.dropWhile isBlank).reverse.dropWhile isBlank).reverse

/-- The names of a plain list of suites of version 1.3 that are known. -/
def modernSuites (names : List String) : List String :=
  ((Text.pieces ':' (":".intercalate names).toList).map fun piece =>
    String.ofList (trim piece)).filter fun name =>
      CipherSuite.modernNames.contains name || CipherSuite.signals.contains name

/-- Whether a list of suites of version 1.3 can be used; an empty one can. -/
def acceptsModern (names : List String) : Bool := names.isEmpty || !(modernSuites names).isEmpty

/-- Whether a list of older suites can be used after a list of suites of version 1.3: a signal in that
one counts as a suite. -/
def acceptsLegacy (modern legacy : List String) : Bool :=
  match suites? (":".intercalate legacy).toList with
  | none => false
  | some used => !used.isEmpty || (modernSuites modern).any CipherSuite.signals.contains

end TlsSetup.CipherRules
