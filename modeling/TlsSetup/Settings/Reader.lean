import TlsSetup.Codec.Json
import TlsSetup.Decimal.Shortest
import TlsSetup.Settings.Basic

/-!
# Reading settings

Settings are read from a document field by field, in its order, and the first fault is the answer. A
field that is not declared is a fault at every level. A record may also be given as a list of its
fields. A document that comes as text may end or break off anywhere; one that was read before is whole,
and its objects are in the order of their names.
-/

namespace TlsSetup

inductive DecodeFault where
  | broken (fault : Json.Fault)
  | wrongType (found expected : String)
  | wrongValue (found expected : String)
  | wrongLength (length : Nat) (expected : String)
  | unknownVariant (name : String) (known : List String)
  | unknownField (name : String) (known : List String)
  | missingField (name : String)
  | duplicateField (name : String)
  deriving Repr, DecidableEq

namespace DecodeFault

def choice (known : List String) : String :=
  match known.map fun s => "`" ++ s ++ "`" with
  | [] => "nothing"
  | [a] => a
  | [a, b] => a ++ " or " ++ b
  | names => "one of " ++ ", ".intercalate names

def message : DecodeFault → String
  | .broken fault => fault.message
  | .wrongType found expected => "invalid type: " ++ found ++ ", expected " ++ expected
  | .wrongValue found expected => "invalid value: " ++ found ++ ", expected " ++ expected
  | .wrongLength n expected => "invalid length " ++ toString n ++ ", expected " ++ expected
  | .unknownVariant name known =>
    "unknown variant `" ++ name ++ "`, expected " ++ choice known
  | .unknownField name known => "unknown field `" ++ name ++ "`, expected " ++ choice known
  | .missingField name => "missing field `" ++ name ++ "`"
  | .duplicateField name => "duplicate field `" ++ name ++ "`"

end DecodeFault

namespace Settings.Reader

/-- How floating point numbers are shown: between `0.00001` and `1e+16` without an exponent. -/
def floatLayout : Decimal.Layout := ⟨-5, 16, 2⟩

def kindOf : Json → String
  | .null => "null"
  | .bool b => "boolean `" ++ Text.truth b ++ "`"
  | .integer n => "integer `" ++ toString n ++ "`"
  | .float bits => "floating point `" ++ floatLayout.text bits ++ "`"
  | .text s => "string " ++ Text.quoted s
  | .array _ _ => "sequence"
  | .object _ _ => "map"
  | .broken _ _ => "nothing"

abbrev Read (α : Type) := Json → Except DecodeFault α

def mismatch {α : Type} (expected : String) : Read α
  | .broken _ fault => .error (.broken fault)
  | j => .error (.wrongType (kindOf j) expected)

def truth : Read Bool
  | .bool b => .ok b
  | j => mismatch "a boolean" j

def text : Read String
  | .text s => .ok s
  | j => mismatch "a string" j

def path : Read String
  | .text s => .ok s
  | j => mismatch "path string" j

def optional {α : Type} (read : Read α) : Read (Option α)
  | .null => .ok none
  | j => (read j).map some

def intact : Option Json.Fault → Except DecodeFault Unit
  | none => .ok ()
  | some fault => .error (.broken fault)

def list {α : Type} (read : Read α) : Read (List α)
  | .array items fault => do
    let values ← items.mapM read
    intact fault
    return values
  | j => mismatch "a sequence" j

/-- One of some names. -/
def variant {α : Type} (known : List (String × α)) (name : String) : Except DecodeFault α :=
  match known.lookup name with
  | some a => .ok a
  | none => .error (.unknownVariant name (known.map (·.1)))

/-- The value beside the name of a choice that has none. -/
def nothing : Read Unit
  | .null => .ok ()
  | j => mismatch "unit" j

def choice {α : Type} (streamed : Bool) (known : List (String × α)) : Read α
  | .text s => variant known s
  | .broken opening fault =>
    if opening.all fun c => c == '"' || c == '\x7b' then .error (.broken fault)
    else .error (.broken .expectedValue)
  | .object entries fault =>
    if streamed then
      match entries with
      | [] => .error (.broken (fault.getD .expectedValue))
      | (name, value) :: more => do
        let a ← variant known name
        nothing value
        if !more.isEmpty then throw (.broken .expectedValue)
        match fault with
        | none => return a
        | some .endInObject => throw (.broken .endInObject)
        | some _ => throw (.broken .expectedValue)
    else
      match entries with
      | [(name, value)] => do
        let a ← variant known name
        nothing value
        return a
      | _ => .error (.wrongValue "map" "map with a single key")
  | j =>
    if streamed then .error (.broken .expectedValue)
    else .error (.wrongType (kindOf j) "string or map")

/-- Takes the entries of a record one after the other; each must be declared and come once. -/
def entries {σ : Type} (known : List String) (take : σ → String → Read σ) (seen : List String)
    (state : σ) : List (String × Json) → Except DecodeFault σ
  | [] => .ok state
  | (name, value) :: rest =>
    if known.contains name = false then .error (.unknownField name known)
    else if seen.contains name then .error (.duplicateField name)
    else do
      let state ← take state name value
      entries known take (name :: seen) state rest

/-- A field that must have come. -/
def required {α : Type} (name : String) : Option α → Except DecodeFault α
  | some a => .ok a
  | none => .error (.missingField name)

def elements (n : Nat) : String := toString n ++ if n = 1 then " element" else " elements"

/-- Refuses more items than a record has fields. -/
def exactly (fields : Nat) (items : List Json) : Except DecodeFault Unit :=
  if fields < items.length then
    .error (.wrongLength items.length (elements fields ++ " in sequence"))
  else .ok ()

/-- The item for a field that must be there, in a record `record` with so many fields. -/
def itemAt {α : Type} (record : String) (fields : Nat) (read : Read α) (items : List Json) (i : Nat) :
    Except DecodeFault α :=
  match items[i]? with
  | some j => read j
  | none => .error (.wrongLength i (record ++ " with " ++ elements fields))

/-- The item for a field that may be missing. -/
def itemOr {α : Type} (default : α) (read : Read α) (items : List Json) (i : Nat) :
    Except DecodeFault α :=
  match items[i]? with
  | some j => read j
  | none => .ok default

/-- The contents beside the tag of a tagged record. -/
inductive Contents where
  | fields (entries : List (String × Json))
  | items (items : List Json)

def tag {α : Type} (known : List (String × α)) : Read α
  | .text s => variant known s
  | j => mismatch "variant identifier" j

/-- A value that is kept for later, and must be whole. -/
def whole : Read Json := fun j => do
  intact j.fault?
  return j

/-- The tag `type` among the entries of a record and the other entries. -/
def taggedEntries {α : Type} (known : List (String × α)) (found : Option α)
    (others : List (String × Json)) : List (String × Json) →
      Except DecodeFault (Option α × List (String × Json))
  | [] => .ok (found, others.reverse)
  | (name, value) :: rest =>
    if name = "type" then
      if found.isSome then .error (.duplicateField "type")
      else do taggedEntries known (some (← tag known value)) others rest
    else do
      let value ← whole value
      taggedEntries known found ((name, value) :: others) rest

/-- A record of which `type`, or the first item, says what it is. -/
def tagged {α : Type} (name : String) (known : List (String × α)) :
    Json → Except DecodeFault (α × Contents)
  | .object es fault => do
    let (found, others) ← taggedEntries known none [] es
    intact fault
    return (← required "type" found, .fields others)
  | .array items fault =>
    match items with
    | [] => do
      intact fault
      throw (.missingField "type")
    | first :: rest => do
      let a ← tag known first
      let rest ← rest.mapM whole
      intact fault
      return (a, .items rest)
  | j => mismatch ("internally tagged enum " ++ name) j

structure PairState where
  keyPath : Option String := none
  certPath : Option String := none

def pairOfFields (es : List (String × Json)) : Except DecodeFault PairSettings := do
  let s ← entries ["key_path", "cert_path"]
    (fun (s : PairState) name j =>
      if name = "key_path" then do return { s with keyPath := some (← path j) }
      else do return { s with certPath := some (← path j) })
    [] {} es
  return ⟨← required "key_path" s.keyPath, ← required "cert_path" s.certPath⟩

def pair : Read PairSettings
  | .object es _ => pairOfFields es
  | .array items _ => do
    let keyPath ← itemAt "struct PemPairSettings" 2 path items 0
    let certPath ← itemAt "struct PemPairSettings" 2 path items 1
    exactly 2 items
    return ⟨keyPath, certPath⟩
  | j => mismatch "struct PemPairSettings" j

structure PemState extends PairState where
  sni : List PairSettings := []

def pemOfFields (es : List (String × Json)) : Except DecodeFault KeySettings := do
  let s ← entries ["key_path", "cert_path", "sni"]
    (fun (s : PemState) name j =>
      if name = "key_path" then do return { s with keyPath := some (← path j) }
      else if name = "cert_path" then do return { s with certPath := some (← path j) }
      else do return { s with sni := ← list pair j })
    [] {} es
  return .pem (← required "key_path" s.keyPath) (← required "cert_path" s.certPath) s.sni

def pemOfItems (items : List Json) : Except DecodeFault KeySettings := do
  let record := "struct variant KeySettings::Pem"
  let keyPath ← itemAt record 3 path items 0
  let certPath ← itemAt record 3 path items 1
  let sni ← itemOr [] (list pair) items 2
  exactly 3 items
  return .pem keyPath certPath sni

structure ArchiveState where
  path : Option String := none
  password : String := ""

def archiveOfFields (es : List (String × Json)) : Except DecodeFault KeySettings := do
  let s ← entries ["path", "password"]
    (fun (s : ArchiveState) name j =>
      if name = "path" then do return { s with path := some (← path j) }
      else do return { s with password := ← text j })
    [] {} es
  return .pkcs12 (← required "path" s.path) s.password

def archiveOfItems (items : List Json) : Except DecodeFault KeySettings := do
  let path ← itemAt "struct variant KeySettings::Pkcs12" 2 path items 0
  let password ← itemOr "" text items 1
  exactly 2 items
  return .pkcs12 path password

def key : Read KeySettings := fun j => do
  match ← tagged "KeySettings" [("pem", true), ("pkcs12", false)] j with
  | (true, .fields es) => pemOfFields es
  | (true, .items items) => pemOfItems items
  | (false, .fields es) => archiveOfFields es
  | (false, .items items) => archiveOfItems items

def anchorsOfFields (es : List (String × Json)) : Except DecodeFault TrustSettings := do
  let s ← entries ["ca_paths"]
    (fun (_ : Option (List String)) _ j => do return some (← list path j)) [] none es
  return .pem (← required "ca_paths" s)

def trust : Read TrustSettings := fun j => do
  match ← tagged "TrustSettings" [("pem", true), ("system", false)] j with
  | (true, .fields es) => anchorsOfFields es
  | (true, .items items) =>
    let paths ← itemAt "struct variant TrustSettings::Pem" 1 (list path) items 0
    exactly 1 items
    return .pem paths
  | (false, .fields _) => return .system
  | (false, .items items) =>
    exactly 0 items
    return .system

def engines : List (String × Engine) := [("openssl", .openssl), ("rustls", .rustls)]

def clientAuths : List (String × ClientAuth) :=
  [("none", .none), ("request", .request), ("required", .required)]

def fieldNames : List String :=
  ["engine", "session_cache_enabled", "root", "key", "trust", "crl_paths", "crl_values",
    "cipher_suites", "application_protocols", "client_auth"]

/-- Reads one field into settings. -/
def takeField (streamed : Bool) (s : Settings) (name : String) (j : Json) :
    Except DecodeFault Settings := do
  match name with
  | "engine" => return { s with engine := ← choice streamed engines j }
  | "session_cache_enabled" => return { s with sessionCache := ← truth j }
  | "root" => return { s with root := ← optional path j }
  | "key" => return { s with key := ← optional key j }
  | "trust" => return { s with trust := ← optional trust j }
  | "crl_paths" => return { s with crlPaths := ← list path j }
  | "crl_values" => return { s with crlValues := ← list text j }
  | "cipher_suites" => return { s with cipherSuites := ← list text j }
  | "application_protocols" => return { s with protocols := ← list text j }
  | _ => return { s with clientAuth := ← choice streamed clientAuths j }

/-- The fault of a text where a list of settings with all its items must end. -/
def endFault : Json.Fault → Json.Fault
  | .endInList => .endInList
  | .trailingComma => .trailingComma
  | _ => .trailingCharacters

def settings (streamed : Bool) : Read Settings
  | .object es fault => do
    let s ← entries fieldNames (takeField streamed) [] {} es
    intact fault
    return s
  | .array items fault => do
    let s ← (fieldNames.zip items).foldlM (fun s (name, j) => takeField streamed s name j) {}
    if fieldNames.length < items.length then
      if streamed then throw (.broken .trailingCharacters)
      else throw (.wrongLength items.length "fewer elements in array")
    intact (if items.length = fieldNames.length then fault.map endFault else fault)
    return s
  | j => mismatch "struct TlsSettings" j

end Settings.Reader

namespace Settings

def insertEntry (e : String × Json) : List (String × Json) → List (String × Json)
  | [] => [e]
  | x :: rest =>
    if e.1 = x.1 then e :: rest
    else if e.1 < x.1 then e :: x :: rest
    else x :: insertEntry e rest

/-- A document with the entries of its objects in the order of their names, the last one of each. -/
def sorted (fuel : Nat) (j : Json) : Json :=
  match fuel with
  | 0 => j
  | fuel + 1 =>
    match j with
    | .array items fault => .array (items.map (sorted fuel)) fault
    | .object es fault =>
      .object ((es.map fun (k, v) => (k, sorted fuel v)).foldl (fun acc e => insertEntry e acc) [])
        fault
    | j => j

def ofJson (j : Json) : Except DecodeFault Settings :=
  Reader.settings false (sorted (Json.depthLimit + 2) j)

def ofText (s : String) : Except DecodeFault Settings := do
  let (j, trailing) := Json.read s
  let settings ← Reader.settings true j
  Reader.intact trailing
  return settings

end Settings

end TlsSetup
