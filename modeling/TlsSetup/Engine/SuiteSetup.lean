import TlsSetup.Engine.CipherRules
import TlsSetup.Error

/-!
# Suites and versions of a new context

A new context of the openssl engine has the engine's own two lists of suites and speaks all versions.
It is told its suites in two texts, whose names stand between colons. A kind of suites that is missing
takes the versions away that need it.
-/

namespace TlsSetup

/-- The versions of the protocol that the openssl engine speaks, oldest first. -/
inductive ProtocolVersion where
  | tls10
  | tls11
  | tls12
  | tls13
  deriving Repr, DecidableEq

namespace ProtocolVersion

def rank : ProtocolVersion → Nat
  | .tls10 => 0
  | .tls11 => 1
  | .tls12 => 2
  | .tls13 => 3

end ProtocolVersion

/-- What a context has been told about suites and versions. A list that is missing is the engine's own,
and a missing bound leaves all versions in. -/
structure SuiteSetup where
  modernList : Option String
  legacyList : Option String
  oldest : Option ProtocolVersion
  newest : Option ProtocolVersion
  deriving Repr, DecidableEq

namespace SuiteSetup

def fresh : SuiteSetup := ⟨none, none, none, none⟩

/-- Sets the list of suites of version 1.3. The text may be empty, and then there are none. -/
def setModern (s : SuiteSetup) (text : String) : Except Error SuiteSetup :=
  if text.toList.contains '\x00' then .error .nulInText
  else if !text.isEmpty && !CipherRules.acceptsModern [text] then .error (.provider .engine)
  else .ok { s with modernList := some text }

/-- Sets the list of older suites. The engine looks at both lists when it judges whether there is any
suite in use. -/
def setLegacy (s : SuiteSetup) (text : String) : Except Error SuiteSetup :=
  if text.toList.contains '\x00' then .error .nulInText
  else if !CipherRules.acceptsLegacy s.modernList.toList [text] then .error (.provider .engine)
  else .ok { s with legacyList := some text }

def tell (s : SuiteSetup) (names : List String) : Except Error SuiteSetup := do
  let (modern, legacy) := names.partition CipherRules.isModern
  let s ← s.setModern (":".intercalate modern)
  let s := if modern.isEmpty then { s with newest := some .tls12 } else s
  if legacy.isEmpty then return { s with oldest := some .tls13 }
  else s.setLegacy (":".intercalate legacy)

def allows (s : SuiteSetup) (v : ProtocolVersion) : Bool :=
  s.oldest.all (·.rank ≤ v.rank) && s.newest.all (v.rank ≤ ·.rank)

/-- The list that was set for the suites of a version; none means that the engine's own is in effect. -/
def listFor (s : SuiteSetup) : ProtocolVersion → Option String
  | .tls13 => s.modernList
  | .tls10 | .tls11 | .tls12 => s.legacyList

end SuiteSetup

end TlsSetup
