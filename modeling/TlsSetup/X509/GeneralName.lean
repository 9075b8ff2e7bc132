import TlsSetup.X509.Name

/-!
# General names

The forms in which certificates name holders and issuers other than by a distinguished name alone.
-/

namespace TlsSetup.X509

open Der

/-- One of several forms of naming a holder. -/
inductive GeneralName where
  | dns (bytes : Bytes)
  | directory (name : Name)
  | typed (kind : Oid) (value : Element)
  | other (form : Nat) (content : Bytes)
  deriving Repr, DecidableEq

namespace GeneralName

/-- A text in one of the types for names in directories. -/
def directoryText? (e : Element) : Option Bytes :=
  if e.tag.tagClass = .universal ∧ [12, 19, 20, 28, 30].contains e.tag.number then
    Name.contents? e
  else none

/-- A name of a kind that is named beside it. -/
def typed? (e : Element) : Option GeneralName := e.fields? do
  let kind ← Fields.reading Element.oid?
  let value ← Fields.wrapping 0 Element.open?
  return .typed kind value

/-- The name of a party, with or without the one who assigned it. -/
def party? (e : Element) : Option Unit := e.fields? do
  let _ ← Fields.wrapped 0 directoryText?
  let _ ← Fields.wrapping 1 directoryText?

/-- Reads a name, whose tag says of which form it is. -/
def ofElement? (e : Element) : Option GeneralName := do
  guard (e.tag.tagClass = .context)
  match e.tag.number with
  | 0 => typed? e
  | 1 | 6 | 7 => return .other e.tag.number (← e.string?)
  | 2 => return .dns (← e.string?)
  | 3 => if e.constructed then return .other 3 e.content else failure
  | 4 => return .directory (← e.inside? Name.ofElement?)
  | 5 => do
    party? e
    return .other 5 e.content
  | 8 => do
    let bs ← e.primitive?
    let _ ← Der.oid? bs
    return .other 8 bs
  | _ => failure

def list? (bs : Bytes) : Option (List GeneralName) := Der.list? bs ofElement?

end GeneralName

end TlsSetup.X509
