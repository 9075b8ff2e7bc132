import TlsSetup.Host
import TlsSetup.X509.Traits

/-!
# Names that an authority may certify

Whether the names of a certificate lie inside the permitted and outside the excluded sets of an
authority. A kind of name for which there is no permitted set is not restricted by the others.
-/

namespace TlsSetup.X509

open Text

inductive NameFault where
  | permitted
  | excluded
  | bounds
  | type
  | form
  deriving Repr, DecidableEq

namespace NameConstraints

def sameFolded (a b : Bytes) : Bool := a.map lowerByte == b.map lowerByte

/-- Whether a host name lies in a domain: equal to it or below it. -/
def inDomain (host domain : Bytes) : Bool :=
  if domain.isEmpty then true
  else if host.length < domain.length then false
  else
    let front := host.take (host.length - domain.length)
    (front.isEmpty || domain.head? == some 46 || front.getLast? == some 46) &&
      sameFolded (host.drop front.length) domain

/-- What follows the last byte `mark`, if there is one, and what stands before it. -/
def cutLast? (mark : UInt8) (bs : Bytes) : Option (Bytes × Bytes) :=
  if bs.contains mark then
    let after := (bs.reverse.takeWhile (· != mark)).reverse
    some (bs.take (bs.length - after.length - 1), after)
  else none

/-- Whether a mail address lies in a set: an address, a host, or all hosts below a domain. -/
def mailIn (mail base : Bytes) : Except NameFault Bool :=
  match cutLast? 64 mail with
  | none => .error .form
  | some (localPart, host) =>
    match cutLast? 64 base with
    | some (baseLocal, baseHost) =>
      .ok ((baseLocal.isEmpty || baseLocal == localPart) && sameFolded baseHost host)
    | none =>
      if base.head? = some 46 then
        .ok (base.length < host.length &&
          sameFolded (host.drop (host.length - base.length)) base)
      else .ok (sameFolded base host)

/-- The host of a resource name: between `//` and the next `/` or `:`. -/
def hostOf? (uri : Bytes) : Option Bytes :=
  match uri.dropWhile (· != 58) with
  | 58 :: 47 :: 47 :: rest =>
    let host := rest.takeWhile fun b => b != 47 && b != 58
    if host.isEmpty then none else some host
  | _ => none

/-- Whether an address lies in a set of addresses: an address and a mask of the same length. -/
def addressIn (address base : Bytes) : Except NameFault Bool :=
  if (address.length = 4 ∨ address.length = 16) ∧ (base.length = 8 ∨ base.length = 32) then
    .ok (base.length == 2 * address.length &&
      (List.zipWith (fun (pair : UInt8 × UInt8) m => (pair.1 ^^^ pair.2) &&& m)
        (address.zip base) (base.drop address.length)).all (· == 0))
  else .error .form

/-- Whether a name lies in a set; `none` if they are of different kinds. -/
def inside? (name base : GeneralName) : Option (Except NameFault Bool) :=
  match name, base with
  | .dns n, .dns b => some (.ok (inDomain n b))
  | .directory n, .directory b => some (.ok (n.isBelow b))
  | .other 1 n, .other 1 b => some (mailIn n b)
  | .other 6 n, .other 6 b =>
    some (match hostOf? n with
      | none => .error .form
      | some host =>
        if b.head? = some 46 then
          .ok (b.length < host.length && sameFolded (host.drop (host.length - b.length)) b)
        else .ok (sameFolded host b))
  | .other 7 n, .other 7 b => some (addressIn n b)
  | .typed k _, .typed k' _ => if k = k' then some (.error .type) else none
  | .other k _, .other k' _ => if k = k' then some (.error .type) else none
  | _, _ => none

/-- Whether one of the sets of its kind holds a name, as far as `found` does not say it yet: `none` if
there is no such set. The bounds of all sets of the kind are looked at. -/
def anyInside (name : GeneralName) (found : Option Bool) :
    List Subtree → Except NameFault (Option Bool)
  | [] => .ok found
  | s :: rest =>
    match inside? name s.base with
    | none => anyInside name found rest
    | some result =>
      if s.bounded then .error .bounds
      else if found = some true then anyInside name found rest
      else
        match result with
        | .error fault => .error fault
        | .ok holds => anyInside name (some holds) rest

/-- Whether no set of its kind holds a name; the sets after one that does are not looked at. -/
def noneInside (name : GeneralName) : List Subtree → Except NameFault Unit
  | [] => .ok ()
  | s :: rest =>
    match inside? name s.base with
    | none => noneInside name rest
    | some result =>
      if s.bounded then .error .bounds
      else
        match result with
        | .error fault => .error fault
        | .ok true => .error .excluded
        | .ok false => noneInside name rest

def checkName (nc : NameConstraints) (name : GeneralName) : Except NameFault Unit := do
  if (← anyInside name none nc.permitted) = some false then throw .permitted
  noneInside name nc.excluded

def mailAddresses (n : Name) : List Attribute :=
  n.groups.flatten.filter fun a => a.kind == [1, 2, 840, 113549, 1, 9, 1]

/-- Whether a common name has the form of a host name with at least two labels. -/
def looksLikeHost (cs : List Char) : Bool :=
  let parts := (Host.labels cs)
  2 ≤ parts.length && parts.all fun label =>
    !label.isEmpty && label.head? != some '-' && label.getLast? != some '-' &&
      label.all fun c =>
        ('a' ≤ c && c ≤ 'z') || ('A' ≤ c && c ≤ 'Z') || ('0' ≤ c && c ≤ '9') || c == '_' || c == '-'

/-- The host names that stand for a holder without alternative host names: its common names. -/
def commonHosts (n : Name) : Except NameFault (List Bytes) :=
  (n.groups.flatten.filter (·.kind == Name.commonNameOid)).foldr
    (fun a rest => do
      let cs := ((Name.characters? a.valueTag.number a.value).getD []).reverse.dropWhile
        (· == '\x00')
      let cs := cs.reverse
      if cs.contains '\x00' then throw .form
      let more ← rest
      return if looksLikeHost cs then Bytes.ofString (String.ofList cs) :: more else more)
    (.ok [])

/-- Whether the names of a certificate are acceptable; for the last one of a path, `isLeaf`, its
common names count if it has no alternative host names. -/
def check (nc : NameConstraints) (isLeaf : Bool) (c : Certificate) : Except NameFault Unit := do
  let alt := (c.altNames?.getD none).getD []
  unless c.subject.groups.isEmpty do
    nc.checkName (.directory c.subject)
    for a in mailAddresses c.subject do
      if a.valueTag.number ≠ 22 then throw .form
      nc.checkName (.other 1 a.value)
  for name in alt do
    nc.checkName name
  if isLeaf && !alt.any fun n => n matches .dns _ then
    for host in (← commonHosts c.subject) do
      nc.checkName (.dns host)

end NameConstraints

end TlsSetup.X509
