import TlsSetup.Text.Ascii
import TlsSetup.Text.Pieces

/-!
# Names of servers

A client asks for a server by a host name or by an address of four numbers. Only host names travel.
-/

namespace TlsSetup

/-- The name by which a client asks for a server: a host name, or an address, which is not sent. -/
inductive ServerName where
  | host (name : String)
  | address (text : String)
  deriving Repr, DecidableEq

namespace ServerName

/-- A label of letters, digits, underscores and inner hyphens. -/
def isLabel (cs : List Char) : Bool :=
  !cs.isEmpty && cs.length ≤ 63 && cs.head? != some '-' && cs.getLast? != some '-' &&
    cs.all fun c =>
      ('a' ≤ c && c ≤ 'z') || ('A' ≤ c && c ≤ 'Z') || ('0' ≤ c && c ≤ '9') || c == '-' || c == '_'

def isDigits (cs : List Char) : Bool := cs.all fun c => '0' ≤ c && c ≤ '9'

def labels (s : String) : List (List Char) :=
  let pieces := Text.pieces '.' s.toList
  if pieces.getLast? = some [] then pieces.dropLast else pieces

/-- A host name has at most 253 bytes, and its last label is not a number. -/
def isHost (s : String) : Bool :=
  s.utf8ByteSize ≤ 253 && !(labels s).isEmpty && (labels s).all isLabel &&
    (labels s).getLast?.all fun last => !isDigits last

def isOctet (cs : List Char) : Bool :=
  isDigits cs && 1 ≤ cs.length && cs.length ≤ 3 && (cs.length == 1 || cs.head? != some '0') &&
    ((String.ofList cs).toNat?.any fun n => n ≤ 255)

def isAddress (s : String) : Bool :=
  let pieces := Text.pieces '.' s.toList
  pieces.length == 4 && pieces.all isOctet

def ofString? (s : String) : Option ServerName :=
  if isHost s then some (.host s) else if isAddress s then some (.address s) else none

/-- What a server reads of the name: small letters, and no dot at the end. -/
def sent : ServerName → Option String
  | .host name => some (Text.lowerAscii (".".intercalate ((labels name).map String.ofList)))
  | .address _ => none

end ServerName

end TlsSetup
