import TlsSetup.Text.Ascii
import TlsSetup.Text.Pieces

/-!
# Host names

When a pattern from a certificate covers a host. ASCII case and dots at the end do not count, and a
first label `*` stands for any one label that is not empty. `covers` cuts the text at its first dot;
`labelsCover` says the same of the lists of labels.
-/

namespace TlsSetup.Host

open Text

/-- The characters that are compared. -/
def canonical (s : String) : List Char :=
  ((lowerAscii s).toList.reverse.dropWhile (· == '.')).reverse

/-- What stands before and after the first dot. -/
def cutAtDot : List Char → Option (List Char × List Char)
  | [] => none
  | c :: cs =>
    if c = '.' then some ([], cs) else (cutAtDot cs).map fun (label, rest) => (c :: label, rest)

def covers (pattern host : String) : Bool :=
  match canonical pattern with
  | '*' :: '.' :: tail =>
    match cutAtDot (canonical host) with
    | some (label, rest) => !label.isEmpty && rest == tail
    | none => false
  | whole => whole == canonical host

def labels (name : List Char) : List (List Char) := pieces '.' name

def labelsCover (pattern host : List (List Char)) : Bool :=
  match pattern with
  | ['*'] :: first :: more =>
    match host with
    | label :: rest => !label.isEmpty && rest == first :: more
    | [] => false
  | whole => host == whole

end TlsSetup.Host
