import TlsSetup.Text.Invisible

/-!
# Descriptions of values

How a value is shown to a person: texts in quotes with escapes, lists in brackets, records as a
name with its fields in braces.
-/

namespace TlsSetup.Text

/-- A code point by number, as `\u` and small hexadecimal digits in braces. -/
def byNumber (c : Char) : List Char :=
  ['\\', 'u', '\x7b'] ++ Nat.toDigits 16 c.toNat ++ ['\x7d']

/-- A character as it stands between quotes. A character whose quote is not the surrounding one
needs no escape, which `escapeSingle` says of the single quote. -/
def escape (escapeSingle : Bool) (c : Char) : List Char :=
  if c = '\x00' then ['\\', '0']
  else if c = '\t' then ['\\', 't']
  else if c = '\r' then ['\\', 'r']
  else if c = '\n' then ['\\', 'n']
  else if c = '\\' ∨ c = '"' ∨ (escapeSingle ∧ c = '\'') then ['\\', c]
  else if isInvisible c then byNumber c
  else [c]

def quoted (s : String) : String :=
  "\"" ++ String.ofList (s.toList.flatMap (escape false)) ++ "\""

/-- A file name in double quotes; single quotes are escaped too. -/
def quotedPath (s : String) : String :=
  "\"" ++ String.ofList (s.toList.flatMap (escape true)) ++ "\""

def bracketed (items : List String) : String := "[" ++ ", ".intercalate items ++ "]"

/-- A record: its name and its fields in order. -/
def record (name : String) (fields : List (String × String)) : String :=
  name ++ " \x7b " ++ ", ".intercalate (fields.map fun (k, v) => k ++ ": " ++ v) ++ " \x7d"

def optional : Option String → String
  | none => "None"
  | some s => "Some(" ++ s ++ ")"

def truth (b : Bool) : String := if b then "true" else "false"

end TlsSetup.Text
