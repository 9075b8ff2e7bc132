import TlsSetup.Bytes

/-!
# Documents

A document is read from text in one pass. A fault does not discard what was read before it: a value
that could not be read to its end carries the fault, so that whoever walks through the document meets
it where it stands.
-/

namespace TlsSetup

namespace Json

inductive Fault where
  | endInValue
  | endInString
  | endInList
  | endInObject
  | expectedIdent
  | expectedValue
  | expectedColon
  | expectedListEnd
  | expectedObjectEnd
  | keyNotString
  | trailingComma
  | trailingCharacters
  | invalidNumber
  | numberOutOfRange
  | invalidEscape
  | controlCharacter
  | loneSurrogate
  | endOfHexEscape
  | tooDeep
  deriving Repr, DecidableEq

def Fault.message : Fault → String
  | .endInValue => "EOF while parsing a value"
  | .endInString => "EOF while parsing a string"
  | .endInList => "EOF while parsing a list"
  | .endInObject => "EOF while parsing an object"
  | .expectedIdent => "expected ident"
  | .expectedValue => "expected value"
  | .expectedColon => "expected `:`"
  | .expectedListEnd => "expected `,` or `]`"
  | .expectedObjectEnd => "expected `,` or `\x7d`"
  | .keyNotString => "key must be a string"
  | .trailingComma => "trailing comma"
  | .trailingCharacters => "trailing characters"
  | .invalidNumber => "invalid number"
  | .numberOutOfRange => "number out of range"
  | .invalidEscape => "invalid escape"
  | .controlCharacter =>
    "control character (\\u0000-\\u001F) found while parsing a string"
  | .loneSurrogate => "lone leading surrogate in hex escape"
  | .endOfHexEscape => "unexpected end of hex escape"
  | .tooDeep => "recursion limit exceeded"

end Json

/-- A document, as far as it could be read. A list or object with a fault ends where the fault is; of
a broken value the first character is known, if it has one. -/
inductive Json where
  | null
  | bool (b : Bool)
  | integer (n : Int)
  | float (bits : UInt64)
  | text (s : String)
  | array (items : List Json) (fault : Option Json.Fault)
  | object (entries : List (String × Json)) (fault : Option Json.Fault)
  | broken (opening : Option Char) (fault : Json.Fault)

namespace Json

def fault? : Json → Option Fault
  | .array _ f | .object _ f => f
  | .broken _ f => some f
  | _ => none

def isBlank (c : Char) : Bool := c == ' ' || c == '\n' || c == '\t' || c == '\r'

def skipBlanks (cs : List Char) : List Char := cs.dropWhile isBlank

/-- A value, and what follows it unless it is broken. -/
abbrev Reading := Json × Option (List Char)

/-- A name of a constant, after its first letter. -/
def readWord (opening : Char) (word : List Char) (value : Json) (cs : List Char) : Reading :=
  if word.isPrefixOf cs then (value, some (cs.drop word.length))
  else if cs.isPrefixOf word then (.broken (some opening) .endInValue, none)
  else (.broken (some opening) .expectedIdent, none)

def digitValue (c : Char) : Nat := c.toNat - 48

/-- Adds a digit to a number that must stay below `2 ^ 64`. -/
def pushDigit? (n : Nat) (c : Char) : Option Nat :=
  let n := n * 10 + digitValue c
  if n < 2 ^ 64 then some n else none

/-- The number in front of the point, as many of its digits as fit, and how many do not. -/
def takeDigits (n dropped : Nat) : List Char → Nat × Nat
  | [] => (n, dropped)
  | c :: cs =>
    if dropped = 0 then
      match pushDigit? n c with
      | some n => takeDigits n 0 cs
      | none => takeDigits n 1 cs
    else takeDigits n (dropped + 1) cs

/-- Adds the digits after the point as long as they fit, and counts them. -/
def takeFraction (n taken : Nat) : List Char → Nat × Nat
  | [] => (n, taken)
  | c :: cs =>
    match pushDigit? n c with
    | some n => takeFraction n (taken + 1) cs
    | none => (n, taken)

/-- `n * 10 ^ e` in binary, dividing by large powers in steps; none if it is too large. -/
def scale? (n : Nat) (e : Int) (fuel : Nat) (f : Float) : Option Float :=
  match fuel with
  | 0 => some f
  | fuel + 1 =>
    if e.natAbs ≤ 308 then
      let power := Float.ofScientific 1 false e.natAbs
      if 0 ≤ e then (if (f * power).isInf then none else some (f * power)) else some (f / power)
    else if f == 0.0 then some f
    else if 0 ≤ e then none
    else scale? n (e + 308) fuel (f / Float.ofScientific 1 false 308)

def numberOpening (negative : Bool) : Char := if negative then '-' else '0'

def floatValue (negative : Bool) (n : Nat) (e : Int) : Json :=
  match scale? n e 8 (Float.ofNat n) with
  | none => .broken (some (numberOpening negative)) .numberOutOfRange
  | some f => .float (if negative then -f else f).toBits

def isDigit (c : Char) : Bool := '0' ≤ c && c ≤ '9'

/-- A broken number: the text ends or goes on in a wrong way. -/
def brokenNumber (negative : Bool) (cs : List Char) : Reading :=
  (.broken (some (numberOpening negative)) (if cs.isEmpty then .endInValue else .invalidNumber), none)

def readExponent (negative : Bool) (n : Nat) (e : Int) (cs : List Char) : Reading :=
  let (minus, cs) := match cs with
    | '-' :: rest => (true, rest)
    | '+' :: rest => (false, rest)
    | _ => (false, cs)
  let digits := cs.takeWhile isDigit
  let rest := cs.dropWhile isDigit
  if digits.isEmpty then brokenNumber negative rest
  else
    let x := digits.foldl (fun x c => min (x * 10 + digitValue c) (2 ^ 31)) 0
    let value :=
      if 2 ^ 31 ≤ x then
        if n ≠ 0 ∧ minus = false then .broken (some (numberOpening negative)) .numberOutOfRange
        else .float (if negative then (-0.0 : Float) else 0.0).toBits
      else floatValue negative n (if minus then e - Int.ofNat x else e + Int.ofNat x)
    (value, if value.fault?.isSome then none else some rest)

/-- What follows the digits before the point. -/
def readTail (negative : Bool) (n dropped : Nat) (cs : List Char) : Reading :=
  let finish (value : Json) (rest : List Char) : Reading :=
    (value, if value.fault?.isSome then none else some rest)
  match cs with
  | '.' :: rest =>
    let digits := rest.takeWhile isDigit
    let rest := rest.dropWhile isDigit
    if digits.isEmpty then brokenNumber negative rest
    else
      let (n, taken) := takeFraction n 0 digits
      let e := Int.ofNat dropped - Int.ofNat taken
      match rest with
      | c :: more =>
        if c = 'e' ∨ c = 'E' then readExponent negative n e more
        else finish (floatValue negative n e) rest
      | [] => finish (floatValue negative n e) rest
  | c :: rest =>
    if c = 'e' ∨ c = 'E' then readExponent negative n (Int.ofNat dropped) rest
    else finish (whole negative n dropped) cs
  | [] => finish (whole negative n dropped) cs
where
  /-- A number without fraction and exponent. -/
  whole (negative : Bool) (n dropped : Nat) : Json :=
    if dropped = 0 ∧ negative = false then .integer (Int.ofNat n)
    else if dropped = 0 ∧ 0 < n ∧ n ≤ 2 ^ 63 then .integer (-Int.ofNat n)
    else floatValue negative n (Int.ofNat dropped)

def readNumber (negative : Bool) (cs : List Char) : Reading :=
  let digits := cs.takeWhile isDigit
  let rest := cs.dropWhile isDigit
  match digits with
  | [] => brokenNumber negative rest
  | '0' :: _ :: _ => (.broken (some (numberOpening negative)) .invalidNumber, none)
  | _ =>
    let (n, dropped) := takeDigits 0 0 digits
    readTail negative n dropped rest

/-- Four hexadecimal digits; the text ends in the string if fewer than four bytes are left. -/
def hex4? (cs : List Char) : Except Fault (Nat × List Char) :=
  let digits := cs.take 4
  if (String.ofList digits).utf8ByteSize < 4 then .error .endInString
  else
    match digits.length, digits.mapM Bytes.hexValue? with
    | 4, some ds => .ok (ds.foldl (fun n d => n * 16 + d) 0, cs.drop 4)
    | _, _ => .error .invalidEscape

/-- A character that is written by its number, after the `u`. -/
def readUnicode (cs : List Char) : Except Fault (Char × List Char) := do
  let (n, cs) ← hex4? cs
  if 0xDC00 ≤ n ∧ n ≤ 0xDFFF then throw .loneSurrogate
  else if 0xD800 ≤ n ∧ n ≤ 0xDBFF then
    match cs with
    | '\\' :: 'u' :: rest =>
      let (m, rest) ← hex4? rest
      if 0xDC00 ≤ m ∧ m ≤ 0xDFFF then
        return (Char.ofNat (0x10000 + (n - 0xD800) * 1024 + (m - 0xDC00)), rest)
      else throw .loneSurrogate
    | [] | ['\\'] => throw .endInString
    | _ => throw .endOfHexEscape
  else return (Char.ofNat n, cs)

def escape? (c : Char) : Option Char :=
  if c = '"' ∨ c = '\\' ∨ c = '/' then some c
  else if c = 'b' then some '\x08'
  else if c = 'f' then some '\x0c'
  else if c = 'n' then some '\n'
  else if c = 'r' then some '\r'
  else if c = 't' then some '\t'
  else none

/-- A text after its opening quote; `acc` holds what has been read, last character first. -/
def readText (fuel : Nat) (acc : List Char) (cs : List Char) : Except Fault (String × List Char) :=
  match fuel with
  | 0 => .error .endInString
  | fuel + 1 =>
    match cs with
    | [] => .error .endInString
    | '"' :: rest => .ok (String.ofList acc.reverse, rest)
    | '\\' :: 'u' :: rest => do
      let (c, rest) ← readUnicode rest
      readText fuel (c :: acc) rest
    | '\\' :: c :: rest =>
      match escape? c with
      | some c => readText fuel (c :: acc) rest
      | none => .error .invalidEscape
    | ['\\'] => .error .endInString
    | c :: rest =>
      if c.toNat < 32 then .error .controlCharacter else readText fuel (c :: acc) rest

mutual

/-- A value; `depth` bounds how deeply values may be nested. -/
def readValue (fuel depth : Nat) (cs : List Char) : Reading :=
  match fuel with
  | 0 => (.broken none .endInValue, none)
  | fuel + 1 =>
    match skipBlanks cs with
    | [] => (.broken none .endInValue, none)
    | 'n' :: rest => readWord 'n' ['u', 'l', 'l'] .null rest
    | 't' :: rest => readWord 't' ['r', 'u', 'e'] (.bool true) rest
    | 'f' :: rest => readWord 'f' ['a', 'l', 's', 'e'] (.bool false) rest
    | '-' :: rest => readNumber true rest
    | '"' :: rest =>
      match readText (rest.length + 1) [] rest with
      | .ok (s, rest) => (.text s, some rest)
      | .error f => (.broken (some '"') f, none)
    | '[' :: rest =>
      match depth with
      | 0 => (.broken (some '[') .tooDeep, none)
      | depth + 1 =>
        let (items, fault, rest) := readItems fuel depth true [] rest
        (.array items fault, rest)
    | '\x7b' :: rest =>
      match depth with
      | 0 => (.broken (some '\x7b') .tooDeep, none)
      | depth + 1 =>
        let (entries, fault, rest) := readEntries fuel depth true [] rest
        (.object entries fault, rest)
    | c :: rest =>
      if isDigit c then readNumber false (c :: rest) else (.broken (some c) .expectedValue, none)

def readItems (fuel depth : Nat) (first : Bool) (acc : List Json) (cs : List Char) :
    List Json × Option Fault × Option (List Char) :=
  match fuel with
  | 0 => (acc.reverse, some .endInList, none)
  | fuel + 1 =>
    let item (cs : List Char) : List Json × Option Fault × Option (List Char) :=
      match readValue fuel depth cs with
      | (value, some rest) => readItems fuel depth false (value :: acc) rest
      | (value, none) => ((value :: acc).reverse, value.fault?, none)
    match skipBlanks cs with
    | [] => (acc.reverse, some .endInList, none)
    | ']' :: rest => (acc.reverse, none, some rest)
    | c :: rest =>
      if first then item (c :: rest)
      else if c = ',' then
        match skipBlanks rest with
        | [] => (acc.reverse, some .endInValue, none)
        | ']' :: _ => (acc.reverse, some .trailingComma, none)
        | rest => item rest
      else (acc.reverse, some .expectedListEnd, none)

def readEntries (fuel depth : Nat) (first : Bool) (acc : List (String × Json)) (cs : List Char) :
    List (String × Json) × Option Fault × Option (List Char) :=
  match fuel with
  | 0 => (acc.reverse, some .endInObject, none)
  | fuel + 1 =>
    let stop (f : Fault) : List (String × Json) × Option Fault × Option (List Char) :=
      (acc.reverse, some f, none)
    let entry (cs : List Char) : List (String × Json) × Option Fault × Option (List Char) :=
      match cs with
      | [] => stop .endInValue
      | '\x7d' :: _ => stop .trailingComma
      | '"' :: rest =>
        match readText (rest.length + 1) [] rest with
        | .error f => stop f
        | .ok (key, rest) =>
          match skipBlanks rest with
          | [] => ((key, .broken none .endInObject) :: acc |>.reverse, some .endInObject, none)
          | ':' :: rest =>
            match readValue fuel depth rest with
            | (value, some rest) => readEntries fuel depth false ((key, value) :: acc) rest
            | (value, none) => (((key, value) :: acc).reverse, value.fault?, none)
          | _ => ((key, .broken none .expectedColon) :: acc |>.reverse, some .expectedColon, none)
      | _ => stop .keyNotString
    match skipBlanks cs with
    | [] => stop .endInObject
    | '\x7d' :: rest => (acc.reverse, none, some rest)
    | c :: rest =>
      if first then entry (c :: rest)
      else if c = ',' then entry (skipBlanks rest)
      else stop .expectedObjectEnd

end

def depthLimit : Nat := 127

/-- The document at the front of a text, and the fault that follows it if it is complete and is not
all of the text. -/
def read (s : String) : Json × Option Fault :=
  let cs := s.toList
  match readValue (2 * cs.length + 2) depthLimit cs with
  | (value, none) => (value, value.fault?)
  | (value, some rest) =>
    (value, if (skipBlanks rest).isEmpty then none else some .trailingCharacters)

end Json

end TlsSetup
