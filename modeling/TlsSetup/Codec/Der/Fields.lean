import TlsSetup.Codec.Der.Value

/-!
# Fields of tagged encodings

Readers for elements that contain others. A record is a sequence whose fields are read in order, to the
last of them; a list holds any number of elements of one kind. A field may be optional, and it may be
wrapped in an element with a tag of its own.
-/

namespace TlsSetup.Der

/-- A reader that takes the elements of a record one after the other. -/
abbrev Fields (α : Type) := StateT (List Element) Option α

namespace Fields

def any : Fields Element := do
  match ← get with
  | e :: rest => set rest; return e
  | [] => failure

def takeIf (p : Element → Bool) : Fields (Option Element) := do
  match ← get with
  | e :: rest => if p e then set rest; return some e else return none
  | [] => return none

def optional (tag : Tag) : Fields (Option Element) := takeIf fun e => e.tag == tag

def reading {α : Type} (f : Element → Option α) : Fields α := do f (← any)

/-- The next element if it has this tag: `f` must be able to read it. -/
def readingIf {α : Type} (tag : Tag) (f : Element → Option α) : Fields (Option α) := do
  match ← optional tag with
  | none => return none
  | some e => return some (← f e)

/-- The next element, if there is one, with a value whose type is left open. -/
def open? : Fields (Option Element) := do
  match ← takeIf fun _ => true with
  | none => return none
  | some e => if e.isValue then return some e else failure

end Fields

/-- Reads the elements that make up `bs` as fields, all of them. -/
def fields? {α : Type} (bs : Bytes) (f : Fields α) : Option α := do
  let (a, rest) ← f.run (← readAll? .basic bs)
  if rest.isEmpty then some a else none

namespace Element

/-- Reads a record that contains exactly the fields `f`, whatever its tag. -/
def fields? {α : Type} (e : Element) (f : Fields α) : Option α :=
  if e.constructed then Der.fields? e.content f else none

def record? {α : Type} (e : Element) (f : Fields α) : Option α := do
  (← e.tagged? .sequence).fields? f

def items? {α : Type} (e : Element) (f : Element → Option α) : Option (List α) := do
  (← readAll? .basic e.content).mapM f

def list? {α : Type} (e : Element) (f : Element → Option α) : Option (List α) := do
  (← e.tagged? .sequence).items? f

def set? {α : Type} (e : Element) (f : Element → Option α) : Option (List α) := do
  (← e.tagged? .set).items? f

/-- Reads the only element inside another one. -/
def inside? {α : Type} (e : Element) (f : Element → Option α) : Option α :=
  e.fields? (Fields.reading f)

/-- An element with a value whose type is left open. -/
def open? (e : Element) : Option Element := if e.isValue then some e else none

end Element

namespace Fields

/-- The next element if it has the context specific tag `n`: it must wrap exactly one element, which
`f` reads. -/
def wrapped {α : Type} (n : Nat) (f : Element → Option α) : Fields (Option α) :=
  readingIf (.context n) (·.inside? f)

/-- As `wrapped`, for a field that must be there. -/
def wrapping {α : Type} (n : Nat) (f : Element → Option α) : Fields α := do
  match ← wrapped n f with
  | some a => return a
  | none => failure

end Fields

/-- What `f` reads of the element at the front of `bs`; the bytes after it do not count. -/
def first? {α : Type} (bs : Bytes) (f : Element → Option α) : Option α := do
  f (← read? .basic bs).1

def record? {α : Type} (bs : Bytes) (f : Fields α) : Option α := first? bs (·.record? f)

def list? {α : Type} (bs : Bytes) (f : Element → Option α) : Option (List α) :=
  first? bs (·.list? f)

end TlsSetup.Der
