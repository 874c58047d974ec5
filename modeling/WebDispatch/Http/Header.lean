import WebDispatch.Text.Split

/-!
# Header fields

Names are compared in lower case and may occur several times. A value is text without control
characters; one with characters beyond ASCII is kept but cannot be read as text.

* `Headers.append`, `Headers.set`, `Headers.remove` — changes;
* `Headers.get?`, `Headers.text?` — the first value of a name, and as readable text.
-/

namespace WebDispatch.Http

inductive HeaderError where
  | badName
  | badValue
deriving DecidableEq, Repr

def HeaderError.message : HeaderError → String
  | .badName => "invalid HTTP header name"
  | .badValue => "failed to parse header value"

def isTokenChar (c : Char) : Bool :=
  c.toNat < 0x80 && (c.isAlphanum || "!#$%&'*+-.^_|~".toList.contains c || c.toNat = 0x60)

def isToken (s : String) : Bool := s ≠ "" && s.toList.all isTokenChar

/-- Control characters may not stand in a value, the tabulator excepted. -/
def isHeaderValue (s : String) : Bool :=
  s.toList.all fun c => c = '\t' || (0x20 ≤ c.toNat && c.toNat ≠ 0x7F)

/-- Whether a value consists of visible ASCII characters, spaces and tabulators. -/
def isReadable (s : String) : Bool :=
  s.toList.all fun c => c = '\t' || (0x20 ≤ c.toNat && c.toNat < 0x7F)

/-- Header fields in the order in which they were added, names in lower case. -/
abbrev Headers := List (String × String)

/-- A header name in the form in which it is compared. -/
def headerName? (name : String) : Option String :=
  if isToken name && name.length < 65536 then some (Text.asciiLower name) else none

namespace Headers

/-- Adds a field behind those present. -/
def append (h : Headers) (name value : String) : Except HeaderError Headers :=
  match headerName? name with
  | none => .error .badName
  | some n => if isHeaderValue value then .ok (h ++ [(n, value)]) else .error .badValue

def replace (name value : String) : Headers → Headers
  | [] => [(name, value)]
  | f :: rest =>
    if f.1 = name then (name, value) :: rest.filter (fun g => g.1 ≠ name)
    else f :: replace name value rest

def set (h : Headers) (name value : String) : Headers :=
  if isHeaderValue value then replace name value h else h

/-- Sets a field by its name as written; what is no name is ignored. -/
def setField (h : Headers) (name value : String) : Headers :=
  (headerName? name).elim h fun n => h.set n value

def remove (h : Headers) (name : String) : Headers := h.filter fun f => f.1 ≠ name

def get? (h : Headers) (name : String) : Option String :=
  (h.find? fun f => f.1 = Text.asciiLower name).map (·.2)

def text? (h : Headers) (name : String) : Option String := (get? h name).filter isReadable

end Headers

end WebDispatch.Http
