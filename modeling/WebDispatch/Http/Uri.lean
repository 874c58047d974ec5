import WebDispatch.Text.Split
import WebDispatch.Text.Utf8

/-!
# Request targets

The target of a request: a path with an optional query, or an absolute address. A fragment is
dropped. A target is refused for the first of the causes in `TargetError`.

* `Target.parse?` — reads a target;
* `Target.path`, `Target.query`, `Target.text` — its parts and its text.
-/

namespace WebDispatch.Http

open WebDispatch.Text (Bytes)

inductive TargetError where
  | empty
  | tooLong
  | badCharacter
  | badAuthority
  | badFormat
  | longScheme
deriving DecidableEq, Repr

def TargetError.message : TargetError → String
  | .empty => "empty string"
  | .tooLong => "uri too long"
  | .badCharacter => "invalid uri character"
  | .badAuthority => "invalid authority"
  | .badFormat => "invalid format"
  | .longScheme => "scheme too long"

structure Target where
  scheme : Option String := none
  authority : Option String := none
  /-- The path as written; empty only next to an authority. -/
  rawPath : String := ""
  query : Option String := none
deriving DecidableEq, Repr, Inhabited

namespace Target

def slash : Target := { rawPath := "/" }

/-- The path; it is empty only where there is nothing but an authority. -/
def path (t : Target) : String :=
  if t.rawPath = "" && (t.scheme.isSome || t.query.isSome) then "/" else t.rawPath

def text (t : Target) : String :=
  (match t.scheme with | some s => s ++ "://" | none => "")
    ++ t.authority.getD ""
    ++ t.path
    ++ (match t.query with | some q => "?" ++ q | none => "")

/-- Characters of an address that need no escape, and the percent sign apart. -/
def isAddressByte (b : UInt8) : Bool :=
  let c := Char.ofNat b.toNat
  b.toNat < 0x80 && (c.isAlphanum || "!#$&'()*+,-./:;=?@[]_~".toList.contains c)

def isSchemeByte (b : UInt8) : Bool :=
  let c := Char.ofNat b.toNat
  b.toNat < 0x80 && (c.isAlphanum || c = '+' || c = '-' || c = '.' || c = '~')

def isPathByte (b : UInt8) : Bool :=
  let n := b.toNat
  n = 0x21 || n = 0x22 || (0x24 ≤ n && n ≤ 0x3B) || n = 0x3D || (0x40 ≤ n && n ≤ 0x5F)
    || (0x61 ≤ n && n ≤ 0x7E) || 0x7F ≤ n

def isQueryByte (b : UInt8) : Bool :=
  let n := b.toNat
  n = 0x21 || (0x24 ≤ n && n ≤ 0x3B) || n = 0x3D || 0x3F ≤ n

def isByte (c : Char) (b : UInt8) : Bool := b.toNat = c.toNat

/-- Reads a path and a query up to a fragment. -/
def parsePath? (bytes : Bytes) : Except TargetError (String × Option String) :=
  let stops (b : UInt8) : Bool := isByte '?' b || isByte '#' b
  let path := bytes.takeWhile fun b => !stops b
  let rest := bytes.dropWhile fun b => !stops b
  if !path.all isPathByte then .error .badCharacter
  else
    match rest with
    | [] => .ok (Text.decodeLossy path, none)
    | mark :: more =>
      if isByte '#' mark then .ok (Text.decodeLossy path, none)
      else
        let query := more.takeWhile fun b => !isByte '#' b
        if query.all isQueryByte then .ok (Text.decodeLossy path, some (Text.decodeLossy query))
        else .error .badCharacter

def schemeLength? (bytes : Bytes) : Except TargetError (Option Nat) :=
  let name := bytes.takeWhile isSchemeByte
  match bytes.drop name.length with
  | a :: b :: c :: _ =>
    if isByte ':' a && isByte '/' b && isByte '/' c && 3 < bytes.length then
      if 64 < name.length then .error .longScheme else .ok (some name.length)
    else .ok none
  | _ => .ok none

structure AuthorityScan where
  colons : Nat := 0
  opened : Bool := false
  closed : Bool := false
  percent : Bool := false
  /-- Whether the last byte read is an `@`. -/
  endsInAt : Bool := false

def AuthorityScan.step (s : AuthorityScan) (b : UInt8) : Except TargetError AuthorityScan :=
  let s := { s with endsInAt := false }
  if isByte ':' b then
    if 8 ≤ s.colons then .error .badAuthority else .ok { s with colons := s.colons + 1 }
  else if isByte '[' b then
    if s.percent || s.opened then .error .badAuthority else .ok { s with opened := true }
  else if isByte ']' b then
    if !s.opened || s.closed then .error .badAuthority
    else .ok { s with closed := true, colons := 0, percent := false }
  else if isByte '@' b then .ok { s with endsInAt := true, colons := 0, percent := false }
  else if isByte '%' b then .ok { s with percent := true }
  else if isAddressByte b then .ok s
  else .error .badCharacter

/-- Splits an authority off, up to a slash, a question mark or a number sign. -/
def splitAuthority (bytes : Bytes) : Except TargetError (Bytes × Bytes) := do
  let stops (b : UInt8) : Bool := isByte '/' b || isByte '?' b || isByte '#' b
  if bytes.isEmpty then throw .empty
  let name := bytes.takeWhile fun b => !stops b
  let s ← name.foldlM AuthorityScan.step {}
  if s.opened != s.closed || 1 < s.colons || s.endsInAt || s.percent then
    throw .badAuthority
  else return (name, bytes.drop name.length)

def schemeText (name : Bytes) : String :=
  let text := Text.decodeLossy name
  let lower := Text.asciiLower text
  if lower = "http" || lower = "https" then lower else text

/-- Reads a target that does not begin with a slash. -/
def parseAddress (bytes : Bytes) : Except TargetError Target := do
  match ← schemeLength? bytes with
  | none =>
    let (name, rest) ← splitAuthority bytes
    if rest.isEmpty then return { authority := some (Text.decodeLossy name) }
    else throw .badFormat
  | some n =>
    let (name, rest) ← splitAuthority (bytes.drop (n + 3))
    if name.isEmpty then throw .badFormat
    else
      let (path, query) ← parsePath? rest
      return { scheme := some (schemeText (bytes.take n))
               authority := some (Text.decodeLossy name), rawPath := path, query := query }

def parse? (s : String) : Except TargetError Target :=
  let bytes := Text.encode s
  if 65534 < bytes.length then .error .tooLong
  else
    match bytes with
    | [] => .error .empty
    | [b] =>
      if isByte '/' b then .ok slash
      else if isByte '*' b then .ok { rawPath := "*" }
      else
        match splitAuthority [b] with
        | .error e => .error e
        | .ok (_, []) => .ok { authority := some s }
        | .ok _ => .error .badCharacter
    | b :: _ =>
      if isByte '/' b then
        match parsePath? bytes with
        | .ok (path, query) => .ok { rawPath := path, query := query }
        | .error e => .error e
      else parseAddress bytes

end Target

end WebDispatch.Http
