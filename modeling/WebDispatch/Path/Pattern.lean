import WebDispatch.Error
import WebDispatch.Path.MatchDict
import WebDispatch.Path.Segments
import WebDispatch.Regex.Reader
import WebDispatch.Text.Percent

/-!
# Route patterns

A pattern is literal text with fields between braces, `{name}` or `{name:expression}`, and may end
in `*name`, which captures the rest of a path as segments. A field without an expression stands
for one or more characters other than a slash. A pattern begins with a slash, which need not be
written. It is matched by the expression that the whole of it stands for (`expressionText`), which
prefers the longest text for a field without an expression, the first field first.

* `Pattern.compile` — reads a pattern;
* `Pattern.match?` — the values that a path gives to the names, if it matches;
* `Pattern.generate` — the path that values give, every value escaped where it must be.
-/

namespace WebDispatch

inductive PatternPart where
  | literal (text : String)
  | field (name : String) (expression : Option String)
deriving DecidableEq, Repr, Inhabited

structure Pattern where
  /-- The pattern as written. -/
  source : String
  parts : List PatternPart
  /-- The name that captures the rest of a path. -/
  remainder : Option String
  /-- What paths are matched by. -/
  expression : Regex
deriving Repr, Inhabited

namespace Pattern

/-- A character of a pattern, or a field by what stands between its braces. -/
inductive Token where
  | char (c : Char)
  | field (inner : List Char)
deriving Repr

/-- What stands between the braces of a field, the opening one passed: one pair of braces may
stand inside another, but no deeper. -/
def fieldBody? (nested : Bool) : List Char → Option (List Char)
  | [] => none
  | c :: rest =>
    if c = '}' then
      if nested then (fieldBody? false rest).map (c :: ·) else some []
    else if c = '{' then
      if nested then none else (fieldBody? true rest).map (c :: ·)
    else (fieldBody? nested rest).map (c :: ·)

/-- What stands between the braces of a field that begins behind an opening brace: it begins with
an ASCII letter or an underscore. -/
def fieldAt? : List Char → Option (List Char)
  | c :: rest => if c = '_' || c.isAlpha then fieldBody? false (c :: rest) else none
  | [] => none

/-- The characters and fields of a pattern; the first `skip` characters belong to a field. -/
def tokens : Nat → List Char → List Token
  | _, [] => []
  | skip + 1, _ :: rest => tokens skip rest
  | 0, c :: rest =>
    if c = '{' then
      match fieldAt? rest with
      | some inner => .field inner :: tokens (inner.length + 1) rest
      | none => .char c :: tokens 0 rest
    else .char c :: tokens 0 rest

/-- A field by what stands between its braces. -/
def partOf (inner : List Char) : PatternPart :=
  match Text.cutChars? ':' inner with
  | some (name, expression) => .field (String.ofList name) (some (String.ofList expression))
  | none => .field (String.ofList inner) none

def literalPart (chars : List Char) : List PatternPart :=
  if chars.isEmpty then [] else [.literal (String.ofList chars.reverse)]

/-- The parts of a pattern, `chars` being the literal characters read so far, last first. -/
def gather (chars : List Char) : List Token → List PatternPart
  | [] => literalPart chars
  | .char c :: rest => gather (c :: chars) rest
  | .field inner :: rest => literalPart chars ++ partOf inner :: gather [] rest

/-- What precedes a star at the end of a pattern and the name behind it. The name may be empty. -/
def splitStar (cs : List Char) : List Char × Option (List Char) :=
  let name := cs.reverse.takeWhile (· ≠ '*')
  if name.length < cs.length && name.all Text.isWordChar then
    (cs.take (cs.length - name.length - 1), some name.reverse)
  else (cs, none)

def withSlash (cs : List Char) : List Char :=
  match cs with
  | '/' :: _ => cs
  | _ => '/' :: cs

def partText : PatternPart → List Char
  | .literal text => Regex.escapeLiteral text.toList
  | .field name expression =>
    "(?P<".toList ++ name.toList ++ ['>'] ++ (expression.getD "[^/]+").toList ++ [')']

def expressionText (parts : List PatternPart) (remainder : Option String) : List Char :=
  ['^'] ++ parts.flatMap partText
    ++ (match remainder with
      | some name => "(?P<".toList ++ name.toList ++ ">.*?)".toList
      | none => [])
    ++ ['$']

def compile (source : String) : Except Error Pattern :=
  let (body, star) := splitStar source.toList
  let remainder := (star.filter (!·.isEmpty)).map String.ofList
  let parts := gather [] (tokens 0 (withSlash body))
  match Regex.parseChars? (expressionText parts remainder) with
  | some r => .ok ⟨source, parts, remainder, r⟩
  | none =>
    .error (.configuration ("invalid route pattern " ++ Text.quoted source ++ ": <regex>"))

def captures? (p : Pattern) (path : String) : Option (List (String × String)) :=
  (p.expression.search? path).map fun place =>
    p.expression.groupNames.map fun (index, name) => (name, (place.captured? index).getD "")

/-- A captured text as a value: the remainder is split into segments. -/
def capturedValue (p : Pattern) (name text : String) : MatchValue :=
  if p.remainder = some name then .segments (Path.segments text) else .text text

/-- The values that a decoded path gives to the names of a pattern, if it matches. -/
def match? (p : Pattern) (path : String) : Option MatchDict :=
  (p.captures? path).map fun found =>
    .ofList (found.map fun (name, text) => (name, p.capturedValue name text))

/-- The value of a name, which must be given. -/
def value (p : Pattern) (values : MatchDict) (name : String) : Except Error MatchValue :=
  match values.get? name with
  | some v => .ok v
  | none =>
    .error (.configuration ("missing value for " ++ Text.quoted name ++ " when generating "
      ++ Text.quoted p.source))

def partPath (p : Pattern) (values : MatchDict) : PatternPart → Except Error String
  | .literal text => .ok (Text.quotePath text)
  | .field name _ => (p.value values name).map fun v => Text.quoteSegment v.joined

def remainderPath : MatchValue → String
  | .text s => Text.quotePath s
  | .segments items => Text.joinWith "/" (items.map Text.quoteSegment)

def generate (p : Pattern) (values : MatchDict) : Except Error String := do
  let parts ← p.parts.mapM (p.partPath values)
  match p.remainder with
  | none => return String.join parts
  | some name => return String.join parts ++ remainderPath (← p.value values name)

end Pattern

end WebDispatch
