import WebDispatch.Regex.Basic
import WebDispatch.Regex.ClassName

/-!
# Reading regular expressions

The written form of expressions: alternatives, repetitions, groups (numbered, named or not
captured), flags, escapes, bracket expressions with nesting and set operations, and conditions on
places. There is no looking around and no reference back to a group.

* `Regex.parse?` — the expression that a text stands for, `none` if it stands for none;
* `Regex.escapeLiteral` — the text of the expression that matches a given text only;
* `Regex.isGroupName` — the form of group names.
-/

namespace WebDispatch.Regex

structure Flags where
  ignoreCase : Bool := false
  multiLine : Bool := false
  dotMatchesLine : Bool := false
  swapGreed : Bool := false
  unicode : Bool := true
  spaced : Bool := false
  crlf : Bool := false

/-- How far a pattern has been read. -/
structure Reading where
  rest : List Char
  flags : Flags := {}
  /-- The number of capturing groups opened so far. -/
  groups : Nat := 0
  /-- Their names. -/
  names : List String := []

/-- A step of reading, which may find the pattern malformed. -/
abbrev Reader := StateT Reading Option

/-- Characters with a meaning of their own. -/
def isMeta (c : Char) : Bool :=
  [0x5C, 0x2E, 0x2B, 0x2A, 0x3F, 0x28, 0x29, 0x7C, 0x5B, 0x5D, 0x7B, 0x7D, 0x5E, 0x24, 0x23,
    0x26, 0x2D, 0x7E].contains c.toNat

/-- The text of the expression that matches a text only. -/
def escapeLiteral (cs : List Char) : List Char :=
  cs.flatMap fun c => if isMeta c then ['\\', c] else [c]

def isNameChar (isFirst : Bool) (c : Char) : Bool :=
  if isFirst then c = '_' || Text.isAlphabetic c
  else c = '_' || c = '.' || c = '[' || c = ']' || Text.isAlphanumeric c

def isGroupName : List Char → Bool
  | [] => false
  | c :: rest => isNameChar true c && rest.all (isNameChar false)

namespace Reading

def peek? : Reader (Option Char) := return (← get).rest.head?

def skip (n : Nat) : Reader Unit := modify fun s => { s with rest := s.rest.drop n }

def take : Reader Char := do
  match (← get).rest with
  | c :: rest => modify fun s => { s with rest := rest }; return c
  | [] => failure

def comes (start : String) : Reader Bool := return start.toList.isPrefixOf (← get).rest

def takeIf (start : String) : Reader Bool := do
  if ← comes start then skip start.length; return true else return false

/-- Passes what comes before the name of a group, in either form. -/
def takeNameStart : Reader Bool := do
  if ← takeIf "?P<" then return true else takeIf "?<"

/-- The rest behind blanks and comments. -/
def dropSpace : Nat → List Char → List Char
  | 0, cs => cs
  | fuel + 1, cs =>
    match cs with
    | '#' :: rest => dropSpace fuel (rest.dropWhile (· ≠ '\n'))
    | c :: rest => if Text.isBlank c then dropSpace fuel rest else cs
    | [] => []

/-- Passes blanks and comments where they have no meaning. -/
def skipSpace : Reader Unit :=
  modify fun s => if s.flags.spaced then { s with rest := dropSpace (s.rest.length + 1) s.rest } else s

end Reading

open Reading

def foldIf (flags : Flags) (s : CharSet) : CharSet := if flags.ignoreCase then s.foldCase else s

def negateIf (flags : Flags) (negated : Bool) (s : CharSet) : Reader CharSet :=
  if !negated then pure s else if flags.unicode then pure s.complement else failure

/-- What an escape or a single character stands for. -/
inductive Atom where
  | literal (c : Char)
  | set (s : CharSet)
  | look (l : Look)

/-- Passes hexadecimal digits: a given number of them, or any number between braces. -/
def readHexEscape (digits : Nat) : Reader Char := do
  let value (cs : List Char) : Reader Char := do
    if cs.isEmpty || !cs.all (fun c => c.isDigit || Text.hexDigitValue c ≠ 0) then failure
    let n := Text.readHex (String.ofList cs)
    if n.isValidChar then pure (Char.ofNat n) else failure
  if ← takeIf "\x7b" then
    let body := (← get).rest.takeWhile (· ≠ '}')
    skip body.length
    let _ ← take
    value body
  else
    let body := (← get).rest.take digits
    if body.length = digits then skip digits; value body else failure

/-- Reads a property, the letter before it passed. -/
def readProperty (negated : Bool) : Reader CharSet := do
  let flags := (← get).flags
  if !flags.unicode then failure
  let c ← take
  let (negated, found) ←
    if c = '{' then do
      let body := (← get).rest.takeWhile (· ≠ '}')
      skip body.length
      let _ ← take
      let name := String.ofList body
      match name.splitOn "!=" with
      | property :: value :: more =>
        pure (!negated, valueClass? property (Text.joinWith "!=" (value :: more)))
      | _ =>
        match Text.cut? ':' name <|> Text.cut? '=' name with
        | some (property, value) => pure (negated, valueClass? property value)
        | none => pure (negated, propertyClass? name)
    else pure (negated, categoryClass? (plainName c.toString))
  match found with
  | some s => negateIf flags negated (foldIf flags s)
  | none => failure

def namedBoundary? (ascii : Bool) : List (String × Look) :=
  [("\x7bstart\x7d", .wordStart ascii), ("\x7bend\x7d", .wordEnd ascii),
   ("\x7bstart-half\x7d", .wordStartHalf ascii), ("\x7bend-half\x7d", .wordEndHalf ascii)]

def readEscape : Reader Atom := do
  let c ← take
  let flags := (← get).flags
  let ascii := !flags.unicode
  if isMeta c then return .literal c
  match c with
  | 'x' => return .literal (← readHexEscape 2)
  | 'u' => return .literal (← readHexEscape 4)
  | 'U' => return .literal (← readHexEscape 8)
  | 'p' => return .set (← readProperty false)
  | 'P' => return .set (← readProperty true)
  | 'a' => return .literal '\x07'
  | 'f' => return .literal '\x0c'
  | 't' => return .literal '\t'
  | 'n' => return .literal '\n'
  | 'r' => return .literal '\r'
  | 'v' => return .literal '\x0b'
  | 'A' => return .look .textStart
  | 'z' => return .look .textEnd
  | 'B' => if ascii then failure else return .look (.notWordBoundary ascii)
  | '<' => return .look (.wordStart ascii)
  | '>' => return .look (.wordEnd ascii)
  | 'b' =>
    for (name, l) in namedBoundary? ascii do
      if ← takeIf name then return .look l
    return .look (.wordBoundary ascii)
  | _ =>
    match letterClass? ascii c.toLower with
    | some s => return .set (← negateIf flags (c ≠ c.toLower) s)
    | none =>
      if c.toNat < 0x80 && !c.isAlphanum then return .literal c else failure

def readMember : Reader Atom := do
  let c ← take
  if c = '\\' then
    match ← readEscape with
    | .look _ => failure
    | a => return a
  else return .literal c

def readRange : Reader CharSet := do
  let first ← readMember
  skipSpace
  let rest := (← get).rest
  let spaced := (← get).flags.spaced
  let dashed := match rest with
    | '-' :: more =>
      match (if spaced then dropSpace (more.length + 1) more else more) with
      | ']' :: _ => false
      | '-' :: _ => false
      | _ => true
    | _ => false
  if !dashed then
    match first with
    | .literal c => return .single c
    | .set s => return s
    | .look _ => failure
  else
    let _ ← take
    skipSpace
    match first, ← readMember with
    | .literal a, .literal b =>
      if a.toNat ≤ b.toNat then return ⟨[(a.toNat, b.toNat)]⟩ else failure
    | _, _ => failure

def readPosix? : Reader (Option CharSet) := do
  if !(← comes "[:") then return none
  let cs := (← get).rest.drop 2
  let (negated, cs) := match cs with
    | '^' :: more => (true, more)
    | more => (false, more)
  let name := cs.takeWhile (fun c => c.isLower)
  match cs.drop name.length, posixClass? (String.ofList name) with
  | ':' :: ']' :: rest, some s =>
    modify fun r => { r with rest := rest }
    return some (if negated then s.complement else s)
  | _, _ => return none

def setOperators : List (String × (CharSet → CharSet → CharSet)) :=
  [("&&", .inter), ("--", .diff), ("~~", .symmDiff)]

/-- What has been read of a bracket expression: the left side of an operation not yet carried
out, and the members read since. -/
structure Bracket where
  left : Option (CharSet × (CharSet → CharSet → CharSet)) := none
  members : CharSet := ⟨[]⟩

def Bracket.result (flags : Flags) (b : Bracket) : CharSet :=
  match b.left with
  | none => b.members
  | some (left, op) => op (foldIf flags left) (foldIf flags b.members)

mutual

def readBracket : Nat → Reader CharSet
  | 0 => failure
  | fuel + 1 => do
    let flags := (← get).flags
    skipSpace
    let negated ← takeIf "^"
    skipSpace
    let dashes := (← get).rest.takeWhile (· = '-')
    skip dashes.length
    let start : CharSet := if dashes.isEmpty then ⟨[]⟩ else .single '-'
    let start ←
      if dashes.isEmpty && (← comes "]") then do skip 1; pure (CharSet.single ']') else pure start
    let s ← readMembers fuel { members := start }
    negateIf flags negated (foldIf flags s)

def readMembers : Nat → Bracket → Reader CharSet
  | 0, _ => failure
  | fuel + 1, b => do
    let flags := (← get).flags
    skipSpace
    if ← takeIf "]" then return b.result flags
    for (mark, op) in setOperators do
      if ← takeIf mark then
        return ← readMembers fuel { left := some (b.result flags, op) }
    if ← comes "[" then
      let s ← match ← readPosix? with
        | some s => pure s
        | none => do skip 1; readBracket fuel
      readMembers fuel { b with members := b.members.union s }
    else
      let s ← readRange
      readMembers fuel { b with members := b.members.union s }

end

def setFlag (on : Bool) (f : Flags) : Char → Option Flags
  | 'i' => some { f with ignoreCase := on }
  | 'm' => some { f with multiLine := on }
  | 's' => some { f with dotMatchesLine := on }
  | 'U' => some { f with swapGreed := on }
  | 'u' => some { f with unicode := on }
  | 'x' => some { f with spaced := on }
  | 'R' => some { f with crlf := on }
  | _ => none

/-- Sets the flags written by letters, those behind a hyphen off; no letter may come twice. -/
def setFlags (on : Bool) (seen : List Char) (f : Flags) : List Char → Option Flags
  | [] => some f
  | ['-'] => none
  | c :: rest =>
    if seen.contains c then none
    else if c = '-' then setFlags false (c :: seen) f rest
    else (setFlag on f c).bind fun g => setFlags on (c :: seen) g rest

/-- What the items of a sequence are: something to repeat, or flags. -/
inductive Item where
  | piece (r : Regex)
  | flags

/-- The expression of an atom, a literal with its other case where case is ignored. -/
def Atom.piece (flags : Flags) : Atom → Regex
  | .literal c => .chars (foldIf flags (.single c))
  | .set s => .chars s
  | .look l => .look l

/-- The expression of a sequence, its items last first. -/
def sequenceOf (items : List Item) : Regex :=
  items.foldl (fun r item =>
    match item, r with
    | .flags, r => r
    | .piece p, .empty => p
    | .piece p, r => .seq p r) .empty

def dotSet (flags : Flags) : CharSet :=
  if flags.dotMatchesLine then .all
  else if flags.crlf then (CharSet.mk [(0x0A, 0x0A), (0x0D, 0x0D)]).complement
  else (CharSet.single '\n').complement

def readCount? : Reader (Option Nat) := do
  modify fun s => { s with rest := s.rest.dropWhile Text.isBlank }
  let digits := (← get).rest.takeWhile Char.isDigit
  skip digits.length
  modify fun s => { s with rest := s.rest.dropWhile Text.isBlank }
  if digits.isEmpty then return none
  let n := digits.foldl (fun n c => 10 * n + (c.toNat - '0'.toNat)) 0
  if n < 4294967296 then return some n else failure

def readCounts : Reader (Nat × Option Nat) := do
  skipSpace
  let least ← readCount?
  let counts ←
    if ← takeIf "," then do
      skipSpace
      if ← comes "\x7d" then
        match least with
        | some n => pure (n, none)
        | none => failure
      else
        match least, ← readCount? with
        | some n, some m => pure (n, some m)
        | _, _ => failure
    else
      match least with
      | some n => pure (n, some n)
      | none => failure
  if ← takeIf "\x7d" then
    match counts with
    | (n, some m) => if n ≤ m then return counts else failure
    | _ => return counts
  else failure

def repeated (items : List Item) (least : Nat) (most : Option Nat) (lazy : Bool) :
    Reader (List Item) := do
  let flags := (← get).flags
  match items with
  | .piece r :: rest =>
    return .piece (.loop least most ((!lazy) != flags.swapGreed) r) :: rest
  | _ => failure

def openGroup (name : Option String) : Reader Nat := do
  let s ← get
  match name with
  | some n => if s.names.contains n then failure
  | none => pure ()
  set { s with groups := s.groups + 1, names := s.names ++ name.toList }
  return s.groups + 1

mutual

def readChoice : Nat → Reader Regex
  | 0 => failure
  | fuel + 1 => do
    let first ← readSequence fuel []
    if ← takeIf "|" then return .either first (← readChoice fuel) else return first

/-- Reads a sequence, the items read so far last first. -/
def readSequence : Nat → List Item → Reader Regex
  | 0, _ => failure
  | fuel + 1, items => do
    skipSpace
    match ← peek? with
    | none => return sequenceOf items
    | some c =>
      if c = '|' || c = ')' then return sequenceOf items
      let flags := (← get).flags
      skip 1
      if c = '(' then
        let item ← readGroup fuel
        readSequence fuel (item :: items)
      else if c = '[' then
        let s ← readBracket fuel
        readSequence fuel (.piece (.chars s) :: items)
      else if c = '*' || c = '+' || c = '?' then
        let lazy ← takeIf "?"
        let (least, most) :=
          if c = '*' then (0, none) else if c = '+' then (1, none) else (0, some 1)
        readSequence fuel (← repeated items least most lazy)
      else if c = '{' then
        if items.isEmpty then failure
        let (least, most) ← readCounts
        skipSpace
        let lazy ← takeIf "?"
        readSequence fuel (← repeated items least most lazy)
      else
        let atom ←
          if c = '\\' then readEscape
          else if c = '.' then
            if flags.unicode then pure (Atom.set (dotSet flags)) else failure
          else if c = '^' then
            pure (.look (if flags.multiLine then .lineStart flags.crlf else .textStart))
          else if c = '$' then
            pure (.look (if flags.multiLine then .lineEnd flags.crlf else .textEnd))
          else pure (.literal c)
        readSequence fuel (.piece (atom.piece flags) :: items)

/-- Reads a group behind its opening parenthesis; its flags end with it. -/
def readGroup : Nat → Reader Item
  | 0 => failure
  | fuel + 1 => do
    skipSpace
    let outer := (← get).flags
    let close (r : Regex) : Reader Item := do
      if ← takeIf ")" then
        modify fun s => { s with flags := outer }
        return .piece r
      else failure
    for mark in ["?=", "?!", "?<=", "?<!"] do
      if ← comes mark then failure
    if ← takeNameStart then
      let name := (← get).rest.takeWhile (· ≠ '>')
      skip name.length
      let _ ← take
      if !isGroupName name then failure
      let index ← openGroup (some (String.ofList name))
      close (.group index (some (String.ofList name)) (← readChoice fuel))
    else if ← takeIf "?" then
      let letters := (← get).rest.takeWhile fun c => c ≠ ':' && c ≠ ')'
      skip letters.length
      let mark ← take
      match setFlags true [] outer letters with
      | none => failure
      | some flags =>
        modify fun s => { s with flags := flags }
        if mark = ')' then
          if letters.isEmpty then failure else return .flags
        else close (← readChoice fuel)
    else
      let index ← openGroup none
      close (.group index none (← readChoice fuel))

end

def parseChars? (cs : List Char) : Option Regex :=
  match (readChoice (4 * cs.length + 4)).run { rest := cs } with
  | some (r, s) => if s.rest.isEmpty then some r else none
  | none => none

def parse? (s : String) : Option Regex := parseChars? s.toList

end WebDispatch.Regex
