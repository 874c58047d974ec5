import WebDispatch.Http.Date
import WebDispatch.Toml.Basic
import WebDispatch.Text.RangeTable

/-!
# Reading documents of tables

The written form of TOML documents: keys, strings of four kinds, numbers, dates, arrays, inline
tables, and headers of tables and of arrays of tables. A document that names a thing twice, or
extends what is complete, is refused like one that is malformed.

* `Toml.parse?` — the top table of a document, its entries in ascending order of keys.
-/

namespace WebDispatch.Toml

/-- The entries of a table in ascending order of keys. -/
abbrev Entries := List (String × Toml)

def find? (key : String) (entries : Entries) : Option Toml :=
  (entries.find? fun e => e.1 = key).map (·.2)

def store (key : String) (v : Toml) : Entries → Entries
  | [] => [(key, v)]
  | e :: rest =>
    if e.1 = key then (key, v) :: rest
    else if key < e.1 then (key, v) :: e :: rest
    else e :: store key v rest

/-- Stores a value under a dotted key; the tables on the way come from dotted keys too. -/
def define (value : Toml) : List String → Entries → Option Entries
  | [], _ => none
  | [key], entries =>
    match find? key entries with
    | none => some (store key value entries)
    | some _ => none
  | key :: path, entries =>
    match find? key entries with
    | none => (define value path []).map fun inner => store key (.table .dotted inner) entries
    | some (.table .dotted inner) =>
      (define value path inner).map fun inner => store key (.table .dotted inner) entries
    | some (.table .implied inner) =>
      if path.length = 1 then none
      else (define value path inner).map fun inner => store key (.table .implied inner) entries
    | some _ => none

def inTable (f : Entries → Option Entries) : List String → Entries → Option Entries
  | [], entries => f entries
  | key :: path, entries =>
    match find? key entries with
    | none => (inTable f path []).map fun inner => store key (.table .implied inner) entries
    | some (.table kind inner) =>
      if kind = .closed then none
      else (inTable f path inner).map fun inner => store key (.table kind inner) entries
    | some (.tables (last :: others)) =>
      (inTable f path last).map fun last => store key (.tables (last :: others)) entries
    | some _ => none

def openTable (path : List String) (root : Entries) : Option Entries :=
  match path.getLast? with
  | none => none
  | some key =>
    inTable (fun entries =>
      match find? key entries with
      | none => some (store key (.table .headed []) entries)
      | some (.table .implied inner) => some (store key (.table .headed inner) entries)
      | some _ => none) path.dropLast root

/-- Adds a table to the array of tables that a header names. -/
def addTable (path : List String) (root : Entries) : Option Entries :=
  match path.getLast? with
  | none => none
  | some key =>
    inTable (fun entries =>
      match find? key entries with
      | none => some (store key (.tables [[]]) entries)
      | some (.tables items) => some (store key (.tables ([] :: items)) entries)
      | some _ => none) path.dropLast root

/-- A step of reading, which may find the document malformed. -/
abbrev Reader := StateT (List Char) Option

def take : Reader Char := do
  match ← get with
  | c :: rest => set rest; return c
  | [] => failure

def comes (start : String) : Reader Bool := return start.toList.isPrefixOf (← get)

def takeIf (start : String) : Reader Bool := do
  if ← comes start then modify (·.drop start.length); return true else return false

def expect (start : String) : Reader Unit := do
  if !(← takeIf start) then failure

def takeWhile (p : Char → Bool) : Reader (List Char) := do
  let cs := (← get).takeWhile p
  modify (·.drop cs.length)
  return cs

def skipBlanks : Reader Unit := do
  let _ ← takeWhile fun c => c = ' ' || c = '\t'

/-- Characters that may stand in a comment or a string. -/
def isPlain (c : Char) : Bool := c = '\t' || (0x20 ≤ c.toNat && c.toNat ≠ 0x7F)

def skipComment : Reader Unit := do
  if ← takeIf "#" then
    let _ ← takeWhile isPlain

def takeBreak : Reader Bool := do
  if ← takeIf "\n" then return true else takeIf "\r\n"

def skipLines : Nat → Reader Unit
  | 0 => pure ()
  | fuel + 1 => do
    skipBlanks
    skipComment
    if ← takeBreak then skipLines fuel

def takeCode (digits : Nat) : Reader Char := do
  let cs := (← get).take digits
  if cs.length ≠ digits || !cs.all (fun c => c.isDigit || Text.hexDigitValue c ≠ 0) then failure
  modify (·.drop digits)
  let n := Text.readHex (String.ofList cs)
  if n.isValidChar then return Char.ofNat n else failure

def takeEscape : Reader Char := do
  match ← take with
  | 'b' => return '\x08'
  | 't' => return '\t'
  | 'n' => return '\n'
  | 'e' => return '\x1b'
  | 'f' => return '\x0c'
  | 'r' => return '\r'
  | '"' => return '"'
  | '\\' => return '\\'
  | 'x' => takeCode 2
  | 'u' => takeCode 4
  | 'U' => takeCode 8
  | _ => failure

def readBasic : Nat → List Char → Reader String
  | 0, _ => failure
  | fuel + 1, cs => do
    let c ← take
    if c = '"' then return String.ofList cs.reverse
    else if c = '\\' then readBasic fuel ((← takeEscape) :: cs)
    else if isPlain c then readBasic fuel (c :: cs)
    else failure

def readLiteral : Reader String := do
  let cs ← takeWhile fun c => c ≠ '\'' && isPlain c
  expect "'"
  return String.ofList cs

/-- Reads a string in triple quotes up to the closing ones, which one or two quotes of the string
may precede. -/
def readLong (quote : Char) : Nat → List Char → Reader String
  | 0, _ => failure
  | fuel + 1, cs => do
    let quotes ← takeWhile (· = quote)
    if 6 ≤ quotes.length then failure
    else if 3 ≤ quotes.length then
      return String.ofList (cs.reverse ++ List.replicate (quotes.length - 3) quote)
    else
      let cs := quotes ++ cs
      if ← takeBreak then readLong quote fuel ('\n' :: cs)
      else
        let c ← take
        if c = '\\' && quote = '"' then
          let rest := (← get).dropWhile fun c => c = ' ' || c = '\t'
          match rest with
          | '\n' :: _ | '\r' :: '\n' :: _ =>
            set (rest.dropWhile fun c => c = ' ' || c = '\t' || c = '\n' || c = '\r')
            readLong quote fuel cs
          | _ => readLong quote fuel ((← takeEscape) :: cs)
        else if isPlain c then readLong quote fuel (c :: cs)
        else failure

/-- Reads a string of any of the four kinds. -/
def readString (fuel : Nat) : Reader String := do
  if ← takeIf "\"\"\"" then
    let _ ← takeBreak
    readLong '"' fuel []
  else if ← takeIf "'''" then
    let _ ← takeBreak
    readLong '\'' fuel []
  else if ← takeIf "\"" then readBasic fuel []
  else
    expect "'"
    readLiteral

def readKeyPart (fuel : Nat) : Reader String := do
  if ← takeIf "\"" then readBasic fuel []
  else if ← takeIf "'" then readLiteral
  else
    let cs ← takeWhile fun c => isBareKey c.toString
    if cs.isEmpty then failure else return String.ofList cs

def readKey : Nat → Reader (List String)
  | 0 => failure
  | fuel + 1 => do
    skipBlanks
    let part ← readKeyPart fuel
    skipBlanks
    if ← takeIf "." then return part :: (← readKey fuel) else return [part]

/-- Digits with single underscores between them, the underscores dropped. -/
def plainDigits? (isDigit : Char → Bool) : List Char → Option (List Char)
  | [] => none
  | [c] => if isDigit c then some [c] else none
  | c :: '_' :: d :: rest =>
    if isDigit c && isDigit d then (plainDigits? isDigit (d :: rest)).map (c :: ·) else none
  | c :: rest => if isDigit c then (plainDigits? isDigit rest).map (c :: ·) else none

def baseValue (base : Nat) (cs : List Char) : Int :=
  (cs.foldl (fun n c => base * n + Text.hexDigitValue c) 0 : Nat)

def integer? (n : Int) : Option Toml :=
  if -9223372036854775808 ≤ n && n ≤ 9223372036854775807 then some (.integer n) else none

/-- A whole number without superfluous zeros. -/
def wholeDigits? (cs : List Char) : Option (List Char) :=
  match plainDigits? Char.isDigit cs with
  | some ('0' :: _ :: _) => none
  | ds => ds

def number? (word : List Char) : Option Toml := do
  let (sign, body) : Option Bool × List Char := match word with
    | '+' :: rest => (some false, rest)
    | '-' :: rest => (some true, rest)
    | rest => (none, rest)
  let negative := sign = some true
  match sign, body with
  | none, '0' :: 'x' :: ds =>
    integer? (baseValue 16 (← plainDigits? (fun c => c.isDigit || Text.hexDigitValue c ≠ 0) ds))
  | none, '0' :: 'o' :: ds =>
    integer? (baseValue 8 (← plainDigits? (fun c => '0' ≤ c && c ≤ '7') ds))
  | none, '0' :: 'b' :: ds =>
    integer? (baseValue 2 (← plainDigits? (fun c => c = '0' || c = '1') ds))
  | _, ['i', 'n', 'f'] => return .fraction (.infinite negative)
  | _, ['n', 'a', 'n'] => return .noNumber negative
  | _, _ =>
    let whole := body.takeWhile fun c => c.isDigit || c = '_'
    let rest := body.drop whole.length
    let ds ← wholeDigits? whole
    if rest.isEmpty then
      let n := baseValue 10 ds
      integer? (if negative then -n else n)
    else
      let (part, rest) ← match rest with
        | '.' :: more =>
          let part := more.takeWhile fun c => c.isDigit || c = '_'
          (plainDigits? Char.isDigit part).map fun p => ('.' :: p, more.drop part.length)
        | _ => some ([], rest)
      let power ← match rest with
        | [] => some []
        | e :: more =>
          if e ≠ 'e' && e ≠ 'E' then none
          else
            let (mark, ds) := match more with
              | '+' :: ds => (['+'], ds)
              | '-' :: ds => (['-'], ds)
              | ds => ([], ds)
            (plainDigits? Char.isDigit ds).map fun p => 'e' :: (mark ++ p)
      let text := String.ofList ((if negative then ['-'] else []) ++ ds ++ part ++ power)
      match ← Fraction.read? .double text with
      | .infinite _ => none
      | x => return .fraction x

/-- A date `yyyy-mm-dd` that exists. -/
def isDate (cs : List Char) : Bool :=
  match Http.Instant.number? (cs.take 4), Http.Instant.number? ((cs.drop 5).take 2),
      Http.Instant.number? (cs.drop 8) with
  | some y, some m, some d =>
    cs.length = 10 && cs[4]? = some '-' && cs[7]? = some '-' && 1 ≤ m && m ≤ 12 && 1 ≤ d
      && d ≤ Http.Calendar.monthDays y m
  | _, _, _ => false

/-- Hours and minutes `hh:mm` of a day. -/
def isHourMinute (cs : List Char) : Bool :=
  match Http.Instant.number? (cs.take 2), Http.Instant.number? (cs.drop 3) with
  | some h, some m => cs.length = 5 && cs[2]? = some ':' && h < 24 && m < 60
  | _, _ => false

/-- The written form of a time `hh:mm:ss` with an optional fraction of a second; where the seconds
are missing there are none. -/
def timeText? (cs : List Char) : Option (List Char) :=
  let seconds := if cs.length = 5 then ['0', '0'] else cs.drop 6
  let whole := seconds.take 2
  let part? : Option (List Char) := match seconds.drop 2 with
    | [] => some []
    | '.' :: ds =>
      if ds.isEmpty || !ds.all Char.isDigit then none
      else some (Text.trimEndChars (· = '0') (ds.take 9))
    | _ => none
  match Http.Instant.number? whole, part? with
  | some s, some part =>
    if isHourMinute (cs.take 5) && (cs.drop 5).head?.all (· = ':') && whole.length = 2 && s ≤ 60 then
      some (cs.take 5 ++ [':'] ++ whole ++ (if part.isEmpty then [] else '.' :: part))
    else none
  | _, _ => none

def offsetText? : List Char → Option (List Char)
  | [] => some []
  | ['Z'] | ['z'] => some ['Z']
  | c :: rest =>
    if (c = '+' || c = '-') && isHourMinute rest then
      some ((if rest.all fun d => d = '0' || d = ':' then '+' else c) :: rest)
    else none

/-- A date, a time or both from the word that it is written as. -/
def moment? (cs : List Char) : Option Toml :=
  let text (cs : List Char) : Toml := .moment (String.ofList cs)
  if isDate cs then some (text cs)
  else if isDate (cs.take 10) then
    match cs.drop 10 with
    | mark :: rest =>
      if mark = 'T' || mark = 't' || mark = ' ' then
        let time := rest.takeWhile fun c => c.isDigit || c = ':' || c = '.'
        match timeText? time, offsetText? (rest.drop time.length) with
        | some t, some o => some (text (cs.take 10 ++ ['T'] ++ t ++ o))
        | _, _ => none
      else none
    | [] => none
  else (timeText? cs).map text

def looksLikeMoment (cs : List Char) : Bool :=
  let ds := cs.takeWhile Char.isDigit
  match cs.drop ds.length with
  | '-' :: _ => ds.length = 4
  | ':' :: _ => ds.length = 2
  | _ => false

/-- Reads a number, a date or a time: the word up to the next mark, and a time behind a date and
a space. -/
def readWord : Reader Toml := do
  let isWord (c : Char) : Bool := c.isAlphanum || "+-_.:".toList.contains c
  let word ← takeWhile isWord
  let rest ← get
  let word ←
    match rest with
    | ' ' :: a :: b :: ':' :: _ =>
      if isDate word && a.isDigit && b.isDigit then do
        set (rest.drop 1)
        pure (word ++ [' '] ++ (← takeWhile isWord))
      else pure word
    | _ => pure word
  match if looksLikeMoment word then moment? word else number? word with
  | some v => return v
  | none => failure

mutual

def readValue : Nat → Reader Toml
  | 0 => failure
  | fuel + 1 => do
    match (← get).head? with
    | some '"' => return .text (← readString fuel)
    | some '\'' => return .text (← readString fuel)
    | some '[' => do
      expect "["
      return .array (← readItems fuel)
    | some '{' => do
      expect "\x7b"
      return .table .closed (← readInline fuel [])
    | some 't' => do
      expect "true"
      return .boolean true
    | some 'f' => do
      expect "false"
      return .boolean false
    | _ => readWord

def readItems : Nat → Reader (List Toml)
  | 0 => failure
  | fuel + 1 => do
    skipLines fuel
    if ← takeIf "]" then return []
    let v ← readValue fuel
    skipLines fuel
    if ← takeIf "," then return v :: (← readItems fuel)
    else
      expect "]"
      return [v]

def readInline : Nat → Entries → Reader Entries
  | 0, _ => failure
  | fuel + 1, entries => do
    skipLines fuel
    if ← takeIf "\x7d" then return entries
    let key ← readKey fuel
    expect "="
    skipBlanks
    let v ← readValue fuel
    skipLines fuel
    match define v key entries with
    | none => failure
    | some entries =>
      if ← takeIf "," then readInline fuel entries
      else
        expect "\x7d"
        return entries

end

def endLine : Reader Unit := do
  skipBlanks
  skipComment
  if (← get).isEmpty then return ()
  if !(← takeBreak) then failure

/-- Reads the lines of a document; `path` leads to the table that keys are stored in. -/
def readLines : Nat → List String → Entries → Reader Entries
  | 0, _, _ => failure
  | fuel + 1, path, root => do
    skipLines fuel
    if (← get).isEmpty then return root
    if ← takeIf "[[" then
      let path ← readKey fuel
      expect "]]"
      endLine
      match addTable path root with
      | some root => readLines fuel path root
      | none => failure
    else if ← takeIf "[" then
      let path ← readKey fuel
      expect "]"
      endLine
      match openTable path root with
      | some root => readLines fuel path root
      | none => failure
    else
      let key ← readKey fuel
      expect "="
      skipBlanks
      let v ← readValue fuel
      endLine
      match inTable (define v key) path root with
      | some root => readLines fuel path root
      | none => failure

def parse? (s : String) : Option Entries :=
  let cs := match s.toList with
    | '\uFEFF' :: rest => rest
    | cs => cs
  match (readLines (2 * cs.length + 10) [] []).run cs with
  | some (root, []) => some root
  | _ => none

end WebDispatch.Toml
