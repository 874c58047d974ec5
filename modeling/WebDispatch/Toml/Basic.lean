import WebDispatch.Number
import WebDispatch.Text.Quoted

/-!
# Documents of tables

The values of the configuration format TOML. A table remembers how it came to be, because that
decides how it may still be extended.

* `Toml` — the values; `TableKind` — how a table came to be;
* `Toml.inlineText` — a value in the notation of the format, tables and arrays on one line;
* `Toml.flatten` — the settings that a table holds, with dotted names.
-/

namespace WebDispatch

/-- How a table came to be. -/
inductive TableKind where
  /-- Only named in the header of a table below it. -/
  | implied
  /-- Named in a header of its own. -/
  | headed
  /-- Named in a dotted key. -/
  | dotted
  /-- Written between braces, and complete with that. -/
  | closed
deriving DecidableEq, Repr

inductive Toml where
  | text (s : String)
  | integer (n : Int)
  | fraction (x : Fraction)
  /-- What is no number, with or without a minus sign. -/
  | noNumber (negative : Bool)
  | boolean (b : Bool)
  /-- A date, a time or both, in its written form. -/
  | moment (s : String)
  | array (items : List Toml)
  /-- Tables that headers in double brackets have added, the last one first. -/
  | tables (items : List (List (String × Toml)))
  | table (kind : TableKind) (entries : List (String × Toml))
deriving Inhabited

namespace Toml

def isBareKey (key : String) : Bool :=
  key ≠ "" && key.toList.all fun c => c.toNat < 0x80 && (c.isAlphanum || c = '_' || c = '-')

def hexDigits (width n : Nat) : String :=
  let ds := (Nat.toDigits 16 n).map Char.toUpper
  String.ofList (List.replicate (width - ds.length) '0' ++ ds)

/-- A character inside double quotes; line breaks stay as they are where lines may break. -/
def basicChar (lines : Bool) (c : Char) : String :=
  if c = '"' then "\\\""
  else if c = '\\' then "\\\\"
  else if c = '\n' then (if lines then "\n" else "\\n")
  else if c = '\t' then "\\t"
  else if c = '\r' then "\\r"
  else if c = '\x08' then "\\b"
  else if c = '\x0c' then "\\f"
  else if c.toNat < 0x20 || c.toNat = 0x7F then "\\u" ++ hexDigits 4 c.toNat
  else c.toString

def longestRun (c : Char) (cs : List Char) : Nat :=
  (cs.foldl (fun (best, run) d => if d = c then (max best (run + 1), run + 1) else (best, 0))
    (0, 0)).1

/-- A string in the plainest notation that can hold it. -/
def stringText (s : String) : String :=
  let cs := s.toList
  let controls := cs.any fun c => c ≠ '\t' && c ≠ '\n' && (c.toNat < 0x20 || c.toNat = 0x7F)
  let newline := cs.contains '\n'
  let backslash := cs.contains '\\'
  let doubles := longestRun '"' cs
  let singles := longestRun '\'' cs
  let start := if newline then "\n" else ""
  if !controls && !backslash && doubles = 0 && !newline then "\"" ++ s ++ "\""
  else if !controls && singles = 0 && !newline then "'" ++ s ++ "'"
  else if !controls && !backslash && doubles ≤ 2 then "\"\"\"" ++ start ++ s ++ "\"\"\""
  else if !controls && singles ≤ 2 then "'''" ++ start ++ s ++ "'''"
  else if newline then
    "\"\"\"" ++ start ++ String.join (cs.map (basicChar true)) ++ "\"\"\""
  else "\"" ++ String.join (cs.map (basicChar false)) ++ "\""

/-- A key, in quotes where it needs them. -/
def keyText (key : String) : String := if isBareKey key then key else stringText key

/-- A fraction, recognisable as one. -/
def fractionText (x : Fraction) : String :=
  match x with
  | .undefined => "nan"
  | .infinite _ => Fraction.text .double x
  | .finite _ _ => Fraction.text .double x ++ (if x.isWhole .double then ".0" else "")

def braced (entries : List String) : String :=
  if entries.isEmpty then "\x7b\x7d" else "\x7b " ++ Text.joinWith ", " entries ++ " \x7d"

mutual

def inlineText : Toml → String
  | .text s => stringText s
  | .integer n => toString n
  | .fraction x => fractionText x
  | .noNumber negative => if negative then "-nan" else "nan"
  | .boolean b => Text.truth b
  | .moment s => s
  | .array items => "[" ++ Text.joinWith ", " (itemTexts items) ++ "]"
  | .tables items => "[" ++ Text.joinWith ", " (tableTexts items).reverse ++ "]"
  | .table _ entries => braced (entryTexts entries)

def itemTexts : List Toml → List String
  | [] => []
  | v :: rest => inlineText v :: itemTexts rest

def tableTexts : List (List (String × Toml)) → List String
  | [] => []
  | t :: rest => braced (entryTexts t) :: tableTexts rest

def entryTexts : List (String × Toml) → List String
  | [] => []
  | (key, v) :: rest => (keyText key ++ " = " ++ inlineText v) :: entryTexts rest

end

mutual

/-- A value as the text of a setting: strings as they are, the items of arrays on lines of their
own, all else in the notation of the format. -/
def settingText : Toml → String
  | .text s => s
  | .array items => Text.joinWith "\n" (settingTexts items)
  | .tables items => Text.joinWith "\n" (tableTexts items).reverse
  | v => inlineText v

def settingTexts : List Toml → List String
  | [] => []
  | v :: rest => settingText v :: settingTexts rest

end

mutual

/-- The settings that a table holds: every value under the keys on the way to it, joined by
points. -/
def flatten : List (String × Toml) → List (String × String)
  | [] => []
  | (key, v) :: rest =>
    flattenValue key v ++ flatten rest

def flattenValue (path : String) : Toml → List (String × String)
  | .table _ entries => flattenBelow path entries
  | v => [(path, settingText v)]

def flattenBelow (path : String) : List (String × Toml) → List (String × String)
  | [] => []
  | (key, v) :: rest => flattenValue (path ++ "." ++ key) v ++ flattenBelow path rest

end

end Toml

end WebDispatch
