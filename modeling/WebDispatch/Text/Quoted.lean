import WebDispatch.Text.Category
import WebDispatch.Text.Property
import WebDispatch.Text.Split

/-!
# Quoted values

Messages and descriptions quote the values that they mention: a text stands between double
quotes and shows every character that would not be seen by an escape. The same module holds the
shapes that composed values have in descriptions: lists, pairs, options and records.
-/

namespace WebDispatch.Text

def hexText (n : Nat) : String := String.ofList (Nat.toDigits 16 n)

def hexPair (n : Nat) : String :=
  String.ofList [Nat.digitChar (n / 16 % 16), Nat.digitChar (n % 16)]

def quotedChar (c : Char) : String :=
  if c = '"' then "\\\""
  else if c = '\\' then "\\\\"
  else if c = '\n' then "\\n"
  else if c = '\r' then "\\r"
  else if c = '\t' then "\\t"
  else if c = '\x00' then "\\0"
  else if extendsGrapheme c || !isPrintable c then "\\u\x7b" ++ hexText c.toNat ++ "\x7d"
  else c.toString

def quoted (s : String) : String :=
  "\"" ++ String.join (s.toList.map quotedChar) ++ "\""

def listed (items : List String) : String := "[" ++ joinWith ", " items ++ "]"

def quotedList (items : List String) : String := listed (items.map quoted)

/-- A value that may be absent, its description given. -/
def optional : Option String → String
  | none => "None"
  | some item => "Some(" ++ item ++ ")"

def quotedOptional (s : Option String) : String := optional (s.map quoted)

def truth (b : Bool) : String := if b then "true" else "false"

def mapping (entries : List (String × String)) : String :=
  "\x7b" ++ joinWith ", " (entries.map fun (k, v) => k ++ ": " ++ v) ++ "\x7d"

def fieldTexts (fields : List (String × String)) : List String :=
  fields.map fun (name, value) => name ++ ": " ++ value

/-- A record that shows all its fields. -/
def record (name : String) (fields : List (String × String)) : String :=
  name ++ " \x7b " ++ joinWith ", " (fieldTexts fields) ++ " \x7d"

/-- A record that keeps some fields to itself. -/
def openRecord (name : String) (fields : List (String × String)) : String :=
  name ++ " \x7b " ++ joinWith ", " (fieldTexts fields ++ [".."]) ++ " \x7d"

end WebDispatch.Text
