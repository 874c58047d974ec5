import WebDispatch.Text.Quoted

/-!
# Structured values

What views return to be rendered and what sessions hold: the values of JSON with whole numbers.
The members of an object are kept in ascending order of their names.

* `Value.object` — an object from its members in any order;
* `Value.compact` — the text without blanks;
* `Value.get`, `str`, `list`, `flag`, `nat?` and their kin — the members of an object, read as what
  they should be. What is absent or of another kind counts as empty.
-/

namespace WebDispatch

inductive Value where
  | null
  | bool (b : Bool)
  | number (n : Int)
  | text (s : String)
  | array (items : List Value)
  | members (fields : List (String × Value))
deriving Repr, Inhabited

namespace Value

def insertMember (name : String) (v : Value) : List (String × Value) → List (String × Value)
  | [] => [(name, v)]
  | f :: rest =>
    if f.1 = name then (name, v) :: rest
    else if name < f.1 then (name, v) :: f :: rest
    else f :: insertMember name v rest

def object (fields : List (String × Value)) : Value :=
  .members (fields.foldl (fun fs f => insertMember f.1 f.2 fs) [])

def texts (items : List String) : Value := .array (items.map .text)

def ofText? : Option String → Value
  | none => .null
  | some s => .text s

def escapedChar (c : Char) : String :=
  if c = '"' then "\\\""
  else if c = '\\' then "\\\\"
  else if c = '\x08' then "\\b"
  else if c = '\x0c' then "\\f"
  else if c = '\n' then "\\n"
  else if c = '\r' then "\\r"
  else if c = '\t' then "\\t"
  else if c.toNat < 0x20 then "\\u00" ++ Text.hexPair c.toNat
  else c.toString

def escaped (s : String) : String := "\"" ++ String.join (s.toList.map escapedChar) ++ "\""

mutual

def compact : Value → String
  | .null => "null"
  | .bool b => Text.truth b
  | .number n => toString n
  | .text s => escaped s
  | .array items => "[" ++ Text.joinWith "," (compactItems items) ++ "]"
  | .members fields => "\x7b" ++ Text.joinWith "," (compactMembers fields) ++ "\x7d"

def compactItems : List Value → List String
  | [] => []
  | v :: rest => compact v :: compactItems rest

def compactMembers : List (String × Value) → List String
  | [] => []
  | (name, v) :: rest => (escaped name ++ ":" ++ compact v) :: compactMembers rest

end

def asText? : Value → Option String
  | .text s => some s
  | _ => none

def asText (v : Value) : String := v.asText?.getD ""

def asList? : Value → Option (List Value)
  | .array items => some items
  | _ => none

def asList (v : Value) : List Value := v.asList?.getD []

def asTexts (v : Value) : List String := v.asList.map asText

def asInt? : Value → Option Int
  | .number n => some n
  | _ => none

/-- The value if it is a number that is not negative. -/
def asNat? (v : Value) : Option Nat := v.asInt?.bind fun n => if n < 0 then none else some n.toNat

def isTrue : Value → Bool
  | .bool b => b
  | _ => false

def asMembers : Value → List (String × Value)
  | .members fields => fields
  | _ => []

def item (v : Value) (n : Nat) : Value := (v.asList[n]?).getD .null

def asPair (v : Value) : String × String := ((v.item 0).asText, (v.item 1).asText)

def get? (v : Value) (name : String) : Option Value :=
  (v.asMembers.find? fun f => f.1 = name).map (·.2)

def get (v : Value) (name : String) : Value := (v.get? name).getD .null

def has (v : Value) (name : String) : Bool := (v.get? name).isSome

def str? (v : Value) (name : String) : Option String := (v.get name).asText?

def str (v : Value) (name : String) : String := (v.get name).asText

def list (v : Value) (name : String) : List Value := (v.get name).asList

def strs (v : Value) (name : String) : List String := (v.get name).asTexts

def strs? (v : Value) (name : String) : Option (List String) :=
  (v.get name).asList?.map fun items => items.map asText

def pairs (v : Value) (name : String) : List (String × String) := (v.list name).map asPair

def entries (v : Value) (name : String) : List (String × Value) :=
  (v.list name).map fun p => ((p.item 0).asText, p.item 1)

def nat? (v : Value) (name : String) : Option Nat := (v.get name).asNat?

def flag (v : Value) (name : String) : Bool := (v.get name).isTrue

mutual

def depth : Value → Nat
  | .null | .bool _ | .number _ | .text _ => 0
  | .array items => depthItems items + 1
  | .members fields => depthMembers fields + 1

def depthItems : List Value → Nat
  | [] => 0
  | v :: rest => max (depth v) (depthItems rest)

def depthMembers : List (String × Value) → Nat
  | [] => 0
  | (_, v) :: rest => max (depth v) (depthMembers rest)

end

end Value

end WebDispatch
