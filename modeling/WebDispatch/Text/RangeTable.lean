/-!
# Tables of code points

A property of characters is a list of ranges of code points. Long tables are written as text,
one range `first-last` (or a single code point) a word, in base sixteen.

* `RangeTable.contains` — whether a code point lies in one of the ranges;
* `RangeTable.ofText`, `labelledRanges` — reading a table.
-/

namespace WebDispatch.Text

/-- The value of a hexadecimal digit; other characters count as zero. -/
def hexDigitValue (c : Char) : Nat :=
  if '0' ≤ c && c ≤ '9' then c.toNat - '0'.toNat
  else if 'a' ≤ c && c ≤ 'f' then c.toNat - 'a'.toNat + 10
  else if 'A' ≤ c && c ≤ 'F' then c.toNat - 'A'.toNat + 10
  else 0

def readHex (s : String) : Nat := s.toList.foldl (fun n c => 16 * n + hexDigitValue c) 0

/-- The words of a table; blanks and line ends divide them. -/
def tableWords (text : String) : List String :=
  ((text.splitOn "\n").flatMap fun line => line.splitOn " ").filter (· ≠ "")

/-- Ranges of code points, both ends included, in ascending order. -/
abbrev RangeTable := Array (Nat × Nat)

namespace RangeTable

def contains (t : RangeTable) (n : Nat) : Bool := t.any fun (lo, hi) => lo ≤ n && n ≤ hi

/-- One range, `first-last` or a single code point. -/
def readRange (word : String) : Nat × Nat :=
  match word.splitOn "-" with
  | [lo, hi] => (readHex lo, readHex hi)
  | _ => (readHex word, readHex word)

def ofText (text : String) : RangeTable := (tableWords text).toArray.map readRange

end RangeTable

/-- Reads ranges that each carry a label, written `first-last=label`. -/
def labelledRanges (text : String) : Array (Nat × Nat × String) :=
  (tableWords text).toArray.filterMap fun word =>
    match word.splitOn "=" with
    | [range, label] => let (lo, hi) := RangeTable.readRange range; some (lo, hi, label)
    | _ => none

end WebDispatch.Text
