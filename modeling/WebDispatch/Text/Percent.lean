import WebDispatch.Text.RangeTable
import WebDispatch.Text.Utf8

/-!
# Percent escapes

A byte that may not stand in a path as it is is written `%XX` in base sixteen.

* `percentEncode` — escapes all bytes but the ASCII characters that a test keeps;
* `percentDecode` — reads the escapes; a percent sign without two digits stands for itself;
* `quotePath`, `quoteSegment` — the two sets of characters that paths keep.
-/

namespace WebDispatch.Text

def hexDigit (n : Nat) : Char :=
  if n < 10 then Char.ofNat ('0'.toNat + n) else Char.ofNat ('A'.toNat + (n - 10))

def hexByte? (b : UInt8) : Option Nat :=
  let n := b.toNat
  if 0x30 ≤ n ∧ n ≤ 0x39 then some (n - 0x30)
  else if 0x41 ≤ n ∧ n ≤ 0x46 then some (n - 0x37)
  else if 0x61 ≤ n ∧ n ≤ 0x66 then some (n - 0x57)
  else none

/-- Escapes one byte, unless it is an ASCII character that is kept. -/
def escapeByte (keep : Char → Bool) (b : UInt8) : List Char :=
  if b.toNat < 0x80 && keep (Char.ofNat b.toNat) then [Char.ofNat b.toNat]
  else ['%', hexDigit (b.toNat / 16), hexDigit (b.toNat % 16)]

def percentEncode (keep : Char → Bool) (s : String) : String :=
  String.ofList ((encode s).flatMap (escapeByte keep))

def unescapeBytes : Bytes → Bytes
  | [] => []
  | 0x25 :: a :: b :: rest =>
    match hexByte? a, hexByte? b with
    | some hi, some lo => (hi * 16 + lo).toUInt8 :: unescapeBytes rest
    | _, _ => 0x25 :: unescapeBytes (a :: b :: rest)
  | b :: rest => b :: unescapeBytes rest

def percentDecode (s : String) : String := decodeLossy (unescapeBytes (encode s))

/-- ASCII letters, digits and the punctuation that a path segment may hold. -/
def keptInSegment (c : Char) : Bool :=
  c.isAlphanum || "-._~!$&'()*+,;=:@".toList.contains c

/-- What a path may hold: what a segment may, and the slash. -/
def keptInPath (c : Char) : Bool := keptInSegment c || c = '/'

def quoteSegment (s : String) : String := percentEncode keptInSegment s

/-- A path, written so that it stands for itself. -/
def quotePath (s : String) : String := percentEncode keptInPath s

end WebDispatch.Text
