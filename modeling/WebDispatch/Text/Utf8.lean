/-!
# Text and bytes

Text is written as bytes in UTF-8. Reading never fails: every longest run of bytes that begins a
character without completing it, and every byte that begins none, is read as U+FFFD.

* `encode` — the bytes of a text;
* `decodeLossy` — the text that bytes stand for.
-/

namespace WebDispatch.Text

abbrev Bytes := List UInt8

def encodeChar (c : Char) : Bytes :=
  let n := c.toNat
  if n < 0x80 then [n.toUInt8]
  else if n < 0x800 then [(0xC0 + n / 0x40).toUInt8, (0x80 + n % 0x40).toUInt8]
  else if n < 0x10000 then
    [(0xE0 + n / 0x1000).toUInt8, (0x80 + n / 0x40 % 0x40).toUInt8, (0x80 + n % 0x40).toUInt8]
  else
    [(0xF0 + n / 0x40000).toUInt8, (0x80 + n / 0x1000 % 0x40).toUInt8,
      (0x80 + n / 0x40 % 0x40).toUInt8, (0x80 + n % 0x40).toUInt8]

def encode (s : String) : Bytes := s.toList.flatMap encodeChar

/-- A character of which some bytes have been read. -/
structure Unfinished where
  /-- The bits read so far. -/
  value : Nat
  /-- How many bytes are missing. -/
  missing : Nat
  /-- The least byte that may come next. -/
  low : Nat
  /-- The greatest byte that may come next. -/
  high : Nat

/-- What a byte that begins a character stands for: a whole character or the start of one. -/
def firstByte (b : UInt8) : Char ⊕ Unfinished :=
  let n := b.toNat
  if n < 0x80 then .inl (Char.ofNat n)
  else if n < 0xC2 then .inl '\uFFFD'
  else if n < 0xE0 then .inr ⟨n - 0xC0, 1, 0x80, 0xBF⟩
  else if n = 0xE0 then .inr ⟨0, 2, 0xA0, 0xBF⟩
  else if n = 0xED then .inr ⟨0xD, 2, 0x80, 0x9F⟩
  else if n < 0xF0 then .inr ⟨n - 0xE0, 2, 0x80, 0xBF⟩
  else if n = 0xF0 then .inr ⟨0, 3, 0x90, 0xBF⟩
  else if n < 0xF4 then .inr ⟨n - 0xF0, 3, 0x80, 0xBF⟩
  else if n = 0xF4 then .inr ⟨4, 3, 0x80, 0x8F⟩
  else .inl '\uFFFD'

/-- Reads characters, the first of which may have been begun already. -/
def decodeFrom : Option Unfinished → Bytes → List Char
  | none, [] => []
  | some _, [] => ['\uFFFD']
  | none, b :: rest =>
    match firstByte b with
    | .inl c => c :: decodeFrom none rest
    | .inr u => decodeFrom (some u) rest
  | some u, b :: rest =>
    if u.low ≤ b.toNat ∧ b.toNat ≤ u.high then
      let value := u.value * 0x40 + b.toNat % 0x40
      if u.missing = 1 then Char.ofNat value :: decodeFrom none rest
      else decodeFrom (some ⟨value, u.missing - 1, 0x80, 0xBF⟩) rest
    else
      match firstByte b with
      | .inl c => '\uFFFD' :: c :: decodeFrom none rest
      | .inr v => '\uFFFD' :: decodeFrom (some v) rest

def decodeLossy (bytes : Bytes) : String := String.ofList (decodeFrom none bytes)

end WebDispatch.Text
