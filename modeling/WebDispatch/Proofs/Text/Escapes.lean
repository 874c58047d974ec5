import WebDispatch.Text.Percent
import WebDispatch.Text.Split

/-!
# Escapes undone

Writing a text as bytes and reading the bytes again gives the text back (`decodeLossy_encode`). So
does writing it with escapes and reading these, whatever characters are kept, the percent sign
excepted. A path is put together from texts escaped in different ways: what it stands for is put
together from these texts (`StandsFor.append`).
-/

namespace WebDispatch.Text

/-! ## Characters as bytes -/

theorem toNat_toUInt8 {n : Nat} (h : n < 256) : n.toUInt8.toNat = n := by
  rw [Nat.toUInt8_eq, UInt8.toNat_ofNat', Nat.mod_eq_of_lt h]

/-- The last byte that is missing completes a character. -/
theorem decodeFrom_last {value low high : Nat} {b : UInt8} (rest : Bytes)
    (h : low ≤ b.toNat ∧ b.toNat ≤ high) :
    decodeFrom (some ⟨value, 1, low, high⟩) (b :: rest) =
      Char.ofNat (value * 0x40 + b.toNat % 0x40) :: decodeFrom none rest := by
  rw [decodeFrom, if_pos h]
  rfl

/-- Before that, a byte adds its bits. -/
theorem decodeFrom_more {value missing low high : Nat} {b : UInt8} (rest : Bytes)
    (h : low ≤ b.toNat ∧ b.toNat ≤ high) :
    decodeFrom (some ⟨value, missing + 2, low, high⟩) (b :: rest) =
      decodeFrom (some ⟨value * 0x40 + b.toNat % 0x40, missing + 1, 0x80, 0xBF⟩) rest := by
  rw [decodeFrom, if_pos h]
  rfl

theorem firstByte_two {k : Nat} (hlow : 2 ≤ k) (hhigh : k < 0x20) :
    firstByte (0xC0 + k).toUInt8 = .inr ⟨k, 1, 0x80, 0xBF⟩ := by
  have hbyte : (0xC0 + k).toUInt8.toNat = 0xC0 + k := toNat_toUInt8 (by omega)
  rw [firstByte]
  simp only [hbyte]
  rw [if_neg (by omega), if_neg (by omega), if_pos (by omega), Nat.add_sub_cancel_left]

/-- The first of three bytes; what may follow depends on it at the two ends of the range. -/
theorem firstByte_three {k : Nat} (h : k < 0x10) :
    firstByte (0xE0 + k).toUInt8 =
      .inr ⟨k, 2, if k = 0 then 0xA0 else 0x80, if k = 0xD then 0x9F else 0xBF⟩ := by
  have hbyte : (0xE0 + k).toUInt8.toNat = 0xE0 + k := toNat_toUInt8 (by omega)
  rw [firstByte]
  simp only [hbyte]
  rw [if_neg (by omega), if_neg (by omega), if_neg (by omega)]
  by_cases hfirst : k = 0
  · subst hfirst
    rfl
  · rw [if_neg (by omega), if_neg hfirst]
    by_cases hsurrogate : k = 0xD
    · subst hsurrogate
      rfl
    · rw [if_neg (by omega), if_pos (by omega), if_neg hsurrogate, Nat.add_sub_cancel_left]

/-- The first of four bytes. -/
theorem firstByte_four {k : Nat} (h : k < 5) :
    firstByte (0xF0 + k).toUInt8 =
      .inr ⟨k, 3, if k = 0 then 0x90 else 0x80, if k = 4 then 0x8F else 0xBF⟩ := by
  have hbyte : (0xF0 + k).toUInt8.toNat = 0xF0 + k := toNat_toUInt8 (by omega)
  rw [firstByte]
  simp only [hbyte]
  rw [if_neg (by omega), if_neg (by omega), if_neg (by omega), if_neg (by omega),
    if_neg (by omega), if_neg (by omega)]
  by_cases hfirst : k = 0
  · subst hfirst
    rfl
  · rw [if_neg (by omega), if_neg hfirst]
    by_cases hlast : k = 4
    · subst hlast
      rfl
    · rw [if_pos (by omega), if_neg hlast, Nat.add_sub_cancel_left]

theorem decodeFrom_two {n : Nat} (hlow : 0x80 ≤ n) (hhigh : n < 0x800) (rest : Bytes) :
    decodeFrom none ((0xC0 + n / 0x40).toUInt8 :: (0x80 + n % 0x40).toUInt8 :: rest) =
      Char.ofNat n :: decodeFrom none rest := by
  have hlast : (0x80 + n % 0x40).toUInt8.toNat = 0x80 + n % 0x40 := toNat_toUInt8 (by omega)
  rw [decodeFrom, firstByte_two (by omega) (by omega)]
  simp only
  rw [decodeFrom_last rest (by omega)]
  congr 2
  omega

theorem decodeFrom_three {n : Nat} (hlow : 0x800 ≤ n) (hhigh : n < 0x10000)
    (hvalid : n < 0xD800 ∨ 0xDFFF < n) (rest : Bytes) :
    decodeFrom none ((0xE0 + n / 0x1000).toUInt8 :: (0x80 + n / 0x40 % 0x40).toUInt8 ::
        (0x80 + n % 0x40).toUInt8 :: rest) =
      Char.ofNat n :: decodeFrom none rest := by
  have hsecond : (0x80 + n / 0x40 % 0x40).toUInt8.toNat = 0x80 + n / 0x40 % 0x40 :=
    toNat_toUInt8 (by omega)
  have hlast : (0x80 + n % 0x40).toUInt8.toNat = 0x80 + n % 0x40 := toNat_toUInt8 (by omega)
  rw [decodeFrom, firstByte_three (by omega)]
  simp only
  rw [decodeFrom_more _ (by split <;> split <;> omega), decodeFrom_last rest (by omega)]
  congr 2
  omega

theorem decodeFrom_four {n : Nat} (hlow : 0x10000 ≤ n) (hhigh : n < 0x110000) (rest : Bytes) :
    decodeFrom none ((0xF0 + n / 0x40000).toUInt8 :: (0x80 + n / 0x1000 % 0x40).toUInt8 ::
        (0x80 + n / 0x40 % 0x40).toUInt8 :: (0x80 + n % 0x40).toUInt8 :: rest) =
      Char.ofNat n :: decodeFrom none rest := by
  have hsecond : (0x80 + n / 0x1000 % 0x40).toUInt8.toNat = 0x80 + n / 0x1000 % 0x40 :=
    toNat_toUInt8 (by omega)
  have hthird : (0x80 + n / 0x40 % 0x40).toUInt8.toNat = 0x80 + n / 0x40 % 0x40 :=
    toNat_toUInt8 (by omega)
  have hlast : (0x80 + n % 0x40).toUInt8.toNat = 0x80 + n % 0x40 := toNat_toUInt8 (by omega)
  rw [decodeFrom, firstByte_four (by omega)]
  simp only
  rw [decodeFrom_more _ (by split <;> split <;> omega), decodeFrom_more _ (by omega),
    decodeFrom_last rest (by omega)]
  congr 2
  omega

@[simp] theorem decodeFrom_encodeChar (c : Char) (rest : Bytes) :
    decodeFrom none (encodeChar c ++ rest) = c :: decodeFrom none rest := by
  have hvalid : c.toNat < 0xD800 ∨ 0xDFFF < c.toNat ∧ c.toNat < 0x110000 := c.valid
  rw [encodeChar]
  by_cases hone : c.toNat < 0x80
  · have hbyte : c.toNat.toUInt8.toNat = c.toNat := toNat_toUInt8 (by omega)
    have hfirst : firstByte c.toNat.toUInt8 = .inl c := by
      rw [firstByte, if_pos (by omega), hbyte, Char.ofNat_toNat]
    rw [if_pos hone, List.singleton_append, decodeFrom, hfirst]
  · rw [if_neg hone]
    by_cases htwo : c.toNat < 0x800
    · rw [if_pos htwo]
      exact (decodeFrom_two (by omega) htwo rest).trans (by rw [Char.ofNat_toNat])
    · rw [if_neg htwo]
      by_cases hthree : c.toNat < 0x10000
      · rw [if_pos hthree]
        exact (decodeFrom_three (by omega) hthree (by omega) rest).trans (by rw [Char.ofNat_toNat])
      · rw [if_neg hthree]
        exact (decodeFrom_four (by omega) (by omega) rest).trans (by rw [Char.ofNat_toNat])

/-- Reading the bytes of a text gives the text. -/
@[simp] theorem decodeLossy_encode (s : String) : decodeLossy (encode s) = s := by
  have hchars : ∀ cs : List Char, decodeFrom none (cs.flatMap encodeChar) = cs := by
    intro cs
    induction cs with
    | nil => rfl
    | cons c cs ih => rw [List.flatMap_cons, decodeFrom_encodeChar, ih]
  rw [decodeLossy, encode, hchars, String.ofList_toList]

@[simp] theorem encode_append (s t : String) : encode (s ++ t) = encode s ++ encode t := by
  rw [encode, String.toList_append, List.flatMap_append]
  rfl

/-! ## Escapes -/

theorem unescapeBytes_cons {b : UInt8} (h : b ≠ 0x25) (rest : Bytes) :
    unescapeBytes (b :: rest) = b :: unescapeBytes rest := by
  rw [unescapeBytes]
  rintro x y tail rfl
  exact absurd rfl h

theorem encodeChar_ascii {c : Char} (h : c.toNat < 0x80) : encodeChar c = [c.toNat.toUInt8] := by
  rw [encodeChar, if_pos h]

theorem hexByte?_hexDigit : ∀ n < 16, hexByte? (hexDigit n).toNat.toUInt8 = some n := by decide

theorem hexDigit_ascii : ∀ n < 16, (hexDigit n).toNat < 0x80 := by decide

/-- An escaped byte is read back. -/
theorem unescapeBytes_escape (b : UInt8) (rest : Bytes) :
    unescapeBytes (['%', hexDigit (b.toNat / 16), hexDigit (b.toNat % 16)].flatMap encodeChar ++
      rest) = b :: unescapeBytes rest := by
  have hb : b.toNat < 256 := b.toNat_lt
  have hbytes : ['%', hexDigit (b.toNat / 16), hexDigit (b.toNat % 16)].flatMap encodeChar =
      [0x25, (hexDigit (b.toNat / 16)).toNat.toUInt8, (hexDigit (b.toNat % 16)).toNat.toUInt8] := by
    rw [List.flatMap_cons, List.flatMap_cons, List.flatMap_singleton,
      encodeChar_ascii (hexDigit_ascii _ (by omega)), encodeChar_ascii (hexDigit_ascii _ (by omega))]
    rfl
  have hvalue : (b.toNat / 16 * 16 + b.toNat % 16).toUInt8 = b := by
    rw [Nat.div_add_mod']
    exact UInt8.ofNat_toNat
  rw [hbytes, List.cons_append, List.cons_append, List.singleton_append, unescapeBytes,
    hexByte?_hexDigit _ (by omega), hexByte?_hexDigit _ (by omega)]
  simp only [hvalue]

theorem unescapeBytes_escapeByte {keep : Char → Bool} (hkeep : keep '%' = false) (b : UInt8)
    (rest : Bytes) :
    unescapeBytes ((escapeByte keep b).flatMap encodeChar ++ rest) = b :: unescapeBytes rest := by
  rw [escapeByte]
  by_cases hkept : b.toNat < 0x80 && keep (Char.ofNat b.toNat)
  · rw [if_pos hkept]
    rw [Bool.and_eq_true, decide_eq_true_eq] at hkept
    have hchar : (Char.ofNat b.toNat).toNat = b.toNat := by
      rw [Char.ofNat, dif_pos (Or.inl (by omega))]
      rfl
    have hbyte : b ≠ 0x25 := by
      rintro rfl
      exact Bool.false_ne_true (hkeep.symm.trans hkept.2)
    rw [List.flatMap_singleton, encodeChar_ascii (by omega), hchar, List.singleton_append]
    exact (congrArg (fun x => unescapeBytes (x :: rest)) UInt8.ofNat_toNat).trans
      (unescapeBytes_cons hbyte rest)
  · rw [if_neg hkept]
    exact unescapeBytes_escape b rest

/-! ## What texts with escapes stand for -/

/-- A text with escapes stands for another, whatever comes behind it. -/
def StandsFor (written s : String) : Prop :=
  ∀ rest, unescapeBytes (encode written ++ rest) = encode s ++ unescapeBytes rest

theorem standsFor_percentEncode {keep : Char → Bool} (hkeep : keep '%' = false) (s : String) :
    StandsFor (percentEncode keep s) s := by
  have hbytes : ∀ bs rest : Bytes,
      unescapeBytes ((bs.flatMap (escapeByte keep)).flatMap encodeChar ++ rest) =
        bs ++ unescapeBytes rest := by
    intro bs rest
    induction bs with
    | nil => rfl
    | cons b bs ih =>
        rw [List.flatMap_cons, List.flatMap_append, List.append_assoc,
          unescapeBytes_escapeByte hkeep, ih, List.cons_append]
  intro rest
  rw [percentEncode, encode, String.toList_ofList]
  exact hbytes (encode s) rest

theorem standsFor_quotePath (s : String) : StandsFor (quotePath s) s :=
  standsFor_percentEncode (by decide) s

theorem standsFor_quoteSegment (s : String) : StandsFor (quoteSegment s) s :=
  standsFor_percentEncode (by decide) s

theorem standsFor_empty : StandsFor "" "" := fun _ => rfl

namespace StandsFor

variable {u v s t : String}

theorem append (hu : StandsFor u s) (hv : StandsFor v t) : StandsFor (u ++ v) (s ++ t) := by
  intro rest
  rw [encode_append, encode_append, List.append_assoc, hu, hv, List.append_assoc]

/-- Reading the escapes of a text gives what it stands for. -/
theorem percentDecode_eq (h : StandsFor u s) : percentDecode u = s := by
  have hbytes := h []
  rw [List.append_nil] at hbytes
  rw [percentDecode, hbytes, unescapeBytes, List.append_nil, decodeLossy_encode]

end StandsFor

/-- Pieces that are quoted as segments stand for themselves between separators. -/
theorem standsFor_joinWith_quoteSegment (pieces : List String) :
    StandsFor (joinWith "/" (pieces.map quoteSegment)) (joinWith "/" pieces) := by
  have hslash : StandsFor "/" "/" := fun rest => unescapeBytes_cons (by decide) rest
  induction pieces with
  | nil => exact standsFor_empty
  | cons piece pieces ih =>
      cases pieces with
      | nil => exact standsFor_quoteSegment piece
      | cons next pieces => exact ((standsFor_quoteSegment piece).append hslash).append ih

end WebDispatch.Text
