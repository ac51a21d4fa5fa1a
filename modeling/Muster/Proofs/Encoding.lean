import Muster.Text.Utf8

/-!
# Texts as bytes and back

Reading gives back every text from its bytes, and no replacement character is put in. A character is
told from its first byte, which gives the range of the second one, and every further byte adds six
bits.
-/

namespace Muster.Text

/-- The bytes of a text. -/
def utf8 (cs : List Char) : List Nat := (String.ofList cs).toUTF8.data.toList.map UInt8.toNat

/-- The bytes of a text are those of its characters in turn. -/
theorem utf8_eq_flatMap (cs : List Char) :
    utf8 cs = cs.flatMap fun c => (String.utf8EncodeChar c).map UInt8.toNat := by
  rw [utf8, String.toUTF8, String.toByteArray_ofList, List.utf8Encode, List.data_toByteArray,
    List.map_flatMap]

/-- The bytes of a text begin with those of its first character. -/
theorem utf8_cons (c : Char) (cs : List Char) :
    utf8 (c :: cs) = (String.utf8EncodeChar c).map UInt8.toNat ++ utf8 cs := by
  rw [utf8_eq_flatMap, utf8_eq_flatMap, List.flatMap_cons]

/-! ## First bytes -/

section Lead

variable {v : Nat}

/-- The first byte of a character of two bytes gives its upper bits. -/
theorem leadByte?_two (hlow : 0x80 ≤ v) (hhigh : v ≤ 0x7ff) :
    leadByte? (v / 64 % 32 + 192) = some (v / 64, 0x80, 0xbf, 0) := by
  have hbits : v / 64 % 32 + 192 - 0xc0 = v / 64 := by omega
  rw [leadByte?, if_pos (by omega), hbits]

/-- The second byte rules out what fits into two bytes, and surrogates. -/
theorem exists_leadByte?_three (hlow : 0x800 ≤ v) (hhigh : v ≤ 0xffff)
    (hvalid : v < 0xd800 ∨ 0xdfff < v) :
    ∃ low high, leadByte? (v / 4096 % 16 + 224) = some (v / 4096, low, high, 1) ∧
      low ≤ v / 64 % 64 + 128 ∧ v / 64 % 64 + 128 ≤ high := by
  rw [leadByte?, if_neg (by omega)]
  by_cases hfirst : v / 4096 = 0
  · exact ⟨0xa0, 0xbf, by simp [hfirst], by omega, by omega⟩
  rw [if_neg (by omega)]
  by_cases hsurrogate : v / 4096 = 13
  · exact ⟨0x80, 0x9f, by simp [hsurrogate], by omega, by omega⟩
  have hbits : v / 4096 % 16 + 224 - 0xe0 = v / 4096 := by omega
  rw [if_neg (by omega), if_pos (by omega), hbits]
  exact ⟨0x80, 0xbf, rfl, by omega, by omega⟩

/-- The second byte rules out what fits into three bytes, and what is beyond the last character. -/
theorem exists_leadByte?_four (hlow : 0x10000 ≤ v) (hhigh : v < 0x110000) :
    ∃ low high, leadByte? (v / 262144 % 8 + 240) = some (v / 262144, low, high, 2) ∧
      low ≤ v / 4096 % 64 + 128 ∧ v / 4096 % 64 + 128 ≤ high := by
  rw [leadByte?, if_neg (by omega), if_neg (by omega), if_neg (by omega), if_neg (by omega)]
  by_cases hfirst : v / 262144 = 0
  · exact ⟨0x90, 0xbf, by simp [hfirst], by omega, by omega⟩
  rw [if_neg (by omega)]
  by_cases hlast : v / 262144 = 4
  · exact ⟨0x80, 0x8f, by simp [hlast], by omega, by omega⟩
  have hbits : v / 262144 % 8 + 240 - 0xf0 = v / 262144 := by omega
  rw [if_pos (by omega), hbits]
  exact ⟨0x80, 0xbf, rfl, by omega, by omega⟩

end Lead

/-! ## Characters -/

section Read

variable {done : List Char} {b bits low high : Nat} {rest : List Nat}

/-- A byte below 128 is a character of its own. -/
theorem readUtf8From_ascii (h : b < 0x80) :
    readUtf8From done .none (b :: rest) = readUtf8From (Char.ofNat b :: done) .none rest := by
  rw [readUtf8From, startByte, if_pos h]
  rfl

/-- A first byte of several opens a character. -/
theorem readUtf8From_lead {more : Nat} (hb : 0x80 ≤ b)
    (h : leadByte? b = some (bits, low, high, more)) :
    readUtf8From done .none (b :: rest) = readUtf8From done (.some bits low high more) rest := by
  rw [readUtf8From, startByte, if_neg (Nat.not_lt.mpr hb), h]
  rfl

/-- The last byte that is awaited ends a character. -/
theorem readUtf8From_last (hlow : low ≤ b) (hhigh : b ≤ high) :
    readUtf8From done (.some bits low high 0) (b :: rest) =
      readUtf8From (Char.ofNat (64 * bits + (b - 0x80)) :: done) .none rest := by
  rw [readUtf8From, if_pos ⟨hlow, hhigh⟩]

/-- A byte that others are to follow adds its bits. -/
theorem readUtf8From_more {more : Nat} (hlow : low ≤ b) (hhigh : b ≤ high) :
    readUtf8From done (.some bits low high (more + 1)) (b :: rest) =
      readUtf8From done (.some (64 * bits + (b - 0x80)) 0x80 0xbf more) rest := by
  rw [readUtf8From, if_pos ⟨hlow, hhigh⟩]

/-- The bytes of a character are read as that character. -/
theorem readUtf8From_utf8EncodeChar (c : Char) :
    readUtf8From done .none ((String.utf8EncodeChar c).map UInt8.toNat ++ rest) =
      readUtf8From (c :: done) .none rest := by
  have hvalid : c.val.toNat < 0xd800 ∨ 0xdfff < c.val.toNat ∧ c.val.toNat < 0x110000 := c.valid
  have hc : Char.ofNat c.val.toNat = c := Char.ofNat_toNat c
  rw [String.utf8EncodeChar]
  generalize c.val.toNat = v at hvalid hc
  have hbyte : ∀ {n}, n < 256 → (UInt8.ofNat n).toNat = n := fun hn => UInt8.toNat_ofNat_of_lt hn
  split
  next h =>
    rw [List.map_singleton, hbyte (by omega), List.singleton_append, readUtf8From_ascii (by omega),
      hc]
  split
  next hlow hhigh =>
    have hsum : 64 * (v / 64) + (v % 64 + 128 - 0x80) = v := by omega
    simp only [List.map_cons, List.map_nil, List.cons_append, List.nil_append]
    rw [hbyte (by omega), hbyte (by omega),
      readUtf8From_lead (by omega) (leadByte?_two (by omega) hhigh),
      readUtf8From_last (by omega) (by omega), hsum, hc]
  split
  next hlow hhigh =>
    obtain ⟨low, high, hlead, hsecond, hsecond'⟩ :=
      exists_leadByte?_three (v := v) (by omega) hhigh (by omega)
    have hsum : 64 * (64 * (v / 4096) + (v / 64 % 64 + 128 - 0x80)) + (v % 64 + 128 - 0x80) =
        v := by
      omega
    simp only [List.map_cons, List.map_nil, List.cons_append, List.nil_append]
    rw [hbyte (by omega), hbyte (by omega), hbyte (by omega), readUtf8From_lead (by omega) hlead,
      readUtf8From_more hsecond hsecond', readUtf8From_last (by omega) (by omega), hsum, hc]
  next hlow =>
    obtain ⟨low, high, hlead, hsecond, hsecond'⟩ :=
      exists_leadByte?_four (v := v) (by omega) (by omega)
    have hsum : 64 * (64 * (64 * (v / 262144) + (v / 4096 % 64 + 128 - 0x80)) +
        (v / 64 % 64 + 128 - 0x80)) + (v % 64 + 128 - 0x80) = v := by omega
    simp only [List.map_cons, List.map_nil, List.cons_append, List.nil_append]
    rw [hbyte (by omega), hbyte (by omega), hbyte (by omega), hbyte (by omega),
      readUtf8From_lead (by omega) hlead, readUtf8From_more hsecond hsecond',
      readUtf8From_more (by omega) (by omega), readUtf8From_last (by omega) (by omega), hsum, hc]

/-- The bytes of a text are read as that text. -/
theorem readUtf8From_utf8 (cs : List Char) :
    readUtf8From done .none (utf8 cs) = done.reverse ++ cs := by
  induction cs generalizing done with
  | nil =>
    rw [List.append_nil]
    rfl
  | cons c cs ih => rw [utf8_cons, readUtf8From_utf8EncodeChar, ih, List.reverse_cons,
      List.append_assoc, List.singleton_append]

end Read

/-- Reading undoes writing. -/
theorem readUtf8_utf8 (cs : List Char) : readUtf8 (utf8 cs) = cs := readUtf8From_utf8 cs

end Muster.Text
