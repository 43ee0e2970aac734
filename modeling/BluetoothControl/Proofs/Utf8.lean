import BluetoothControl.Text.Utf8

/-!
# UTF-8 read back

A text in UTF-8 is read back as it is (`decodeUtf8_encode`): the first byte of a character says how
many more are owed and between which bounds the next one lies, and each of these brings six bits.
-/

namespace BluetoothControl.Text

theorem toNat_byte {n : Nat} (h : n < 256) : (UInt8.ofNat n).toNat = n := by
  rw [UInt8.toNat_ofNat']
  omega

/-! ## One byte -/

namespace Utf8State

/-- The first byte of a character of two. -/
theorem start_two {n : Nat} (hlow : 0xC2 ≤ n) (hhigh : n < 0xE0) :
    start (UInt8.ofNat n) = ([], .within 1 0x80 0xBF (n - 0xC0)) := by
  have hn : (UInt8.ofNat n).toNat = n := toNat_byte (by omega)
  simp only [start, UInt8.lt_iff_toNat_lt, hn, UInt8.reduceToNat]
  rw [if_neg (by omega), if_neg (by omega), if_pos (by omega)]

/-- The first byte of a character of three.  The bounds on the next one leave out what two bytes can
hold, and surrogates. -/
theorem start_three {n : Nat} (hlow : 0xE0 ≤ n) (hhigh : n < 0xF0) :
    start (UInt8.ofNat n) = ([], .within 2 (if n = 0xE0 then 0xA0 else 0x80)
      (if n = 0xED then 0x9F else 0xBF) (n - 0xE0)) := by
  have hn : (UInt8.ofNat n).toNat = n := toNat_byte (by omega)
  simp only [start, UInt8.lt_iff_toNat_lt, ← UInt8.toNat_inj, hn, UInt8.reduceToNat]
  rw [if_neg (by omega), if_neg (by omega), if_neg (by omega)]
  by_cases h0 : n = 0xE0
  · simp [h0]
  · by_cases hd : n = 0xED
    · simp [hd]
    · simp [h0, hd, hhigh]

/-- The first byte of a character of four.  The bounds on the next one leave out what three bytes
can hold, and what is beyond the last character. -/
theorem start_four {n : Nat} (hlow : 0xF0 ≤ n) (hhigh : n ≤ 0xF4) :
    start (UInt8.ofNat n) = ([], .within 3 (if n = 0xF0 then 0x90 else 0x80)
      (if n = 0xF4 then 0x8F else 0xBF) (n - 0xF0)) := by
  have hn : (UInt8.ofNat n).toNat = n := toNat_byte (by omega)
  simp only [start, UInt8.lt_iff_toNat_lt, ← UInt8.toNat_inj, hn, UInt8.reduceToNat]
  rw [if_neg (by omega), if_neg (by omega), if_neg (by omega), if_neg (by omega),
    if_neg (by omega), if_neg (by omega)]
  by_cases h0 : n = 0xF0
  · simp [h0]
  · by_cases h4 : n = 0xF4
    · simp [h4]
    · have hlt : n < 0xF4 := by omega
      simp [h0, h4, hlt]

/-- A byte that is owed and within its bounds. -/
theorem feed_within {owed bits n : Nat} {low high : UInt8} (hn : n < 256) (hlow : low.toNat ≤ n)
    (hhigh : n ≤ high.toNat) :
    feed (.within owed low high bits) (UInt8.ofNat n) =
      if owed ≤ 1 then ([Char.ofNat (bits * 64 + n % 64)], .fresh)
      else ([], .within (owed - 1) 0x80 0xBF (bits * 64 + n % 64)) := by
  have hin : (decide (low ≤ UInt8.ofNat n) && decide (UInt8.ofNat n ≤ high)) = true := by
    simp only [Bool.and_eq_true, decide_eq_true_eq, UInt8.le_iff_toNat_le, toNat_byte hn]
    exact ⟨hlow, hhigh⟩
  unfold feed
  dsimp only
  rw [if_pos hin, toNat_byte hn]

end Utf8State

/-! ## One character -/

open Utf8State

variable {bits n : Nat} {low high : UInt8}

/-- The last byte of a character. -/
theorem decodeUtf8From_last (hlow : low.toNat ≤ n % 64 + 0x80) (hhigh : n % 64 + 0x80 ≤ high.toNat)
    (rest : List UInt8) :
    decodeUtf8From (.within 1 low high bits) (UInt8.ofNat (n % 64 + 0x80) :: rest) =
      Char.ofNat (bits * 64 + n % 64) :: decodeUtf8From .fresh rest := by
  have hsix : (n % 64 + 0x80) % 64 = n % 64 := by omega
  rw [decodeUtf8From, feed_within (by omega) hlow hhigh, if_pos (by omega), hsix]
  rfl

/-- A byte of a character that is not its last. -/
theorem decodeUtf8From_next {owed : Nat} (hlow : low.toNat ≤ n % 64 + 0x80)
    (hhigh : n % 64 + 0x80 ≤ high.toNat) (rest : List UInt8) :
    decodeUtf8From (.within (owed + 2) low high bits) (UInt8.ofNat (n % 64 + 0x80) :: rest) =
      decodeUtf8From (.within (owed + 1) 0x80 0xBF (bits * 64 + n % 64)) rest := by
  have hsix : (n % 64 + 0x80) % 64 = n % 64 := by omega
  rw [decodeUtf8From, feed_within (by omega) hlow hhigh, if_neg (by omega), hsix]
  rfl

theorem decodeUtf8From_first {b : UInt8} {s : Utf8State} (h : start b = ([], s))
    (rest : List UInt8) : decodeUtf8From .fresh (b :: rest) = decodeUtf8From s rest := by
  rw [decodeUtf8From, feed, h]
  rfl

/-- A character is read back, whatever follows it. -/
theorem decodeUtf8From_encodeChar (c : Char) (rest : List UInt8) :
    decodeUtf8From .fresh (String.utf8EncodeChar c ++ rest) =
      c :: decodeUtf8From .fresh rest := by
  have hvalid : c.toNat < 0xD800 ∨ 0xDFFF < c.toNat ∧ c.toNat < 0x110000 := c.valid
  have hc : Char.ofNat c.toNat = c := Char.ofNat_toNat c
  unfold String.utf8EncodeChar
  dsimp only
  rw [show c.val.toNat = c.toNat from rfl]
  generalize c.toNat = v at hvalid hc
  split
  · -- One byte.
    have hb : UInt8.ofNat v < 0x80 := by
      simp only [UInt8.lt_iff_toNat_lt, toNat_byte (show v < 256 by omega), UInt8.reduceToNat]
      omega
    have hread := decodeUtf8_ascii_cons (UInt8.ofNat v) hb rest
    rw [toNat_byte (by omega), hc] at hread
    exact hread
  · split
    · -- Two bytes.
      have hv : (v / 64 % 32 + 0xC0 - 0xC0) * 64 + v % 64 = v := by omega
      simp only [List.cons_append, List.nil_append]
      rw [decodeUtf8From_first (start_two (by omega) (by omega)),
        decodeUtf8From_last (by simp) (by simp; omega), hv, hc]
    · split
      · -- Three bytes.
        have hv : ((v / 4096 % 16 + 0xE0 - 0xE0) * 64 + v / 64 % 64) * 64 + v % 64 = v := by omega
        simp only [List.cons_append, List.nil_append]
        rw [decodeUtf8From_first (start_three (by omega) (by omega)),
          decodeUtf8From_next (by split <;> simp; omega) (by split <;> (simp; omega)),
          decodeUtf8From_last (by simp) (by simp; omega), hv, hc]
      · -- Four bytes.
        have hv : (((v / 262144 % 8 + 0xF0 - 0xF0) * 64 + v / 4096 % 64) * 64 + v / 64 % 64) * 64 +
            v % 64 = v := by omega
        simp only [List.cons_append, List.nil_append]
        rw [decodeUtf8From_first (start_four (by omega) (by omega)),
          decodeUtf8From_next (by split <;> simp; omega) (by split <;> (simp; omega)),
          decodeUtf8From_next (by simp) (by simp; omega),
          decodeUtf8From_last (by simp) (by simp; omega), hv, hc]

/-! ## Texts -/

/-- A text is read back from its bytes. -/
theorem decodeUtf8_encode (cs : List Char) : decodeUtf8 (encodeUtf8 cs) = cs := by
  unfold decodeUtf8 encodeUtf8
  induction cs with
  | nil => rfl
  | cons c rest ih => rw [List.flatMap_cons, decodeUtf8From_encodeChar, ih]

theorem byte_ne_zero {n : Nat} (hpos : 0 < n) (h : n < 256) : UInt8.ofNat n ≠ 0 := by
  intro hzero
  have hn := congrArg UInt8.toNat hzero
  rw [toNat_byte h] at hn
  simp only [UInt8.reduceToNat] at hn
  omega

/-- Only the zero character has a zero byte. -/
theorem ne_zero_of_mem_encodeChar {c : Char} (hc : c ≠ Char.ofNat 0) :
    ∀ b ∈ String.utf8EncodeChar c, b ≠ 0 := by
  have hpos : 0 < c.val.toNat := by
    rw [Nat.pos_iff_ne_zero]
    intro hzero
    apply hc
    rw [← hzero]
    exact (Char.ofNat_toNat c).symm
  unfold String.utf8EncodeChar
  dsimp only
  intro b hb
  split at hb
  · rw [List.mem_singleton] at hb
    subst hb
    exact byte_ne_zero hpos (by omega)
  · split at hb
    · simp only [List.mem_cons, List.not_mem_nil, or_false] at hb
      rcases hb with rfl | rfl <;> exact byte_ne_zero (by omega) (by omega)
    · split at hb
      · simp only [List.mem_cons, List.not_mem_nil, or_false] at hb
        rcases hb with rfl | rfl | rfl <;> exact byte_ne_zero (by omega) (by omega)
      · simp only [List.mem_cons, List.not_mem_nil, or_false] at hb
        rcases hb with rfl | rfl | rfl | rfl <;> exact byte_ne_zero (by omega) (by omega)

theorem ne_zero_of_mem_encodeUtf8 {cs : List Char} (h : Char.ofNat 0 ∉ cs) :
    ∀ b ∈ encodeUtf8 cs, b ≠ 0 := by
  intro b hb
  obtain ⟨c, hc, hb⟩ := List.mem_flatMap.mp hb
  apply ne_zero_of_mem_encodeChar _ b hb
  rintro rfl
  exact h hc

end BluetoothControl.Text
