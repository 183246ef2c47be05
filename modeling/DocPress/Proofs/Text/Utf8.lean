import DocPress.Text.Utf8
import Mathlib.Tactic.SplitIfs

namespace DocPress.Text.Utf8

variable {n a m : Nat} {c : CodePoint} {rest : Bytes}

theorem toNat_byte (h : n < 0x100) : (byte n).toNat = n := by
  rw [byte, UInt8.toNat_ofNat', Nat.mod_eq_of_lt h]

theorem byte_lt_iff (h : n < 0x100) (b : UInt8) : byte n < b ↔ n < b.toNat := by
  rw [UInt8.lt_iff_toNat_lt, toNat_byte h]

theorem le_byte_iff (h : n < 0x100) (b : UInt8) : b ≤ byte n ↔ b.toNat ≤ n := by
  rw [UInt8.le_iff_toNat_le, toNat_byte h]

theorem byte_eq_iff (h : n < 0x100) (b : UInt8) : byte n = b ↔ n = b.toNat := by
  rw [← UInt8.toNat_inj, toNat_byte h]

theorem isContinuation_byte (h : m < 0x40) : isContinuation (byte (0x80 + m)) = true := by
  have hm : 0x80 + m < 0x100 := by omega
  simp only [isContinuation, Bool.and_eq_true, decide_eq_true_eq, le_byte_iff hm, byte_lt_iff hm,
    UInt8.reduceToNat]
  omega

theorem continuationBits_byte (h : m < 0x40) : continuationBits (byte (0x80 + m)) = m := by
  rw [continuationBits, toNat_byte (by omega)]
  omega

/-- Where a first byte says something about the second one, the second one has to be so. -/
theorem mayFollow_byte (ha : a < 0x100) (hm : m < 0x40) (hE0 : a = 0xE0 → 0x20 ≤ m)
    (hED : a = 0xED → m < 0x20) (hF0 : a = 0xF0 → 0x10 ≤ m) (hF4 : a = 0xF4 → m < 0x10) :
    mayFollow (byte a) (byte (0x80 + m)) = true := by
  have hb : 0x80 + m < 0x100 := by omega
  rw [mayFollow, isContinuation_byte hm, Bool.true_and]
  simp only [beq_iff_eq, byte_eq_iff ha, UInt8.reduceToNat]
  split_ifs <;> simp only [decide_eq_true_eq, le_byte_iff hb, byte_lt_iff hb, UInt8.reduceToNat] <;>
    omega

theorem ofNat_val (c : CodePoint) : CodePoint.ofNat c.val = c := by
  rw [CodePoint.ofNat, CodePoint.ofNat?, dif_pos c.lt]
  rfl

theorem decodePoint_one (h : n < 0x80) : decodePoint (byte n) rest = .ok (.ofNat n, rest) := by
  have hn : n < 0x100 := by omega
  unfold decodePoint
  simp only [byte_lt_iff hn, UInt8.reduceToNat]
  rw [if_pos h, toNat_byte hn]

theorem decodePoint_two (h : 0x80 ≤ n) (h' : n < 0x800) :
    decodePoint (byte (0xC0 + n / 0x40)) (byte (0x80 + n % 0x40) :: rest) = .ok (.ofNat n, rest) := by
  have ha : 0xC0 + n / 0x40 < 0x100 := by omega
  have hm : n % 0x40 < 0x40 := by omega
  have hbits : (0xC0 + n / 0x40) % 0x20 * 0x40 + n % 0x40 = n := by omega
  unfold decodePoint
  simp only [byte_lt_iff ha, UInt8.reduceToNat]
  rw [if_neg (by omega), if_neg (by omega), if_pos (by omega)]
  simp only [isContinuation_byte hm, if_true, continuationBits_byte hm, toNat_byte ha, hbits]

theorem decodePoint_three (h : 0x800 ≤ n) (h' : n < 0x10000)
    (hs : ¬(0xD800 ≤ n ∧ n ≤ 0xDFFF)) :
    decodePoint (byte (0xE0 + n / 0x1000))
      (byte (0x80 + n / 0x40 % 0x40) :: byte (0x80 + n % 0x40) :: rest) = .ok (.ofNat n, rest) := by
  have ha : 0xE0 + n / 0x1000 < 0x100 := by omega
  have hm : n / 0x40 % 0x40 < 0x40 := by omega
  have hl : n % 0x40 < 0x40 := by omega
  have hfollow := mayFollow_byte ha hm (by omega) (by omega) (by omega) (by omega)
  have hbits : (0xE0 + n / 0x1000) % 0x10 * 0x1000 + n / 0x40 % 0x40 * 0x40 + n % 0x40 = n := by
    omega
  unfold decodePoint
  simp only [byte_lt_iff ha, UInt8.reduceToNat]
  rw [if_neg (by omega), if_neg (by omega), if_neg (by omega), if_pos (by omega)]
  simp only [hfollow, Bool.not_true, Bool.false_eq_true, if_false, isContinuation_byte hl, if_true,
    continuationBits_byte hm, continuationBits_byte hl, toNat_byte ha, hbits]

theorem decodePoint_four (h : 0x10000 ≤ n) (h' : n < 0x110000) :
    decodePoint (byte (0xF0 + n / 0x40000))
      (byte (0x80 + n / 0x1000 % 0x40) :: byte (0x80 + n / 0x40 % 0x40) :: byte (0x80 + n % 0x40) ::
        rest) = .ok (.ofNat n, rest) := by
  have ha : 0xF0 + n / 0x40000 < 0x100 := by omega
  have hk : n / 0x1000 % 0x40 < 0x40 := by omega
  have hm : n / 0x40 % 0x40 < 0x40 := by omega
  have hl : n % 0x40 < 0x40 := by omega
  have hfollow := mayFollow_byte ha hk (by omega) (by omega) (by omega) (by omega)
  have hbits : (0xF0 + n / 0x40000) % 8 * 0x40000 + n / 0x1000 % 0x40 * 0x1000 +
      n / 0x40 % 0x40 * 0x40 + n % 0x40 = n := by omega
  unfold decodePoint
  simp only [byte_lt_iff ha, UInt8.reduceToNat]
  rw [if_neg (by omega), if_neg (by omega), if_neg (by omega), if_neg (by omega), if_pos (by omega)]
  simp only [hfollow, Bool.not_true, Bool.false_eq_true, if_false, isContinuation_byte hm,
    isContinuation_byte hl, if_true, continuationBits_byte hk, continuationBits_byte hm,
    continuationBits_byte hl, toNat_byte ha, hbits]

/-- The bytes of a code point are read as this code point, whatever comes after them. -/
theorem decodePoint_encodePoint (hc : c.isSurrogate = false) (rest : Bytes) :
    ∃ first more, encodePoint c = first :: more ∧
      decodePoint first (more ++ rest) = .ok (c, rest) := by
  have hs : ¬(0xD800 ≤ c.val ∧ c.val ≤ 0xDFFF) := by simpa [CodePoint.isSurrogate] using hc
  have hdecoded : ∀ {first more}, decodePoint first (more ++ rest) = .ok (.ofNat c.val, rest) →
      decodePoint first (more ++ rest) = .ok (c, rest) := fun h => by rw [h, ofNat_val]
  unfold encodePoint
  dsimp only
  by_cases h1 : c.val < 0x80
  · rw [if_pos h1]
    exact ⟨_, _, rfl, hdecoded (decodePoint_one h1)⟩
  rw [if_neg h1]
  by_cases h2 : c.val < 0x800
  · rw [if_pos h2]
    exact ⟨_, _, rfl, hdecoded (decodePoint_two (Nat.le_of_not_lt h1) h2)⟩
  rw [if_neg h2]
  by_cases h3 : c.val < 0x10000
  · rw [if_pos h3]
    exact ⟨_, _, rfl, hdecoded (decodePoint_three (Nat.le_of_not_lt h2) h3 hs)⟩
  · rw [if_neg h3]
    exact ⟨_, _, rfl, hdecoded (decodePoint_four (Nat.le_of_not_lt h3) c.lt)⟩

theorem decodeInto_flatMap {t acc : Text} (ht : t.isUnicode = true) {fuel : Nat}
    (hf : (t.flatMap encodePoint).length ≤ fuel) (position : Nat) :
    decodeInto acc fuel position (t.flatMap encodePoint) = .ok (acc.reverse ++ t) := by
  induction t generalizing acc fuel position with
  | nil => cases fuel <;> simp [decodeInto]
  | cons c t ih =>
    obtain ⟨hc, ht⟩ : c.isSurrogate = false ∧ Text.isUnicode t = true := by
      simpa [Text.isUnicode] using ht
    obtain ⟨first, more, hbytes, hdecode⟩ := decodePoint_encodePoint hc (t.flatMap encodePoint)
    rw [List.flatMap_cons, hbytes, List.cons_append] at hf ⊢
    simp only [List.length_cons, List.length_append] at hf
    cases fuel with
    | zero => omega
    | succ fuel =>
      rw [decodeInto, hdecode]
      dsimp only
      rw [ih ht (by omega), List.reverse_cons, List.append_assoc, List.singleton_append]

theorem decode_of_encode? {t : Text} {bytes : Bytes} (h : encode? t = some bytes) :
    decode bytes = .ok t := by
  unfold encode? at h
  split at h
  · cases h
    exact decodeInto_flatMap ‹_› (Nat.le_refl _) 0
  · cases h

end DocPress.Text.Utf8
