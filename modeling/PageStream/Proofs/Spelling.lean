import Mathlib.Data.List.Basic
import PageStream.Text.Utf8

namespace PageStream.Text.Utf8

theorem byte_toNat {n : Nat} (small : n < 256) : (UInt8.ofNat n).toNat = n :=
  UInt8.toNat_ofNat_of_lt' small

def trail (bits : Nat) : UInt8 := UInt8.ofNat (0x80 + bits % 64)

theorem trail_toNat (bits : Nat) : (trail bits).toNat = 0x80 + bits % 64 :=
  byte_toNat (by omega)

theorem low6_trail (bits : Nat) : low6 (trail bits) = bits % 64 := by
  rw [low6, trail_toNat]
  omega

theorem isTail_iff {b : UInt8} : isTail b = true ↔ 0x80 ≤ b.toNat ∧ b.toNat ≤ 0xBF := by
  simp only [isTail, Bool.and_eq_true, decide_eq_true_eq, UInt8.le_iff_toNat_le]
  rfl

theorem trail_isTail (bits : Nat) : isTail (trail bits) = true := by
  rw [isTail_iff, trail_toNat]
  omega

def Leads (tails : Nat) (a b : UInt8) : Prop :=
  ∃ lead, lead? a = some lead ∧ lead.tails = tails ∧ lead.low ≤ b ∧ b ≤ lead.high

theorem leads_two {a b : UInt8} (low : 0xC2 ≤ a.toNat) (high : a.toNat ≤ 0xDF)
    (tail : isTail b = true) : Leads 1 a b := by
  have above : ¬ a < 0xC2 := UInt8.not_lt.mpr low
  have within := isTail_iff.mp tail
  exact ⟨⟨1, 0x80, 0xBF⟩,
    by simp only [lead?, above, if_false, show a ≤ 0xDF from high, if_true], rfl, within⟩

-- Short forms and surrogates are kept out by the second byte.
theorem leads_three {a b : UInt8} (low : 0xE0 ≤ a.toNat) (high : a.toNat ≤ 0xEF)
    (long : a.toNat = 0xE0 → 0xA0 ≤ b.toNat) (real : a.toNat = 0xED → b.toNat ≤ 0x9F)
    (tail : isTail b = true) : Leads 2 a b := by
  have above : ¬ a < 0xC2 := UInt8.not_lt.mpr (Nat.le_trans (by decide) low)
  have beyond : ¬ a ≤ 0xDF := UInt8.not_le.mpr (Nat.lt_of_lt_of_le (by decide) low)
  have within := isTail_iff.mp tail
  by_cases e0 : a = 0xE0
  · subst e0
    exact ⟨⟨2, 0xA0, 0xBF⟩, rfl, rfl, long rfl, within.2⟩
  by_cases ed : a = 0xED
  · subst ed
    exact ⟨⟨2, 0x80, 0x9F⟩, rfl, rfl, within.1, real rfl⟩
  exact ⟨⟨2, 0x80, 0xBF⟩,
    by simp only [lead?, above, beyond, e0, ed, if_false, show a ≤ 0xEF from high, if_true],
    rfl, within⟩

theorem leads_four {a b : UInt8} (low : 0xF0 ≤ a.toNat) (high : a.toNat ≤ 0xF4)
    (long : a.toNat = 0xF0 → 0x90 ≤ b.toNat) (real : a.toNat = 0xF4 → b.toNat ≤ 0x8F)
    (tail : isTail b = true) : Leads 3 a b := by
  have above : ¬ a < 0xC2 := UInt8.not_lt.mpr (Nat.le_trans (by decide) low)
  have beyond : ¬ a ≤ 0xDF := UInt8.not_le.mpr (Nat.lt_of_lt_of_le (by decide) low)
  have three : ¬ a ≤ 0xEF := UInt8.not_le.mpr (Nat.lt_of_lt_of_le (by decide) low)
  have e0 : a ≠ 0xE0 := by rintro rfl; exact absurd low (by decide)
  have ed : a ≠ 0xED := by rintro rfl; exact absurd low (by decide)
  have within := isTail_iff.mp tail
  by_cases f0 : a = 0xF0
  · subst f0
    exact ⟨⟨3, 0x90, 0xBF⟩, rfl, rfl, long rfl, within.2⟩
  by_cases f4 : a = 0xF4
  · subst f4
    exact ⟨⟨3, 0x80, 0x8F⟩, rfl, rfl, within.1, real rfl⟩
  have inner : a.toNat ≠ 0xF4 := fun same => f4 (UInt8.toNat_inj.mp same)
  have below : a ≤ 0xF3 := by
    show a.toNat ≤ 0xF3
    omega
  exact ⟨⟨3, 0x80, 0xBF⟩,
    by simp only [lead?, above, beyond, three, e0, ed, f0, below, if_false, if_true], rfl, within⟩

theorem first_two {a b : UInt8} (high : ¬ a < 0x80) (leads : Leads 1 a b) (rest : Bytes) :
    first a (b :: rest) = (some (two a b), 1) := by
  obtain ⟨lead, known, tails, low, top⟩ := leads
  simp only [first, high, if_false, known, UInt8.not_lt.mpr low, UInt8.not_lt.mpr top,
    tails, decide_false, Bool.or_self, Bool.false_eq_true, if_true]

theorem first_three {a b c : UInt8} (high : ¬ a < 0x80) (leads : Leads 2 a b)
    (third : isTail c = true) (rest : Bytes) :
    first a (b :: c :: rest) = (some (three a b c), 2) := by
  obtain ⟨lead, known, tails, low, top⟩ := leads
  simp only [first, high, if_false, known, UInt8.not_lt.mpr low, UInt8.not_lt.mpr top,
    tails, third, decide_false, Bool.or_self, Bool.not_true, Bool.false_eq_true, if_true,
    Nat.reduceEqDiff]

theorem first_four {a b c d : UInt8} (high : ¬ a < 0x80) (leads : Leads 3 a b)
    (third : isTail c = true) (fourth : isTail d = true) (rest : Bytes) :
    first a (b :: c :: d :: rest) = (some (four a b c d), 3) := by
  obtain ⟨lead, known, tails, low, top⟩ := leads
  simp only [first, high, if_false, known, UInt8.not_lt.mpr low, UInt8.not_lt.mpr top,
    tails, third, fourth, decide_false, Bool.or_self, Bool.not_true, Bool.false_eq_true, if_true,
    Nat.reduceEqDiff]

-- What a character is written as, by how many bytes that takes.
inductive Written (c : Char) : Bytes → Prop where
  | one (small : c.toNat < 0x80) : Written c [UInt8.ofNat c.toNat]
  | two (low : 0x80 ≤ c.toNat) (high : c.toNat < 0x800) :
      Written c [UInt8.ofNat (0xC0 + c.toNat / 64), trail c.toNat]
  | three (low : 0x800 ≤ c.toNat) (high : c.toNat < 0x10000) :
      Written c [UInt8.ofNat (0xE0 + c.toNat / 64 / 64), trail (c.toNat / 64), trail c.toNat]
  | four (low : 0x10000 ≤ c.toNat) :
      Written c [UInt8.ofNat (0xF0 + c.toNat / 64 / 64 / 64), trail (c.toNat / 64 / 64),
        trail (c.toNat / 64), trail c.toNat]

theorem encodeChar_written (c : Char) : Written c (encodeChar c) := by
  have thrice : c.toNat / 64 ^ 3 = c.toNat / 64 / 64 / 64 := by omega
  have twice : c.toNat / 64 ^ 2 = c.toNat / 64 / 64 := by omega
  unfold encodeChar
  simp only [thrice, twice, Nat.pow_zero, Nat.pow_one, Nat.div_one]
  split
  · rename_i small
    exact .one small
  · rename_i low
    split
    · rename_i high
      exact .two (Nat.le_of_not_lt low) high
    · rename_i low
      split
      · rename_i high
        exact .three (Nat.le_of_not_lt low) high
      · rename_i low
        exact .four (Nat.le_of_not_lt low)

-- No character stands for a surrogate.
theorem toNat_valid (c : Char) : c.toNat < 0xD800 ∨ 0xDFFF < c.toNat ∧ c.toNat < 0x110000 := c.valid

theorem high_byte {a : UInt8} (high : 0x80 ≤ a.toNat) : ¬ a < 0x80 := UInt8.not_lt.mpr high

theorem first_written {c : Char} {a : UInt8} {tails : Bytes} (written : Written c (a :: tails))
    (rest : Bytes) : first a (tails ++ rest) = (some c, tails.length) := by
  have valid := toNat_valid c
  have whole := Char.ofNat_toNat c
  cases written with
  | one small =>
    have value := byte_toNat (n := c.toNat) (by omega)
    have ascii : UInt8.ofNat c.toNat < 0x80 := by
      rw [UInt8.lt_iff_toNat_lt, value]
      exact small
    simp only [first, ascii, if_true, value, whole, List.length_nil]
  | two low high =>
    have value := byte_toNat (n := 0xC0 + c.toNat / 64) (by omega)
    have leads : Leads 1 (UInt8.ofNat (0xC0 + c.toNat / 64)) (trail c.toNat) :=
      leads_two (by omega) (by omega) (trail_isTail _)
    have bits : (0xC0 + c.toNat / 64) % 32 * 64 + c.toNat % 64 = c.toNat := by omega
    refine (first_two (high_byte (by omega)) leads rest).trans ?_
    rw [two, value, low6_trail, bits, whole]
    rfl
  | three low high =>
    have value := byte_toNat (n := 0xE0 + c.toNat / 64 / 64) (by omega)
    have second := trail_toNat (c.toNat / 64)
    have leads : Leads 2 (UInt8.ofNat (0xE0 + c.toNat / 64 / 64)) (trail (c.toNat / 64)) :=
      leads_three (by omega) (by omega) (by omega) (by omega) (trail_isTail _)
    have bits : ((0xE0 + c.toNat / 64 / 64) % 16 * 64 + c.toNat / 64 % 64) * 64 + c.toNat % 64 =
        c.toNat := by omega
    refine (first_three (high_byte (by omega)) leads (trail_isTail _) rest).trans ?_
    rw [three, value, low6_trail, low6_trail, bits, whole]
    rfl
  | four low =>
    have value := byte_toNat (n := 0xF0 + c.toNat / 64 / 64 / 64) (by omega)
    have second := trail_toNat (c.toNat / 64 / 64)
    have leads : Leads 3 (UInt8.ofNat (0xF0 + c.toNat / 64 / 64 / 64))
        (trail (c.toNat / 64 / 64)) :=
      leads_four (by omega) (by omega) (by omega) (by omega) (trail_isTail _)
    have bits : (((0xF0 + c.toNat / 64 / 64 / 64) % 8 * 64 + c.toNat / 64 / 64 % 64) * 64 +
        c.toNat / 64 % 64) * 64 + c.toNat % 64 = c.toNat := by omega
    refine (first_four (high_byte (by omega)) leads (trail_isTail _) (trail_isTail _) rest).trans ?_
    rw [four, value, low6_trail, low6_trail, low6_trail, bits, whole]
    rfl

theorem decode_written {c : Char} {bytes : Bytes} (written : Written c bytes) (rest : Bytes) :
    decode (bytes ++ rest) = some c :: decode rest := by
  cases bytes with
  | nil => cases written
  | cons a tails =>
    rw [List.cons_append, decode, first_written written, List.drop_left]

theorem decode_chars (text : List Char) : decode (text.flatMap encodeChar) = text.map some := by
  induction text with
  | nil => rw [List.flatMap_nil, decode, List.map_nil]
  | cons c rest ih =>
    rw [List.flatMap_cons, decode_written (encodeChar_written c), ih, List.map_cons]

theorem lossy_encode (text : String) : lossy (encode text) = text := by
  rw [lossy, encode, decode_chars, List.map_map]
  exact (congrArg String.ofList (List.map_id text.toList)).trans String.ofList_toList

theorem written_last {c : Char} {bytes : Bytes} (written : Written c bytes)
    (solid : c ≠ '\x00') : ∃ last, bytes.getLast? = some last ∧ last ≠ 0 := by
  have tail (bits : Nat) : trail bits ≠ 0 := by
    intro zero
    have value := trail_toNat bits
    rw [zero] at value
    exact absurd value.symm (by simp)
  cases written with
  | one small =>
    refine ⟨_, rfl, ?_⟩
    intro zero
    have zero : UInt8.ofNat c.toNat = 0 := zero
    apply solid
    have value := byte_toNat (n := c.toNat) (by omega)
    rw [zero] at value
    rw [← Char.ofNat_toNat c, ← value]
    rfl
  | two _ _ => exact ⟨_, rfl, tail _⟩
  | three _ _ => exact ⟨_, rfl, tail _⟩
  | four _ => exact ⟨_, rfl, tail _⟩

theorem encode_last {text : String} (solid : text.toList.getLast? ≠ some '\x00') :
    (encode text).getLast? ≠ some 0 := by
  rw [encode]
  rcases List.eq_nil_or_concat text.toList with nothing | ⟨front, c, parts⟩
  · rw [nothing]
    decide
  · rw [parts] at solid ⊢
    have other : c ≠ '\x00' := by simpa using solid
    obtain ⟨last, ends, nonzero⟩ := written_last (encodeChar_written c) other
    simp [ends, nonzero]

end PageStream.Text.Utf8
