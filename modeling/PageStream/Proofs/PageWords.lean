import PageStream.PageHeader
import PageStream.Proofs.Recoding

namespace PageStream.PageHeader

theorem split_bits (word : Nat) : (split word).offset = word &&& offsetMask ∧
    (split word).iteration = word >>> offsetBits &&& iterationMask := by
  rw [offsetMask, iterationMask, Nat.and_two_pow_sub_one_eq_mod, Nat.and_two_pow_sub_one_eq_mod,
    Nat.shiftRight_eq_div_pow]
  exact ⟨rfl, rfl⟩

theorem word_bits (h : PageHeader) : h.word = h.iteration <<< offsetBits ||| h.offset := by
  rw [← Nat.shiftLeft_add_eq_or_of_lt h.offset_lt, Nat.shiftLeft_eq, word]

-- An offset is aligned just if the word has none of the bits below a page.
theorem aligned_bits (word : Nat) :
    (split word).offset % pageSize = 0 ↔ ∀ bit < 12, word.testBit bit = false := by
  have low : (split word).offset % pageSize = word % 2 ^ 12 :=
    Nat.mod_mod_of_dvd word (by decide)
  rw [low]
  constructor
  · intro zero bit below
    have clear := Nat.testBit_mod_two_pow word 12 bit
    rw [zero, Nat.zero_testBit] at clear
    simpa [below] using clear.symm
  · intro clear
    apply Nat.eq_of_testBit_eq
    intro bit
    rw [Nat.testBit_mod_two_pow, Nat.zero_testBit]
    by_cases below : bit < 12
    · rw [clear bit below, Bool.and_false]
    · rw [decide_eq_false below, Bool.false_and]

theorem pack_ok {offset iteration : Nat} {h : PageHeader} :
    pack offset iteration = .ok h ↔ h.offset = offset ∧ h.iteration = iteration := by
  unfold pack
  constructor
  · intro packed
    split at packed
    · split at packed
      · cases packed
        exact ⟨rfl, rfl⟩
      · cases packed
    · cases packed
  · intro fields
    obtain ⟨rfl, rfl⟩ := fields
    rw [dif_pos h.offset_lt, dif_pos h.iteration_lt]

theorem pack_accepts (offset iteration : Nat) :
    (∃ h, pack offset iteration = .ok h) ↔ offset < 2 ^ 48 ∧ iteration < 2 ^ 16 := by
  simp only [pack_ok]
  constructor
  · rintro ⟨h, rfl, rfl⟩
    exact ⟨h.offset_lt, h.iteration_lt⟩
  · rintro ⟨offset_lt, iteration_lt⟩
    exact ⟨⟨offset, iteration, offset_lt, iteration_lt⟩, rfl, rfl⟩

theorem decode_ok {bytes : Bytes} (long : pageHeaderLength ≤ bytes.length) {h : PageHeader} :
    decode bytes = .ok h ↔
      h.offset % pageSize = 0 ∧ split (wordAt bytes 0 pageHeaderLength) = h := by
  rw [decode, if_neg (Nat.not_lt.mpr long), ofWord]
  constructor
  · intro decoded
    split at decoded
    · rename_i aligned
      cases decoded
      exact ⟨aligned, rfl⟩
    · cases decoded
  · intro told
    obtain ⟨aligned, rfl⟩ := told
    rw [if_pos aligned]

theorem split_toBytes (h : PageHeader) : split (wordAt h.toBytes 0 pageHeaderLength) = h := by
  have word : wordAt h.toBytes 0 pageHeaderLength = h.word % 256 ^ pageHeaderLength := by
    have alone := wordAt_le pageHeaderLength h.word []
    rwa [List.append_nil] at alone
  have fits : h.word % 256 ^ pageHeaderLength = h.word := Nat.mod_eq_of_lt h.word_lt
  rw [word, fits, split_word]

theorem toBytes_split {bytes : Bytes} (long : pageHeaderLength ≤ bytes.length) :
    (split (wordAt bytes 0 pageHeaderLength)).toBytes = bytes.take pageHeaderLength := by
  have whole : (bytes.take pageHeaderLength).length = pageHeaderLength := List.length_take_of_le long
  have fits : wordAt bytes 0 pageHeaderLength < 2 ^ 64 := by
    have bound := ofLe_lt (bytes.take pageHeaderLength)
    rw [whole] at bound
    exact bound
  rw [toBytes, word_split fits, le_wordAt (Nat.zero_add pageHeaderLength ▸ long), List.drop_zero]

theorem page_mul {h : PageHeader} (aligned : h.offset % pageSize = 0) :
    h.page * pageSize = h.offset := Nat.div_mul_cancel (Nat.dvd_of_mod_eq_zero aligned)

theorem eq_of_page {one two : PageHeader} (aligned : one.offset % pageSize = 0)
    (aligned' : two.offset % pageSize = 0) (page : one.page = two.page)
    (iteration : one.iteration = two.iteration) : one = two := by
  have offset : one.offset = two.offset := by rw [← page_mul aligned, ← page_mul aligned', page]
  cases one
  cases two
  cases offset
  cases iteration
  rfl

theorem decode_told {bytes : Bytes} (long : pageHeaderLength ≤ bytes.length) {h : PageHeader}
    (decoded : decode bytes = .ok h) :
    pack h.offset h.iteration = .ok h ∧ h.toBytes = bytes.take pageHeaderLength ∧
      h.page * pageSize = h.offset ∧ h.page < 2 ^ 36 := by
  obtain ⟨aligned, rfl⟩ := (decode_ok long).mp decoded
  have place := page_mul aligned
  refine ⟨pack_ok.mpr ⟨rfl, rfl⟩, toBytes_split long, place, ?_⟩
  have fits : (split (wordAt bytes 0 pageHeaderLength)).offset < 2 ^ 48 :=
    (split (wordAt bytes 0 pageHeaderLength)).offset_lt
  simp only [pageSize] at place
  omega

-- Packing accepts the fields that fit and reading the words that are aligned. Each undoes the other,
-- and what was read is told by its page and its iteration.
theorem codes_words :
    (∀ offset iteration,
      ((∃ h, pack offset iteration = .ok h) ↔ offset < 2 ^ 48 ∧ iteration < 2 ^ 16) ∧
      ∀ h, pack offset iteration = .ok h →
        h.offset = offset ∧ h.iteration = iteration ∧ h.word = iteration <<< 48 ||| offset ∧
        ((∃ found, decode h.toBytes = .ok found) ↔ offset % 4096 = 0) ∧
        ∀ found, decode h.toBytes = .ok found → found = h) ∧
    (∀ bytes : Bytes, 8 ≤ bytes.length →
      ((∃ h, decode bytes = .ok h) ↔ ∀ bit < 12, (wordAt bytes 0 8).testBit bit = false) ∧
      ∀ h, decode bytes = .ok h →
        h.offset = wordAt bytes 0 8 &&& offsetMask ∧
        h.iteration = wordAt bytes 0 8 >>> 48 &&& iterationMask ∧
        pack h.offset h.iteration = .ok h ∧ h.toBytes = bytes.take 8 ∧
        h.page * 4096 = h.offset ∧ h.page < 2 ^ 36) ∧
    ∀ one two : Bytes, 8 ≤ one.length → 8 ≤ two.length → ∀ first second,
      decode one = .ok first → decode two = .ok second → wordAt one 0 8 ≠ wordAt two 0 8 →
        first.page ≠ second.page ∨ first.iteration ≠ second.iteration := by
  refine ⟨?packed, ?read, ?apart⟩
  case packed =>
    intro offset iteration
    refine ⟨pack_accepts offset iteration, ?_⟩
    intro h packed
    obtain ⟨rfl, rfl⟩ := pack_ok.mp packed
    have long : pageHeaderLength ≤ h.toBytes.length := Nat.le_of_eq (le_length _ _).symm
    refine ⟨rfl, rfl, h.word_bits, ?_⟩
    simp only [decode_ok long, split_toBytes]
    constructor
    · constructor
      · rintro ⟨_, aligned, rfl⟩
        exact aligned
      · intro aligned
        exact ⟨h, aligned, rfl⟩
    · rintro _ ⟨-, rfl⟩
      rfl
  case read =>
    intro bytes long
    have bits := aligned_bits (wordAt bytes 0 pageHeaderLength)
    refine ⟨?_, ?_⟩
    · simp only [decode_ok long]
      constructor
      · rintro ⟨_, aligned, rfl⟩
        exact bits.mp aligned
      · intro clear
        exact ⟨_, bits.mpr clear, rfl⟩
    · intro h decoded
      obtain ⟨offset, iteration⟩ := split_bits (wordAt bytes 0 pageHeaderLength)
      have told := decode_told long decoded
      obtain ⟨-, rfl⟩ := (decode_ok long).mp decoded
      exact ⟨offset, iteration, told⟩
  case apart =>
    intro one two long long' first second decoded decoded' differ
    by_contra same
    simp only [not_or, ne_eq, Decidable.not_not] at same
    obtain ⟨page, iteration⟩ := same
    have aligned := ((decode_ok long).mp decoded).1
    have aligned' := ((decode_ok long').mp decoded').1
    obtain ⟨-, bytes, -⟩ := decode_told long decoded
    obtain ⟨-, bytes', -⟩ := decode_told long' decoded'
    have words := congrArg toBytes (eq_of_page aligned aligned' page iteration)
    exact differ (congrArg ofLe (bytes.symm.trans (words.trans bytes')))

-- The last page of the last iteration, and an offset that can be packed and not read.
theorem codes_words_last :
    let last : Bytes := [0, 0xf0, 0xff, 0xff, 0xff, 0xff, 0xff, 0xff]
    let first : Bytes := [0, 0, 0, 0, 0, 0, 0, 0, 7]
    (∃ h, decode last = .ok h ∧ pack h.offset h.iteration = .ok h ∧ h.toBytes = last ∧
      h.page < 2 ^ 36 ∧ ∃ other, decode first = .ok other ∧
        (h.page ≠ other.page ∨ h.iteration ≠ other.iteration)) ∧
      ∃ h, pack 4097 1 = .ok h ∧ ¬ ∃ found, decode h.toBytes = .ok found := by
  intro last first
  obtain ⟨packed, read, apart⟩ := codes_words
  obtain ⟨accepts, told⟩ := read last (by decide)
  obtain ⟨h, decoded⟩ := accepts.mpr (by decide)
  obtain ⟨other, decoded'⟩ := (read first (by decide)).1.mpr (by decide)
  obtain ⟨-, -, again, bytes, -, small⟩ := told h decoded
  obtain ⟨skewed, holds⟩ := (packed 4097 1).1.mpr (by decide)
  obtain ⟨-, -, -, aligned, -⟩ := (packed 4097 1).2 skewed holds
  have differ := apart last first (by decide) (by decide) h other decoded decoded' (by decide)
  exact ⟨⟨h, decoded, again, bytes, small, other, decoded', differ⟩,
    skewed, holds, fun found => absurd (aligned.mp found) (by decide)⟩

end PageStream.PageHeader
