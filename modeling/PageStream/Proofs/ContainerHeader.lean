import PageStream.Container.Parser

namespace PageStream.Container

namespace Parser

def Accepts (parser : Parser) (buffer : Bytes) : Prop :=
  ∃ tag ∈ parser.tags, tag.magic.bytes <+: buffer

-- The buffer starts with a complete header, and these are its fields. The tag is the first accepted
-- one with the buffer's magic.
structure Reads (parser : Parser) (buffer : Bytes) (header : Header) : Prop where
  tag : parser.tags.find? (·.magic.bytes == buffer.take magicLength) = some header.tag
  version : header.version = containerVersion
  versionWord : wordAt buffer versionStart 4 = containerVersion
  reserved : ∀ index < reservedWords, wordAt buffer (reservedStart + 4 * index) 4 = 0
  running : header.wasRunning = (wordAt buffer runningStart 4 != 0)
  compression : header.compression = .ofCode (wordAt buffer compressionStart 4)
  lengthWord : wordAt buffer descriptorLengthStart 4 = header.descriptor.length
  enough : header.payloadOffset ≤ buffer.length
  descriptor : (buffer.drop fixedLength).take header.descriptor.length = header.descriptor
  terminated : header.descriptor.getLast? = some 0

theorem wordAt_take {bytes : Bytes} {start width count : Nat} (inside : start + width ≤ count) :
    wordAt (bytes.take count) start width = wordAt bytes start width := by
  rw [wordAt, wordAt, List.drop_take, List.take_take, Nat.min_eq_left (by omega)]

theorem wordAt_append {bytes : Bytes} {start width : Nat} (inside : start + width ≤ bytes.length)
    (more : Bytes) : wordAt (bytes ++ more) start width = wordAt bytes start width := by
  rw [← wordAt_take (Nat.le_refl (start + width)), List.take_append_of_le_length inside,
    wordAt_take (Nat.le_refl _)]

theorem recognizes_append (parser : Parser) {buffer : Bytes} (long : magicLength ≤ buffer.length)
    (more : Bytes) : parser.recognizes (buffer ++ more) = parser.recognizes buffer := by
  have longer : magicLength ≤ (buffer ++ more).length := by simp only [List.length_append]; omega
  simp only [recognizes, long, longer, List.take_append_of_le_length long]

theorem recognizes_iff {parser : Parser} {buffer : Bytes} :
    parser.recognizes buffer = true ↔ parser.Accepts buffer := by
  constructor
  · intro known
    simp only [recognizes, Bool.and_eq_true, decide_eq_true_eq, match?, List.find?_isSome,
      beq_iff_eq] at known
    obtain ⟨_, tag, member, same⟩ := known
    exact ⟨tag, member, same ▸ List.take_prefix _ _⟩
  · rintro ⟨tag, member, rest, rfl⟩
    have long := tag.magic.length_eq
    simp only [recognizes, Bool.and_eq_true, decide_eq_true_eq, match?, List.find?_isSome,
      beq_iff_eq]
    refine ⟨by simp only [List.length_append]; omega, tag, member, ?_⟩
    rw [List.take_left' long]

theorem parse_long {parser : Parser} {buffer : Bytes} (decided : parser.parse buffer ≠ .ok none) :
    fixedLength ≤ buffer.length := by
  by_cases short : buffer.length < fixedLength
  · exact absurd (by simp only [parse, short, if_true]) decided
  · omega

theorem parse_append {parser : Parser} {buffer : Bytes} (decided : parser.parse buffer ≠ .ok none)
    (more : Bytes) : parser.parse (buffer ++ more) = parser.parse buffer := by
  have enough := parse_long decided
  have front : (buffer ++ more).take fixedLength = buffer.take fixedLength :=
    List.take_append_of_le_length enough
  have short : ¬ buffer.length < fixedLength := by omega
  have long : ¬ (buffer ++ more).length < fixedLength := by
    simp only [List.length_append]; omega
  simp only [parse, short, long, if_false, front] at decided ⊢
  split
  · rfl
  · rename_i fixed known
    simp only [known] at decided
    by_cases lacking : buffer.length < fixedLength + fixed.descriptorLength
    · simp only [lacking, if_true, ne_eq, not_true] at decided
    · have whole : ¬ (buffer ++ more).length < fixedLength + fixed.descriptorLength := by
        simp only [List.length_append]; omega
      have inside : fixed.descriptorLength ≤ (buffer.drop fixedLength).length := by
        simp only [List.length_drop]; omega
      simp only [lacking, whole, if_false, List.drop_append_of_le_length enough,
        List.take_append_of_le_length inside]

theorem reserved_inside {index : Nat} (small : index < reservedWords) :
    reservedStart + 4 * index + 4 ≤ fixedLength := by
  simp only [fixedLength]
  omega

theorem reserved_none {bytes : Bytes} :
    (List.range reservedWords).find? (reservedWord bytes · != 0) = none ↔
      ∀ index < reservedWords, wordAt bytes (reservedStart + 4 * index) 4 = 0 := by
  simp only [List.find?_eq_none, List.mem_range, bne_iff_ne, ne_eq, Decidable.not_not,
    reservedWord]

theorem parseFixed_ok {parser : Parser} {bytes : Bytes} {fixed : FixedPart} :
    parser.parseFixed bytes = .ok fixed ↔
      parser.tags.find? (·.magic.bytes == bytes.take magicLength) = some fixed.tag ∧
      wordAt bytes versionStart 4 = containerVersion ∧
      (∀ index < reservedWords, wordAt bytes (reservedStart + 4 * index) 4 = 0) ∧
      fixed.descriptorLength = wordAt bytes descriptorLengthStart 4 ∧
      fixed.wasRunning = (wordAt bytes runningStart 4 != 0) ∧
      fixed.compression = .ofCode (wordAt bytes compressionStart 4) := by
  rw [← reserved_none]
  unfold parseFixed match?
  dsimp only
  constructor
  · intro parsed
    split at parsed
    · cases parsed
    · rename_i tag known
      split at parsed
      · cases parsed
      · rename_i version
        split at parsed
        · cases parsed
        · rename_i clear
          cases parsed
          exact ⟨known, Decidable.not_not.mp version, clear, rfl, rfl, rfl⟩
  · rintro ⟨known, version, clear, length, running, compression⟩
    simp only [known, version, ne_eq, not_true, if_false, clear]
    cases fixed
    simp only at length running compression
    rw [length, running, compression]

theorem complete_ok {fixed : FixedPart} {descriptor : Bytes} {header : Header} :
    complete fixed descriptor = .ok header ↔ descriptor.getLast? = some 0 ∧
      header = ⟨fixed.tag, containerVersion, fixed.wasRunning, fixed.compression, descriptor⟩ := by
  unfold complete
  split
  · rename_i terminated
    simp only [terminated, Except.ok.injEq, true_and, eq_comm]
  · rename_i waiting
    simp only [waiting, reduceCtorEq, false_and]

-- The fixed part of a buffer says the same of it as the buffer.
theorem fixed_exact {parser : Parser} {buffer : Bytes} {fixed : FixedPart} :
    parser.parseFixed (buffer.take fixedLength) = .ok fixed ↔
      parser.tags.find? (·.magic.bytes == buffer.take magicLength) = some fixed.tag ∧
      wordAt buffer versionStart 4 = containerVersion ∧
      (∀ index < reservedWords, wordAt buffer (reservedStart + 4 * index) 4 = 0) ∧
      fixed.descriptorLength = wordAt buffer descriptorLengthStart 4 ∧
      fixed.wasRunning = (wordAt buffer runningStart 4 != 0) ∧
      fixed.compression = .ofCode (wordAt buffer compressionStart 4) := by
  have magic : (buffer.take fixedLength).take magicLength = buffer.take magicLength := by
    rw [List.take_take, Nat.min_eq_left (by decide)]
  have reserved : (∀ index < reservedWords,
      wordAt (buffer.take fixedLength) (reservedStart + 4 * index) 4 = 0) ↔
        ∀ index < reservedWords, wordAt buffer (reservedStart + 4 * index) 4 = 0 := by
    constructor <;> intro clear index small
    · rw [← clear index small, wordAt_take (reserved_inside small)]
    · rw [wordAt_take (reserved_inside small), clear index small]
  have version : versionStart + 4 ≤ fixedLength := by decide
  have length : descriptorLengthStart + 4 ≤ fixedLength := by decide
  have running : runningStart + 4 ≤ fixedLength := by decide
  have compression : compressionStart + 4 ≤ fixedLength := by decide
  rw [parseFixed_ok, magic, reserved, wordAt_take version, wordAt_take length,
    wordAt_take running, wordAt_take compression]

theorem parse_exact {parser : Parser} {buffer : Bytes} {header : Header} :
    parser.parse buffer = .ok (some header) ↔ parser.Reads buffer header := by
  constructor
  · intro parsed
    unfold parse at parsed
    split at parsed
    · cases parsed
    · rename_i long
      split at parsed
      · cases parsed
      · rename_i fixed known
        split at parsed
        · cases parsed
        · rename_i enough
          obtain ⟨tag, version, reserved, length, running, compression⟩ := fixed_exact.mp known
          cases done : complete fixed ((buffer.drop fixedLength).take fixed.descriptorLength) with
          | error failure => rw [done] at parsed; cases parsed
          | ok found =>
            rw [done] at parsed
            cases parsed
            obtain ⟨terminated, rfl⟩ := complete_ok.mp done
            have size : ((buffer.drop fixedLength).take fixed.descriptorLength).length =
                fixed.descriptorLength := by
              simp only [List.length_take, List.length_drop]; omega
            exact {
              tag, version := rfl, versionWord := version, reserved, running, compression
              terminated
              lengthWord := by rw [size, length]
              enough := by simp only [Header.payloadOffset, size]; omega
              descriptor := by rw [size] }
  · intro reads
    have enough := reads.enough
    simp only [Header.payloadOffset] at enough
    let fixed : FixedPart :=
      ⟨header.tag, header.descriptor.length, header.wasRunning, header.compression⟩
    have known : parser.parseFixed (buffer.take fixedLength) = .ok fixed :=
      fixed_exact.mpr ⟨reads.tag, reads.versionWord, reads.reserved, reads.lengthWord.symm,
        reads.running, reads.compression⟩
    have done : complete fixed header.descriptor = .ok header := by
      refine complete_ok.mpr ⟨reads.terminated, ?_⟩
      simp only [fixed, ← reads.version]
    have long : ¬ buffer.length < fixedLength := by omega
    have whole : ¬ buffer.length < fixedLength + fixed.descriptorLength := by
      show ¬ buffer.length < fixedLength + header.descriptor.length
      omega
    simp only [parse, long, known, whole, if_false]
    rw [show fixed.descriptorLength = header.descriptor.length from rfl, reads.descriptor, done]
    rfl

theorem Reads.append {parser : Parser} {front : Bytes} {header : Header}
    (reads : parser.Reads front header) (rest : Bytes) : parser.Reads (front ++ rest) header := by
  have parsed := parse_exact.mpr reads
  have decided : parser.parse front ≠ .ok none := by rw [parsed]; exact nofun
  exact parse_exact.mp ((parse_append decided rest).trans parsed)

theorem Reads.take {parser : Parser} {buffer : Bytes} {header : Header}
    (reads : parser.Reads buffer header) :
    parser.Reads (buffer.take header.payloadOffset) header := by
  have fixed : fixedLength ≤ header.payloadOffset := Nat.le_add_right _ _
  have word {start : Nat} (inside : start + 4 ≤ fixedLength) :
      wordAt (buffer.take header.payloadOffset) start 4 = wordAt buffer start 4 :=
    wordAt_take (Nat.le_trans inside fixed)
  have magic : (buffer.take header.payloadOffset).take magicLength = buffer.take magicLength := by
    rw [List.take_take, Nat.min_eq_left (Nat.le_trans (by decide) fixed)]
  exact {
    tag := by rw [magic]; exact reads.tag
    version := reads.version
    versionWord := by rw [word (by decide)]; exact reads.versionWord
    reserved := fun index small => by
      rw [word (reserved_inside small)]; exact reads.reserved index small
    running := by rw [word (by decide)]; exact reads.running
    compression := by rw [word (by decide)]; exact reads.compression
    lengthWord := by rw [word (by decide)]; exact reads.lengthWord
    enough := Nat.le_of_eq (List.length_take_of_le reads.enough).symm
    descriptor := by
      rw [List.drop_take, List.take_take, Header.payloadOffset, Nat.add_sub_cancel_left,
        Nat.min_self]
      exact reads.descriptor
    terminated := reads.terminated }

theorem Reads.accepts {parser : Parser} {buffer : Bytes} {header : Header}
    (reads : parser.Reads buffer header) : parser.Accepts buffer := by
  have same := List.find?_some reads.tag
  rw [beq_iff_eq] at same
  exact ⟨header.tag, List.mem_of_find?_eq_some reads.tag, same ▸ List.take_prefix _ _⟩

theorem Accepts.long {parser : Parser} {buffer : Bytes} (known : parser.Accepts buffer) :
    magicLength ≤ buffer.length := by
  obtain ⟨tag, -, starts⟩ := known
  exact tag.magic.length_eq ▸ starts.length_le

end Parser

end PageStream.Container
