import Mathlib.Data.List.Basic
import PageStream.Proofs.ContainerHeader

namespace PageStream

theorem wordAt_skip {front : Bytes} {count : Nat} (whole : front.length = count) (rest : Bytes)
    (start width : Nat) :
    wordAt (front ++ rest) (count + start) width = wordAt rest start width := by
  rw [wordAt, wordAt, ← List.drop_drop, List.drop_left' whole]

theorem wordAt_le (width n : Nat) (rest : Bytes) :
    wordAt (le width n ++ rest) 0 width = n % 256 ^ width := by
  rw [wordAt, List.drop_zero, List.take_left' (le_length width n), ofLe_le]

def leAll (width : Nat) (words : List Nat) : Bytes := words.flatMap (le width)

theorem leAll_length (width : Nat) (words : List Nat) :
    (leAll width words).length = width * words.length := by
  induction words with
  | nil => rfl
  | cons word words ih =>
    rw [leAll, List.flatMap_cons, List.length_append, le_length, ← leAll, ih, List.length_cons,
      Nat.mul_succ, Nat.add_comm]

theorem wordAt_leAll {words : List Nat} {index word : Nat} (there : words[index]? = some word)
    (width : Nat) (rest : Bytes) :
    wordAt (leAll width words ++ rest) (width * index) width = word % 256 ^ width := by
  induction words generalizing index with
  | nil => cases there
  | cons first words ih =>
    rw [leAll, List.flatMap_cons, List.append_assoc]
    cases index with
    | zero =>
      rw [List.getElem?_cons_zero, Option.some.injEq] at there
      rw [Nat.mul_zero, wordAt_le, there]
    | succ index =>
      rw [Nat.mul_succ, Nat.add_comm, wordAt_skip (le_length width first)]
      exact ih there

theorem dropTrailingZeros_padded (bytes : Bytes) (count : Nat) :
    dropTrailingZeros (bytes ++ List.replicate count 0) = dropTrailingZeros bytes := by
  have zeros : ∀ byte ∈ List.replicate count (0 : UInt8), (byte == 0) = true := by
    intro byte member
    rw [List.eq_of_mem_replicate member]
    rfl
  rw [dropTrailingZeros, List.reverse_append, List.reverse_replicate,
    List.dropWhile_append_of_pos zeros, dropTrailingZeros]

namespace Container

namespace Header

def words (header : Header) : List Nat :=
  [header.version, header.descriptorLength, header.wasRunning.toNat, header.compression.code] ++
    List.replicate reservedWords 0

theorem encode_eq (header : Header) : header.encode =
    header.tag.magic.bytes ++ (leAll 4 header.words ++ header.descriptor) := by
  have reserved : leAll 4 (List.replicate reservedWords 0) =
      List.replicate (4 * reservedWords) 0 := by decide
  rw [words, leAll, List.flatMap_append, ← leAll, ← leAll, reserved]
  simp only [leAll, encode, List.flatMap_cons, List.flatMap_nil, List.append_assoc, List.nil_append]

theorem take_encode (header : Header) :
    header.encode.take magicLength = header.tag.magic.bytes := by
  rw [encode_eq, List.take_left' header.tag.magic.length_eq]

theorem drop_encode (header : Header) : header.encode.drop fixedLength = header.descriptor := by
  have front : (header.tag.magic.bytes ++ leAll 4 header.words).length = fixedLength := by
    rw [List.length_append, header.tag.magic.length_eq, leAll_length]
    rfl
  rw [encode_eq, ← List.append_assoc, List.drop_left' front]

theorem wordAt_encode {header : Header} {index word : Nat}
    (there : header.words[index]? = some word) :
    wordAt header.encode (magicLength + 4 * index) 4 = word % 2 ^ 32 := by
  rw [encode_eq, wordAt_skip header.tag.magic.length_eq]
  exact wordAt_leAll there 4 header.descriptor

-- The parser knows the tag, and every field fits its word.
structure Encodable (parser : Parser) (header : Header) : Prop where
  tag : parser.tags.find? (·.magic.bytes == header.tag.magic.bytes) = some header.tag
  version : header.version = containerVersion
  length : header.descriptor.length < 2 ^ 32
  code : header.compression.code < 2 ^ 32
  named : .ofCode header.compression.code = header.compression
  terminated : header.descriptor.getLast? = some 0

theorem Encodable.reads {parser : Parser} {header : Header} (fits : header.Encodable parser) :
    parser.Reads header.encode header := by
  have length : header.descriptorLength = header.descriptor.length := Nat.mod_eq_of_lt fits.length
  have word (index : Nat) {word : Nat} (there : header.words[index]? = some word)
      (small : word < 2 ^ 32) : wordAt header.encode (magicLength + 4 * index) 4 = word := by
    rw [wordAt_encode there, Nat.mod_eq_of_lt small]
  have running : wordAt header.encode runningStart 4 = header.wasRunning.toNat := by
    apply word 2 rfl
    cases header.wasRunning <;> decide
  have compression : wordAt header.encode compressionStart 4 = header.compression.code :=
    word 3 rfl fits.code
  refine ⟨?tag, fits.version, ?version, ?reserved, ?running, ?compression, ?lengthWord, ?enough,
    ?descriptor, fits.terminated⟩
  case tag =>
    rw [take_encode]
    exact fits.tag
  case version =>
    rw [← fits.version]
    apply word 0 rfl
    rw [fits.version]
    decide
  case reserved =>
    intro index small
    have there : header.words[4 + index]? = some 0 := by
      rw [words, List.getElem?_append_right (Nat.le_add_right 4 index), List.getElem?_replicate]
      exact if_pos (by simpa using small)
    have place : reservedStart + 4 * index = magicLength + 4 * (4 + index) := by
      simp only [reservedStart, magicLength]
      omega
    rw [place]
    exact word (4 + index) there (by decide)
  case running =>
    rw [running]
    cases header.wasRunning <;> rfl
  case compression =>
    rw [compression]
    exact fits.named.symm
  case lengthWord =>
    rw [← length]
    exact word 1 rfl (length ▸ fits.length)
  case enough => exact Nat.le_of_eq header.encode_length.symm
  case descriptor => rw [drop_encode, List.take_length]

def padded (header : Header) (boundary : Nat) : Header :=
  { header with
    descriptor := header.descriptor ++ List.replicate (boundary - header.payloadOffset) 0 }

theorem encodeAligned_padded {header : Header} {boundary : Nat}
    (fits : header.payloadOffset ≤ boundary) :
    header.encodeAligned boundary = .ok (header.padded boundary).encode := by
  unfold encodeAligned
  rw [if_neg (Nat.not_lt.mpr fits)]
  rfl

theorem padded_payloadOffset (header : Header) {boundary : Nat}
    (fits : header.payloadOffset ≤ boundary) :
    (header.padded boundary).payloadOffset = boundary := by
  simp only [payloadOffset, padded, List.length_append, List.length_replicate] at fits ⊢
  omega

theorem padded_text (header : Header) (boundary : Nat) :
    (header.padded boundary).descriptorText = header.descriptorText := by
  rw [descriptorText, padded, dropTrailingZeros_padded, descriptorText]

theorem padded_terminated (header : Header) (terminated : header.descriptor.getLast? = some 0)
    (boundary : Nat) : (header.padded boundary).descriptor.getLast? = some 0 := by
  rw [padded, List.getLast?_append, terminated, List.getLast?_replicate]
  split <;> rfl

end Header

theorem Parser.Reads.encodable {parser : Parser} {bytes : Bytes} {header : Header}
    (reads : parser.Reads bytes header) : header.Encodable parser := by
  have word : header.compression.code = wordAt bytes compressionStart 4 := by
    rw [reads.compression, Compression.code_ofCode]
  have narrow (start : Nat) : wordAt bytes start 4 < 2 ^ 32 := by
    have bound := ofLe_lt ((bytes.drop start).take 4)
    have width : ((bytes.drop start).take 4).length ≤ 4 := List.length_take_le 4 _
    exact Nat.lt_of_lt_of_le bound (Nat.pow_le_pow_right (by decide) width)
  have magic := List.find?_some reads.tag
  rw [beq_iff_eq] at magic
  exact {
    tag := by rw [magic]; exact reads.tag
    version := reads.version
    length := reads.lengthWord ▸ narrow descriptorLengthStart
    code := word ▸ narrow compressionStart
    named := by rw [word, reads.compression]
    terminated := reads.terminated }

-- A header that was read, finished and padded, is one that the standard parser reads.
theorem Parser.Reads.restorable {parser : Parser} {bytes : Bytes} {header : Header}
    (reads : parser.Reads bytes header) {boundary : Nat} (fits : header.payloadOffset ≤ boundary)
    (small : boundary < 2 ^ 32) :
    Parser.standard.Reads (header.finalized.padded boundary).encode
      (header.finalized.padded boundary) := by
  have written := reads.encodable
  have whole := header.finalized.padded_payloadOffset fits
  apply Header.Encodable.reads
  refine ⟨rfl, reads.version, ?length, written.code, written.named, ?terminated⟩
  case length =>
    simp only [Header.payloadOffset] at whole
    omega
  case terminated => exact header.finalized.padded_terminated reads.terminated boundary

-- A saved machine with a short description.
def Header.brief : Header :=
  ⟨⟨.final, .final⟩, containerVersion, true, .raw, [60, 100, 111, 109, 97, 105, 110, 47, 62, 0]⟩

theorem Header.brief_reads : Parser.standard.Reads brief.encode brief :=
  Encodable.reads ⟨rfl, rfl, by decide, by decide, rfl, rfl⟩

end Container

end PageStream
