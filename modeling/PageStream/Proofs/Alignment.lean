import PageStream.Proofs.Checked
import PageStream.Proofs.Collecting
import PageStream.Proofs.Recoding

namespace PageStream.Container

namespace Header

-- The headers that there are: built from a text, found in a buffer, or read from a reader.
inductive Made : Header → Prop where
  | built (tag : Tag) (text : String) (wasRunning : Bool) (compression : Compression) :
      Made (.ofText tag text wasRunning compression)
  | parsed {parser : Parser} {buffer : Bytes} {header : Header}
      (found : parser.parse buffer = .ok (some header)) : Made header
  | read {parser : Parser} {reader rest : Reader} {header : Header}
      (found : parser.readFrom reader = .ok (header, rest)) : Made header

theorem Made.proper {header : Header} (made : header.Made) :
    header.version = containerVersion ∧ header.descriptor.getLast? = some 0 := by
  cases made with
  | built tag text wasRunning compression => exact ⟨rfl, List.getLast?_concat⟩
  | parsed found =>
    have reads := Parser.parse_exact.mp found
    exact ⟨reads.version, reads.terminated⟩
  | read found =>
    obtain ⟨-, fixed, -, descriptor, -, -, done, -⟩ := Parser.readFrom_ok found
    obtain ⟨terminated, rfl⟩ := Parser.complete_ok.mp done
    exact ⟨rfl, terminated⟩

theorem Made.payloadOffset_gt {header : Header} (made : header.Made) :
    fixedLength < header.payloadOffset := by
  have terminated := made.proper.2
  cases bytes : header.descriptor with
  | nil => simp [bytes] at terminated
  | cons byte rest =>
    simp only [payloadOffset, bytes, List.length_cons]
    omega

theorem encode_around (header : Header) :
    header.encode.take descriptorLengthStart =
        header.tag.magic.bytes ++ le 4 header.version ∧
      header.encode.drop runningStart = le 4 header.wasRunning.toNat ++
        (le 4 header.compression.code ++ (List.replicate (4 * reservedWords) 0 ++
          header.descriptor)) := by
  have front : (header.tag.magic.bytes ++ le 4 header.version).length = descriptorLengthStart := by
    simp only [List.length_append, header.tag.magic.length_eq, le_length]
    rfl
  have word : (header.tag.magic.bytes ++ le 4 header.version ++
      le 4 header.descriptorLength).length = runningStart := by
    simp only [List.length_append, header.tag.magic.length_eq, le_length]
    rfl
  have shape : header.encode = header.tag.magic.bytes ++ le 4 header.version ++
      le 4 header.descriptorLength ++ (le 4 header.wasRunning.toNat ++
        (le 4 header.compression.code ++ (List.replicate (4 * reservedWords) 0 ++
          header.descriptor))) := by
    simp only [encode, List.append_assoc]
  constructor
  · rw [shape, List.append_assoc _ _ (_ ++ _), List.take_left' front]
  · rw [shape, List.drop_left' word]

theorem padded_around (header : Header) (boundary : Nat) :
    (header.padded boundary).encode.take descriptorLengthStart =
        header.encode.take descriptorLengthStart ∧
      (header.padded boundary).encode.drop runningStart =
        header.encode.drop runningStart ++
          List.replicate (boundary - header.payloadOffset) 0 := by
  obtain ⟨before, behind⟩ := header.encode_around
  obtain ⟨before', behind'⟩ := (header.padded boundary).encode_around
  refine ⟨before'.trans before.symm, ?_⟩
  rw [behind, behind']
  simp only [padded, List.append_assoc]

theorem padded_encodable {parser : Parser} {header : Header} (made : header.Made)
    (known : parser.match? header.tag.magic.bytes = some header.tag)
    (plain : header.compression.Plain) {boundary : Nat} (fits : header.payloadOffset ≤ boundary)
    (small : boundary < 2 ^ 32 + fixedLength) : (header.padded boundary).Encodable parser := by
  obtain ⟨version, terminated⟩ := made.proper
  obtain ⟨named, code⟩ := plain.named
  have whole := header.padded_payloadOffset fits
  refine ⟨known, version, ?length, code, named, header.padded_terminated terminated boundary⟩
  case length =>
    simp only [payloadOffset] at whole
    omega

theorem padded_again (header : Header) {boundary : Nat} (fits : header.payloadOffset ≤ boundary) :
    (header.padded boundary).encodeAligned boundary = .ok (header.padded boundary).encode := by
  have whole := header.padded_payloadOffset fits
  have same : (header.padded boundary).padded boundary = header.padded boundary := by
    rw [padded, whole, Nat.sub_self, List.replicate_zero, List.append_nil]
  rw [encodeAligned_padded (Nat.le_of_eq whole), same]

-- A header is filled up to any boundary that it does not pass, with zeros behind what it is written
-- as, and what is read again differs in its length only.
theorem encodeAligned_fills {header : Header} (made : header.Made) {boundary : Nat}
    (small : boundary < 2 ^ 32 + fixedLength) :
    (header.encodeAligned boundary =
        .error (.overflow (.longHeader header.payloadOffset boundary)) ↔
      boundary < header.payloadOffset) ∧
    (boundary ≤ fixedLength → boundary < header.payloadOffset) ∧
    (header.payloadOffset < 2 ^ 64 →
      Checked.encodeAligned header boundary = some (header.encodeAligned boundary)) ∧
    (header.payloadOffset ≤ boundary → ∃ bytes, header.encodeAligned boundary = .ok bytes ∧
      bytes.length = boundary ∧
      bytes.take descriptorLengthStart = header.encode.take descriptorLengthStart ∧
      bytes.drop runningStart = header.encode.drop runningStart ++
        List.replicate (boundary - header.payloadOffset) 0 ∧
      ∀ parser : Parser, parser.match? header.tag.magic.bytes = some header.tag →
        header.compression.Plain → ∃ again, parser.parse bytes = .ok (some again) ∧
          again.tag = header.tag ∧ again.version = header.version ∧
          again.wasRunning = header.wasRunning ∧ again.compression = header.compression ∧
          again.descriptorText = header.descriptorText ∧ again.payloadOffset = boundary ∧
          again.encodeAligned boundary = .ok bytes) := by
  have longer := made.payloadOffset_gt
  refine ⟨?refused, ?fixed, ?checked, ?filled⟩
  case refused =>
    constructor
    · intro refused
      by_cases fits : header.payloadOffset ≤ boundary
      · rw [encodeAligned_padded fits] at refused
        cases refused
      · exact Nat.lt_of_not_le fits
    · intro passed
      simp only [encodeAligned, passed, if_true]
  case fixed =>
    intro short
    exact Nat.lt_of_le_of_lt short longer
  case checked =>
    intro representable
    exact Checked.encodeAligned_eq representable boundary
  case filled =>
    intro fits
    have encoded := encodeAligned_padded fits
    obtain ⟨before, behind⟩ := header.padded_around boundary
    refine ⟨_, encoded, encodeAligned_length encoded, before, behind, ?_⟩
    intro parser known plain
    have reads := (padded_encodable made known plain fits small).reads
    exact ⟨header.padded boundary, Parser.parse_exact.mpr reads, rfl, rfl, rfl, rfl,
      header.padded_text boundary, header.padded_payloadOffset fits, header.padded_again fits⟩

-- A tag that an earlier one overrides, an unknown compression mode, and no room for a descriptor.
theorem encodeAligned_fills_aliased :
    let parser : Parser := ⟨⟨.final, .inProgress⟩ :: Parser.standard.tags⟩
    let header := Header.ofText ⟨.final, .inProgress⟩ "<domain/>" true (.unknown 7)
    header.Made ∧ alignedLength < 2 ^ 32 + fixedLength ∧
      header.encodeAligned fixedLength = .error (.overflow (.longHeader 102 92)) ∧
      ∃ bytes again, header.encodeAligned alignedLength = .ok bytes ∧
        bytes.length = alignedLength ∧ parser.parse bytes = .ok (some again) ∧
        again.tag.state = .inProgress ∧ again.payloadOffset = alignedLength ∧
        again.encodeAligned alignedLength = .ok bytes := by
  intro parser header
  have made : header.Made := .built _ _ _ _
  have small : alignedLength < 2 ^ 32 + fixedLength := by decide
  have tight : fixedLength < 2 ^ 32 + fixedLength := by decide
  obtain ⟨refused, short, -, -⟩ := encodeAligned_fills made tight
  obtain ⟨-, -, -, filled⟩ := encodeAligned_fills made small
  obtain ⟨bytes, encoded, length, -, -, read⟩ := filled (by decide +kernel)
  obtain ⟨again, parsed, tag, -, -, -, -, whole, same⟩ :=
    read parser (by decide +kernel) (by intro code same; cases same; decide)
  exact ⟨made, small, refused.mpr (short (Nat.le_refl _)), bytes, again, encoded, length, parsed,
    congrArg Tag.state tag, whole, same⟩

end Header

end PageStream.Container
