import PageStream.Proofs.Encoding
import PageStream.Proofs.Spelling

namespace PageStream

theorem le_wordAt {bytes : Bytes} {start width : Nat} (inside : start + width ≤ bytes.length) :
    le width (wordAt bytes start width) = (bytes.drop start).take width := by
  have whole : ((bytes.drop start).take width).length = width := by
    simp only [List.length_take, List.length_drop]
    omega
  have back := le_ofLe ((bytes.drop start).take width)
  rwa [whole] at back

theorem leAll_wordAt {bytes : Bytes} {start width count : Nat}
    (inside : start + width * count ≤ bytes.length) :
    leAll width ((List.range count).map fun index => wordAt bytes (start + width * index) width) =
      (bytes.drop start).take (width * count) := by
  induction count with
  | zero => rw [Nat.mul_zero, List.take_zero]; rfl
  | succ count ih =>
    rw [Nat.mul_succ] at inside ⊢
    have last : le width (wordAt bytes (start + width * count) width) =
        (bytes.drop (start + width * count)).take width := le_wordAt (by omega)
    rw [List.take_add, ← ih (by omega), List.drop_drop, ← last, List.range_succ, List.map_append,
      leAll, List.flatMap_append, ← leAll]
    simp only [List.map_cons, List.map_nil, List.flatMap_cons, List.flatMap_nil, List.append_nil]

namespace Container

-- The bytes of a header with its running flag as it is written.
def normalized (bytes : Bytes) : Bytes :=
  bytes.take runningStart ++ (le 4 (wordAt bytes runningStart 4 != 0).toNat ++
    bytes.drop compressionStart)

namespace Parser

theorem Reads.reserved_words {parser : Parser} {bytes : Bytes} {header : Header}
    (reads : parser.Reads bytes header) :
    leAll 4 (List.replicate reservedWords 0) =
      (bytes.drop reservedStart).take (4 * reservedWords) := by
  have enough := reads.enough
  simp only [Header.payloadOffset, fixedLength] at enough
  have zeros : (List.range reservedWords).map (fun index =>
      wordAt bytes (reservedStart + 4 * index) 4) = List.replicate reservedWords 0 := by
    rw [List.eq_replicate_iff, List.length_map, List.length_range]
    refine ⟨rfl, fun word member => ?_⟩
    obtain ⟨index, small, rfl⟩ := List.mem_map.mp member
    exact reads.reserved index (List.mem_range.mp small)
  rw [← zeros]
  exact leAll_wordAt (by omega)

theorem Reads.encode_eq {parser : Parser} {bytes : Bytes} {header : Header}
    (reads : parser.Reads bytes header) :
    header.encode = normalized (bytes.take header.payloadOffset) := by
  have whole : (bytes.take header.payloadOffset).length = header.payloadOffset :=
    List.length_take_of_le reads.enough
  have reads := reads.take
  generalize bytes.take header.payloadOffset = bytes at reads whole ⊢
  have enough := reads.enough
  have fixed : fixedLength ≤ bytes.length := Nat.le_trans (Nat.le_add_right _ _) enough
  have field {start : Nat} (inside : start + 4 ≤ fixedLength) :
      le 4 (wordAt bytes start 4) = (bytes.drop start).take 4 :=
    le_wordAt (Nat.le_trans inside fixed)
  have magic := List.find?_some reads.tag
  rw [beq_iff_eq] at magic
  have version : le 4 header.version = (bytes.drop versionStart).take 4 := by
    rw [reads.version, ← reads.versionWord, field (by decide)]
  have length : le 4 header.descriptorLength = (bytes.drop descriptorLengthStart).take 4 := by
    rw [Header.descriptorLength, Nat.mod_eq_of_lt reads.encodable.length, ← reads.lengthWord,
      field (by decide)]
  have compression : le 4 header.compression.code = (bytes.drop compressionStart).take 4 := by
    rw [reads.compression, Compression.code_ofCode, field (by decide)]
  have running : header.wasRunning = (wordAt bytes runningStart 4 != 0) := reads.running
  have descriptor : header.descriptor = bytes.drop fixedLength := by
    rw [← reads.descriptor, List.take_of_length_le]
    rw [List.length_drop, whole, Header.payloadOffset]
    omega
  have front : bytes.take runningStart = bytes.take magicLength ++
      ((bytes.drop versionStart).take 4 ++ (bytes.drop descriptorLengthStart).take 4) := by
    have second : (bytes.drop descriptorLengthStart).take 4 =
        ((bytes.drop versionStart).drop 4).take 4 := by rw [List.drop_drop]; rfl
    have sum : runningStart = magicLength + (4 + 4) := rfl
    rw [second, ← List.take_add, sum, List.take_add]
    rfl
  have back : bytes.drop compressionStart = (bytes.drop compressionStart).take 4 ++
      ((bytes.drop reservedStart).take (4 * reservedWords) ++ bytes.drop fixedLength) := by
    have third : bytes.drop fixedLength = (bytes.drop reservedStart).drop (4 * reservedWords) := by
      rw [List.drop_drop]
      rfl
    have second : bytes.drop reservedStart = (bytes.drop compressionStart).drop 4 := by
      rw [List.drop_drop]
      rfl
    rw [third, List.take_append_drop, second, List.take_append_drop]
  have reserved : leAll 4 (List.replicate reservedWords 0) =
      List.replicate (4 * reservedWords) 0 := by decide
  rw [normalized, front, back, ← reads.reserved_words, reserved, ← running, ← magic, ← version,
    ← length, ← compression, ← descriptor, Header.encode]
  simp only [List.append_assoc]

theorem Reads.parse_encode {parser : Parser} {bytes : Bytes} {header : Header}
    (reads : parser.Reads bytes header) : parser.parse header.encode = .ok (some header) :=
  parse_exact.mpr reads.encodable.reads

end Parser

-- A compression mode that its own number stands for, in a field of four bytes.
def Compression.Plain (compression : Compression) : Prop :=
  ∀ code, compression = .unknown code → code < 2 ^ 32 ∧ code ≠ 0 ∧ code ≠ 3 ∧ code ≠ 4

theorem Compression.Plain.named {compression : Compression} (plain : compression.Plain) :
    ofCode compression.code = compression ∧ compression.code < 2 ^ 32 := by
  cases compression with
  | unknown code =>
    obtain ⟨small, raw, xz, cloudlet⟩ := plain code rfl
    refine ⟨?_, small⟩
    show ofCode code = .unknown code
    unfold ofCode
    split <;> first | contradiction | rfl
  | _ => exact ⟨rfl, by decide⟩

namespace Header

theorem ofText_encodable {parser : Parser} {tag known : Tag} {text : String} {wasRunning : Bool}
    {compression : Compression}
    (first : parser.match? tag.magic.bytes = some known) (state : known.state = tag.state)
    (short : (Text.Utf8.encode text).length < 2 ^ 32 - 1) (plain : compression.Plain) :
    (ofText tag text wasRunning compression).Encodable parser := by
  have magic := List.find?_some first
  rw [beq_iff_eq] at magic
  have same : known = tag := by
    obtain ⟨⟨bytes, _⟩, state⟩ := tag
    obtain ⟨⟨bytes', _⟩, state'⟩ := known
    cases magic
    cases state
    rfl
  obtain ⟨named, code⟩ := plain.named
  refine ⟨same ▸ first, rfl, ?length, code, named, List.getLast?_concat⟩
  case length =>
    rw [ofText, List.length_append, List.length_singleton]
    omega

theorem ofText_text (tag : Tag) {text : String} (solid : text.toList.getLast? ≠ some '\x00')
    (wasRunning : Bool) (compression : Compression) :
    (ofText tag text wasRunning compression).descriptorText = text := by
  have last := Text.Utf8.encode_last solid
  have kept : dropTrailingZeros (Text.Utf8.encode text) = Text.Utf8.encode text := by
    rw [dropTrailingZeros]
    rcases List.eq_nil_or_concat (Text.Utf8.encode text) with nothing | ⟨front, byte, parts⟩
    · rw [nothing]
      rfl
    · rw [parts, List.concat_eq_append] at last ⊢
      have nonzero : ¬ (byte == 0) = true := by simpa using last
      rw [List.reverse_concat, List.dropWhile_cons, if_neg nonzero, List.reverse_cons,
        List.reverse_reverse]
  have padded := dropTrailingZeros_padded (Text.Utf8.encode text) 1
  rw [descriptorText]
  show Text.Utf8.lossy (dropTrailingZeros (Text.Utf8.encode text ++ List.replicate 1 0)) = text
  rw [padded, kept, Text.Utf8.lossy_encode]

end Header

-- Writing and reading undo each other: a header built from a text is found in front of anything,
-- with its text, and a header that was found is written as it was, in the normal form of its running
-- flag.
theorem Parser.parse_recodes (parser : Parser) :
    (∀ (tag known : Tag) (text : String) (wasRunning : Bool) (compression : Compression),
        parser.match? tag.magic.bytes = some known → known.state = tag.state →
        (Text.Utf8.encode text).length < 2 ^ 32 - 1 → compression.Plain →
        let header := Header.ofText tag text wasRunning compression
        (∀ rest, parser.parse (header.encode ++ rest) = .ok (some header)) ∧
          header.payloadOffset = header.encode.length ∧
          (text.toList.getLast? ≠ some '\x00' → header.descriptorText = text)) ∧
      ∀ buffer header, parser.parse buffer = .ok (some header) →
        header.encode = normalized (buffer.take header.payloadOffset) ∧
          parser.parse header.encode = .ok (some header) := by
  constructor
  · intro tag known text wasRunning compression first state short plain header
    have fits : header.Encodable parser := Header.ofText_encodable first state short plain
    refine ⟨fun rest => ?_, header.encode_length.symm, ?_⟩
    · exact parse_exact.mpr (fits.reads.append rest)
    · intro solid
      exact Header.ofText_text tag solid wasRunning compression
  · intro buffer header parsed
    have reads := parse_exact.mp parsed
    exact ⟨reads.encode_eq, reads.parse_encode⟩

-- A second tag with the same magic, which says something else, and an unknown compression mode.
theorem Parser.parse_recodes_aliased :
    let parser := Parser.standard.withTag ⟨.final, .inProgress⟩
    let header := Header.ofText ⟨.final, .final⟩ "<domain/>" true (.unknown 7)
    parser.parse (header.encode ++ [0, 16, 0]) = .ok (some header) ∧
      header.descriptorText = "<domain/>" ∧
      header.encode = normalized ((header.encode ++ [0, 16, 0]).take header.payloadOffset) := by
  intro parser header
  obtain ⟨writes, reads⟩ := parse_recodes parser
  obtain ⟨found, -, text⟩ := writes ⟨.final, .final⟩ ⟨.final, .final⟩ "<domain/>" true (.unknown 7)
    (by decide) rfl (by decide +kernel) (by rintro code ⟨⟩; decide)
  refine ⟨found _, text (by decide +kernel), (reads _ header (found _)).1⟩

end Container

end PageStream
