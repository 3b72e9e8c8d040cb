import PageStream.Proofs.Gathering

namespace PageStream

-- Bytes in pieces of any length, none of them empty, interruptions anywhere, and then a fault.
inductive Reader.Breaks : Reader → Bytes → DeviceFault → Prop where
  | failed (report : DeviceFault) (rest : Reader) : Breaks (.fault report :: rest) [] report
  | interrupted {rest : Reader} {bytes : Bytes} {report : DeviceFault}
      (breaks : Breaks rest bytes report) : Breaks (.interrupted :: rest) bytes report
  | piece {rest : Reader} {bytes piece : Bytes} {report : DeviceFault} (some : piece ≠ [])
      (breaks : Breaks rest bytes report) : Breaks (.data piece :: rest) (piece ++ bytes) report

theorem Reader.Breaks.served {reader : Reader} {bytes : Bytes} {report : DeviceFault}
    (breaks : reader.Breaks bytes report) :
    reader.served = bytes ∧ reader.stop = .fault report := by
  induction breaks with
  | failed report rest => exact ⟨rfl, rfl⟩
  | interrupted breaks ih => exact ih
  | piece some breaks ih => exact ⟨congrArg _ ih.1, ih.2⟩

-- The fault is what is reported, but for one that calls itself an early end before all of the fixed
-- part is there.
theorem Container.Parser.readFrom_breaks (parser : Container.Parser) {reader : Reader}
    {bytes : Bytes} {report : DeviceFault} (breaks : reader.Breaks bytes report) :
    (Failure.read report).isFormat = false ∧ (Failure.read report).phase? = none ∧
    (parser.parse bytes = .ok none →
      (parser.readFrom reader = .error (.read report) ↔
        fixedLength ≤ bytes.length ∨ report.isEarlyEnd = false) ∧
      (bytes.length < fixedLength → report.isEarlyEnd = true →
        parser.readFrom reader = .error (.malformed .fixedPartCut))) ∧
    ∀ header, parser.parse bytes = .ok (some header) →
      bytes.length < header.payloadOffset + sizeHeaderLength →
        ∃ rest, parser.readFrom reader = .ok (header, rest) ∧
          DeclaredSize.readFrom rest = .error (.read report) := by
  obtain ⟨rfl, stops⟩ := breaks.served
  have reads := parser.readFrom_stops reader
  rw [stops] at reads
  refine ⟨rfl, rfl, ?waiting, ?complete⟩
  case waiting =>
    intro waiting
    rw [waiting] at reads
    by_cases short : reader.served.length < fixedLength
    · cases early : report.isEarlyEnd with
      | true =>
        have taken : (ReadStep.fault report).early = true := early
        simp only [short, taken, if_true] at reads
        simp [reads, short]
      | false =>
        have told : (ReadStep.fault report).early = false := early
        simp only [short, told, if_true, Bool.false_eq_true, if_false] at reads
        have named : parser.readFrom reader = .error (.read report) := reads
        simp [named]
    · simp only [short, if_false] at reads
      obtain ⟨got, needed, failed⟩ := reads
      have named : parser.readFrom reader = .error (.read report) := failed
      simp [named, short, Nat.le_of_not_lt short]
  case complete =>
    intro header parsed few
    rw [parsed] at reads
    obtain ⟨rest, read, behind, ends⟩ := reads
    have sizes := DeclaredSize.readFrom_stops rest
    have lacking : rest.served.length < sizeHeaderLength := by
      rw [behind, List.length_drop]
      simp only [sizeHeaderLength] at few ⊢
      omega
    have waiting : DeclaredSize.parse rest.served = .ok none := by
      simp only [DeclaredSize.parse, lacking, if_true]
    rw [waiting, ends] at sizes
    exact ⟨rest, read, sizes⟩

theorem Container.Parser.readFrom_breaks_behind :
    let header := Container.Header.ofText ⟨.final, .final⟩ "<domain/>" true .raw
    let report : DeviceFault := .reported true "shut"
    let inside : Reader := [.interrupted, .data (header.encode.take 50), .interrupted,
      .data ((header.encode.drop 50).take 45), .fault report]
    let behind : Reader := [.data (header.encode ++ [0, 16]), .interrupted, .fault report]
    Container.Parser.standard.readFrom inside = .error (.read report) ∧
      ∃ rest, Container.Parser.standard.readFrom behind = .ok (header, rest) ∧
        DeclaredSize.readFrom rest = .error (.read report) := by
  intro header report inside behind
  refine ⟨?descriptor, ?size⟩
  case descriptor =>
    have breaks : inside.Breaks
        (header.encode.take 50 ++ ((header.encode.drop 50).take 45 ++ [])) report :=
      .interrupted (.piece (by decide +kernel) (.interrupted (.piece (by decide +kernel)
        (.failed report []))))
    obtain ⟨-, -, waiting, -⟩ := readFrom_breaks Container.Parser.standard breaks
    exact (waiting (by decide +kernel)).1.mpr (.inl (by decide +kernel))
  case size =>
    have breaks : behind.Breaks ((header.encode ++ [0, 16]) ++ []) report :=
      .piece (by decide +kernel) (.interrupted (.failed report []))
    obtain ⟨-, -, -, complete⟩ := readFrom_breaks Container.Parser.standard breaks
    exact complete header (by decide +kernel) (by decide +kernel)

-- The same fault behind the first 50 bytes of that header is reported as an end of the stream.
theorem Container.Parser.readFrom_breaks_early :
    let header := Container.Header.ofText ⟨.final, .final⟩ "<domain/>" true .raw
    let report : DeviceFault := .reported true "shut"
    let reader : Reader := [.data (header.encode.take 50), .fault report]
    reader.Breaks (header.encode.take 50 ++ []) report ∧
      Container.Parser.standard.parse (header.encode.take 50) = .ok none ∧
      ∃ failure, Container.Parser.standard.readFrom reader = .error failure ∧
        failure ≠ .read report ∧ failure.isFormat = true ∧
        failure.phase? = some .containerHeader := by
  intro header report reader
  have breaks : reader.Breaks (header.encode.take 50 ++ []) report :=
    .piece (by decide +kernel) (.failed report [])
  have waiting : Container.Parser.standard.parse (header.encode.take 50) = .ok none := by
    decide +kernel
  have read : Container.Parser.standard.readFrom reader = .error (.malformed .fixedPartCut) := by
    decide +kernel
  exact ⟨breaks, waiting, _, read, by decide, rfl, rfl⟩

end PageStream
