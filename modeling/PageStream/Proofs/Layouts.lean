import PageStream.Proofs.Encoding
import PageStream.Proofs.Painting

namespace PageStream

def Settings.Finds (settings : Settings) (bytes : Bytes) (header : Container.Header) : Prop :=
  settings.container ≠ .absent ∧ settings.parser.parse bytes = .ok (some header)

namespace Whole

theorem header_some {settings : Settings} {bytes : Bytes} {fault? : Option DeviceFault}
    {header : Container.Header} :
    Whole.header settings bytes fault? = .ok (some header) ↔ settings.Finds bytes header := by
  have scanned (mode : ContainerMode) :
      scan mode settings.parser bytes fault? = .ok (some header) ↔
        settings.parser.parse bytes = .ok (some header) := by
    rw [scan_some, Container.Parser.parse_exact]
  cases mode : settings.container with
  | auto => simp [Whole.header, Settings.Finds, mode, scanned]
  | required => simp [Whole.header, Settings.Finds, mode, scanned]
  | absent => simp [Whole.header, Settings.Finds, mode]

theorem opening_flat {settings : Settings} (flat : settings.layout = .flat) {bytes : Bytes}
    {fault? : Option DeviceFault} {opened : Opened}
    (opens : opening settings bytes fault? = .ok opened) : opened.kept = [] := by
  have keeps := (opening_ok.mp opens).2.2.1
  rw [flat] at keeps
  exact (Except.ok.inj keeps).symm

theorem opening_laid {one two : Settings} (container : one.container = two.container)
    (extra : one.extraMagics = two.extraMagics) {bytes : Bytes} {fault? : Option DeviceFault}
    {opened : Opened} (opens : opening one bytes fault? = .ok opened) {kept : Bytes}
    (keeps : Whole.kept two.layout opened.header = .ok kept) :
    opening two bytes fault? = .ok { opened with kept } := by
  have parser : one.parser = two.parser := by
    unfold Settings.parser
    rw [extra]
  have same : Whole.header one bytes fault? = Whole.header two bytes fault? := by
    unfold Whole.header
    rw [container, parser]
  obtain ⟨found, sized, -, behind⟩ := opening_ok.mp opens
  exact opening_ok.mpr ⟨same ▸ found, sized, keeps, behind⟩

end Whole

namespace Opened

-- What is kept in front moves the base and nothing else.
theorem closing_based (policy : Policy) (fault? : Option DeviceFault) (opened : Opened)
    (kept : Bytes) :
    (({ opened with kept } : Opened).closing policy fault?).stage =
        (opened.closing policy fault?).stage ∧
      (({ opened with kept } : Opened).closing policy fault?).result =
        (opened.closing policy fault?).result.map fun outcome =>
          { outcome with base := kept.length } := by
  have same : ({ opened with kept } : Opened).objection fault? = opened.objection fault? := rfl
  cases objects : opened.objection fault? with
  | some failure =>
    rw [closing_stopped policy objects, closing_stopped policy (same.trans objects)]
    exact ⟨rfl, rfl⟩
  | none =>
    rw [closing_whole policy objects, closing_whole policy (same.trans objects)]
    exact ⟨rfl, rfl⟩

theorem memory_shifted (opened : Opened) {last : List ImageCall}
    (kind : last = [] ∨ last = [.flush]) :
    (ImageSink.after (MemoryImage.mk []) (opened.calls ++ last)).bytes = opened.kept ++
      Record.paint 0 (List.replicate opened.declared.bytes 0) opened.applied := by
  rw [memory_painted opened _ kind, announced_blank]
  exact Record.paint_shifted opened.kept 0 _ opened.applied

end Opened

namespace Session

def laid (session : Session) (layout : Layout) : Session :=
  { session with settings := { session.settings with layout } }

theorem laid_bare {session : Session} {bytes : Bytes}
    (bare : ∀ header, ¬ session.settings.Finds bytes header) (fault? : Option DeviceFault) :
    Whole.plan (session.laid .withHeader).settings bytes fault? =
      Whole.plan (session.laid .flat).settings bytes fault? := by
  have same (layout : Layout) : Whole.header (session.laid layout).settings bytes fault? =
      Whole.header session.settings bytes fault? := rfl
  unfold Whole.plan Whole.opening
  rw [same, same]
  cases found : Whole.header session.settings bytes fault? with
  | error failure => rfl
  | ok header =>
    cases header with
    | none => rfl
    | some header => exact absurd (Whole.header_some.mp found) (bare header)

-- Two runs of which one keeps a header in front of the image of the other.
structure Shifted (header : Container.Header) (kept flat : Session × Run MemoryImage) : Prop where
  stage : kept.1.stage = flat.1.stage
  failedIn : kept.1.failedIn = flat.1.failedIn
  result : kept.2.result = flat.2.result.map fun outcome => { outcome with base := alignedLength }
  image : ∃ front, header.finalized.encodeAligned alignedLength = .ok front ∧
    kept.2.sink.bytes = front ++ flat.2.sink.bytes
  restored : ∃ again,
    Container.Parser.standard.parse (kept.2.sink.bytes.take alignedLength) = .ok (some again) ∧
      again.isAligned = true ∧ again.tag = ⟨.final, .final⟩ ∧
      again.wasRunning = header.wasRunning ∧ again.compression = header.compression ∧
      again.descriptorText = header.descriptorText

def front (header : Container.Header) : Container.Header := header.finalized.padded alignedLength

theorem front_kept {header : Container.Header} (short : header.payloadOffset ≤ alignedLength) :
    Whole.kept .withHeader (some header) = .ok (front header).encode := by
  have fits : header.finalized.payloadOffset ≤ alignedLength := short
  exact Container.Header.encodeAligned_padded fits

theorem front_length {header : Container.Header} (short : header.payloadOffset ≤ alignedLength) :
    (front header).encode.length = alignedLength := by
  have fits : header.finalized.payloadOffset ≤ alignedLength := short
  rw [Container.Header.encode_length]
  exact header.finalized.padded_payloadOffset fits

theorem front_fits {header : Container.Header} (short : header.payloadOffset ≤ alignedLength)
    {opened : Opened} (room : alignedLength + opened.declared.bytes < 2 ^ 64) :
    Opened.Fits { opened with kept := (front header).encode } := by
  rw [Opened.Fits, Opened.base, front_length short]
  exact room

variable {session : Session} {feed : Feed} {header : Container.Header}

-- What was read of the header is told by the one that is kept.
theorem front_restored (finds : session.settings.Finds feed.bytes header)
    (short : header.payloadOffset ≤ alignedLength) :
    ∃ again, Container.Parser.standard.parse (front header).encode = .ok (some again) ∧
      again.isAligned = true ∧ again.tag = ⟨.final, .final⟩ ∧
      again.wasRunning = header.wasRunning ∧ again.compression = header.compression ∧
      again.descriptorText = header.descriptorText := by
  have reads := Container.Parser.parse_exact.mp finds.2
  have again := reads.restorable short (by decide)
  have fits : header.finalized.payloadOffset ≤ alignedLength := short
  refine ⟨front header, Container.Parser.parse_exact.mpr again, ?_, rfl, rfl, rfl, ?_⟩
  · rw [Container.Header.isAligned, beq_iff_eq]
    exact header.finalized.padded_payloadOffset fits
  · exact header.finalized.padded_text alignedLength

theorem opening_shifted (finds : session.settings.Finds feed.bytes header)
    (short : header.payloadOffset ≤ alignedLength) {opened : Opened}
    (opens : Whole.opening (session.laid .flat).settings feed.bytes feed.fault? = .ok opened) :
    opened.kept = [] ∧ opened.header = some header ∧
      Whole.opening (session.laid .withHeader).settings feed.bytes feed.fault? =
        .ok { opened with kept := (front header).encode } := by
  have found : Whole.header (session.laid .flat).settings feed.bytes feed.fault? =
      .ok (some header) := Whole.header_some.mpr finds
  have same := found.symm.trans (Whole.opening_ok.mp opens).1
  have known : opened.header = some header := (Except.ok.inj same).symm
  refine ⟨Whole.opening_flat rfl opens, known, Whole.opening_laid ?_ ?_ opens ?_⟩
  · rfl
  · rfl
  · rw [known]
    exact front_kept short

-- The lengths of both layouts are words.
def Spacious (feed : Feed) (header : Container.Header) : Prop :=
  ∀ declared, DeclaredSize.parse (feed.bytes.drop header.payloadOffset) = .ok (some declared) →
    alignedLength + declared.bytes < 2 ^ 64

theorem opening_spacious (finds : session.settings.Finds feed.bytes header)
    (spacious : Spacious feed header) {opened : Opened}
    (opens : Whole.opening (session.laid .flat).settings feed.bytes feed.fault? = .ok opened) :
    opened.Fits ∧ alignedLength + opened.declared.bytes < 2 ^ 64 := by
  have found : Whole.header (session.laid .flat).settings feed.bytes feed.fault? =
      .ok (some header) := Whole.header_some.mpr finds
  obtain ⟨found', sized, -, -⟩ := Whole.opening_ok.mp opens
  rw [← Except.ok.inj (found.symm.trans found')] at sized
  have room := spacious _ (Whole.size_parsed sized)
  refine ⟨?_, room⟩
  rw [Opened.Fits, Opened.base, Whole.opening_flat rfl opens, List.length_nil]
  omega

theorem past_laid (fresh : session.stage = .init) (finds : session.settings.Finds feed.bytes header)
    (short : header.payloadOffset ≤ alignedLength) (spacious : Spacious feed header)
    (journal journal' : Journal) :
    ((session.laid .withHeader).run feed (MemoryImage.mk []) journal).1.Past ↔
      ((session.laid .flat).run feed (MemoryImage.mk []) journal').1.Past := by
  have start (layout : Layout) : (session.laid layout).stage = .init := fresh
  rw [past_iff (start .withHeader) (.memory _), past_iff (start .flat) (.memory _)]
  constructor
  · rintro ⟨-, opened, opens, -⟩
    have bare : Whole.kept (session.laid .flat).settings.layout opened.header = .ok [] := rfl
    have flat : Whole.opening (session.laid .flat).settings feed.bytes feed.fault? =
        .ok { opened with kept := [] } := by
      refine Whole.opening_laid ?_ ?_ opens bare
      · rfl
      · rfl
    exact ⟨memory_undisturbed _ _ _ _, _, flat, (opening_spacious finds spacious flat).1⟩
  · rintro ⟨-, opened, opens, -⟩
    exact ⟨memory_undisturbed _ _ _ _, _, (opening_shifted finds short opens).2.2,
      front_fits short (opening_spacious finds spacious opens).2⟩

theorem run_shifted (fresh : session.stage = .init)
    (finds : session.settings.Finds feed.bytes header)
    (short : header.payloadOffset ≤ alignedLength) (spacious : Spacious feed header)
    (journal journal' : Journal)
    (past : ((session.laid .flat).run feed (MemoryImage.mk []) journal').1.Past) :
    Shifted header ((session.laid .withHeader).run feed (MemoryImage.mk []) journal)
      ((session.laid .flat).run feed (MemoryImage.mk []) journal') := by
  have start (layout : Layout) : (session.laid layout).stage = .init := fresh
  have one := memory_undisturbed ⟨[]⟩ (session.laid .withHeader) feed journal
  have two := memory_undisturbed ⟨[]⟩ (session.laid .flat) feed journal'
  obtain ⟨-, opened, opens, fits⟩ := (past_iff (start .flat) (.memory _)).mp past
  obtain ⟨bare, known, opens'⟩ := opening_shifted finds short opens
  have fits' := front_fits short (opening_spacious finds spacious opens).2
  obtain ⟨last, calls, kind⟩ := Whole.plan_calls opens fits
  obtain ⟨last', calls', kind'⟩ := Whole.plan_calls opens' fits'
  have closing := opened.closing_based session.settings.policy feed.fault? (front header).encode
  have stage : ((session.laid .withHeader).run feed (MemoryImage.mk []) journal).2.stage =
      ((session.laid .flat).run feed (MemoryImage.mk []) journal').2.stage := by
    rw [run_stage (start .withHeader) one, run_stage (start .flat) two,
      (Whole.plan_ended opens' fits').1, (Whole.plan_ended opens fits).1]
    exact closing.1
  have result : ((session.laid .withHeader).run feed (MemoryImage.mk []) journal).2.result =
      ((session.laid .flat).run feed (MemoryImage.mk []) journal').2.result.map fun outcome =>
        { outcome with base := alignedLength } := by
    rw [run_result (start .withHeader) one, run_result (start .flat) two,
      (Whole.plan_ended opens' fits').2, (Whole.plan_ended opens fits).2]
    exact front_length short ▸ closing.2
  have image : ((session.laid .withHeader).run feed (MemoryImage.mk []) journal).2.sink.bytes =
      (front header).encode ++
        ((session.laid .flat).run feed (MemoryImage.mk []) journal').2.sink.bytes := by
    rw [run_sink (start .withHeader) one, run_sink (start .flat) two, calls, calls',
      Opened.memory_shifted _ kind, Opened.memory_shifted _ kind', bare]
    rfl
  have unfailed : (session.laid .withHeader).failedIn = (session.laid .flat).failedIn := rfl
  have alike : ((session.laid .withHeader).run feed (MemoryImage.mk []) journal).2.result.map
        (fun _ => ()) =
      ((session.laid .flat).run feed (MemoryImage.mk []) journal').2.result.map fun _ => () := by
    rw [result]
    cases ((session.laid .flat).run feed (MemoryImage.mk []) journal').2.result <;> rfl
  have closed := closed_alike unfailed
    ((session.laid .flat).run feed (MemoryImage.mk []) journal').2.stage alike
  rw [← (run_fresh (start .flat) feed _ journal').2, ← stage,
    ← (run_fresh (start .withHeader) feed _ journal).2] at closed
  refine ⟨closed.1, closed.2, result, ⟨_, front_kept short, image⟩, ?restored⟩
  case restored =>
    rw [image, List.take_left' (front_length short)]
    exact front_restored finds short

-- A header that is too long to be kept is refused once the size is known.
theorem opening_overlong (finds : session.settings.Finds feed.bytes header)
    (long : alignedLength < header.payloadOffset) {declared : DeclaredSize}
    (sized : DeclaredSize.parse (feed.bytes.drop header.payloadOffset) = .ok (some declared)) :
    Whole.opening (session.laid .withHeader).settings feed.bytes feed.fault? =
      .error (.readingSizeHeader, .overflow (.longHeader header.payloadOffset alignedLength)) := by
  have found : Whole.header (session.laid .withHeader).settings feed.bytes feed.fault? =
      .ok (some header) := Whole.header_some.mpr finds
  have refused : Whole.kept (session.laid .withHeader).settings.layout (some header) =
      .error (.overflow (.longHeader header.payloadOffset alignedLength)) := if_pos long
  unfold Whole.opening Whole.size
  simp only [found, Whole.frontLength, sized, refused]

-- A run that keeps the header is a flat run behind a header that can be restored.
theorem run_laid {session : Session} (fresh : session.stage = .init) (feed : Feed)
    (journal journal' : Journal) :
    let kept := (session.laid .withHeader).run feed (MemoryImage.mk []) journal
    let flat := (session.laid .flat).run feed (MemoryImage.mk []) journal'
    ((∀ header, ¬ session.settings.Finds feed.bytes header) →
      Agree (session.laid .withHeader) (session.laid .flat) feed feed (MemoryImage.mk []) journal
        journal') ∧
    ∀ header, session.settings.Finds feed.bytes header →
      (header.payloadOffset ≤ alignedLength → Spacious feed header →
        (kept.1.Past ↔ flat.1.Past) ∧ (flat.1.Past → Shifted header kept flat)) ∧
      (alignedLength < header.payloadOffset → ∀ declared,
        DeclaredSize.parse (feed.bytes.drop header.payloadOffset) = .ok (some declared) →
        kept.2.result =
            .error (.overflow (.longHeader header.payloadOffset alignedLength)) ∧
          kept.1.failedIn = some .readingSizeHeader ∧
          ((session.laid .withHeader).run feed (Recorder.mk (MemoryImage.mk []) [])
            journal).2.sink.calls = []) := by
  intro kept flat
  have start (layout : Layout) : (session.laid layout).stage = .init := fresh
  refine ⟨?bare, ?headed⟩
  case bare =>
    intro bare
    have unfailed : (session.laid .withHeader).failedIn = (session.laid .flat).failedIn := rfl
    exact agree_of_plan (start .withHeader) (start .flat) unfailed (laid_bare bare feed.fault?) _ _ _
  case headed =>
    intro header finds
    refine ⟨?short, ?long⟩
    case short =>
      intro short spacious
      exact ⟨past_laid fresh finds short spacious journal journal',
        run_shifted fresh finds short spacious journal journal'⟩
    case long =>
      intro long declared sized
      have refused := opening_overlong finds long sized
      obtain ⟨result, failedIn, -, calls⟩ :=
        run_closed (start .withHeader) refused (MemoryImage.mk []) journal
      exact ⟨result, failedIn, calls⟩

-- A save in progress whose stream breaks down within its first record.
theorem run_laid_part :
    let header : Container.Header :=
      ⟨⟨.inProgress, .inProgress⟩, containerVersion, true, .unknown 7, [60, 62, 0, 0]⟩
    let session : Session := ⟨{}, .init, none⟩
    let feed : Feed := [.piece header.encode, .piece [0, 16, 0], .piece [0, 0, 0, 0, 0, 7, 7],
      .failed .readerCrashed]
    Shifted header ((session.laid .withHeader).run feed (MemoryImage.mk []) .empty)
      ((session.laid .flat).run feed (MemoryImage.mk []) .empty) := by
  intro header session feed
  have fresh : session.stage = .init := rfl
  have bytes : feed.bytes = header.encode ++ [0, 16, 0, 0, 0, 0, 0, 0, 7, 7] := rfl
  have fits : header.Encodable session.settings.parser :=
    ⟨rfl, rfl, by decide, by decide, rfl, rfl⟩
  have finds : session.settings.Finds feed.bytes header := by
    refine ⟨by decide, ?_⟩
    rw [bytes]
    exact Container.Parser.parse_exact.mpr (fits.reads.append _)
  have behind : feed.bytes.drop header.payloadOffset = [0, 16, 0, 0, 0, 0, 0, 0, 7, 7] := by
    rw [bytes, List.drop_left' header.encode_length]
  have opens : Whole.opening (session.laid .flat).settings feed.bytes feed.fault? =
      .ok ⟨some header, ⟨pageSize, rfl⟩, [], [7, 7]⟩ := by
    refine Whole.opening_ok.mpr ⟨Whole.header_some.mpr finds, ?_, rfl, ?_⟩
    · rw [Whole.frontLength, behind]
      rfl
    · rw [Whole.frontLength, behind]
      rfl
  have past : ((session.laid .flat).run feed (MemoryImage.mk []) .empty).1.Past :=
    (past_iff fresh (.memory _)).mpr ⟨memory_undisturbed ⟨[]⟩ _ _ _, _, opens, by decide⟩
  have spacious : Spacious feed header := by
    intro declared parsed
    rw [behind] at parsed
    cases parsed
    decide
  exact (((run_laid fresh feed .empty .empty).2 header finds).1 (by decide) spacious).2 past

end Session

end PageStream
