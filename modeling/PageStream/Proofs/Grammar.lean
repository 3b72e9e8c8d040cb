import PageStream.Proofs.Runs

namespace PageStream

-- What may stand in front of the declared size, in a stream of these bytes.
inductive Front (settings : Settings) (bytes : Bytes) : Option Container.Header → Bytes → Prop where
  | header {header : Container.Header} {front : Bytes}
      (called : settings.container = .required ∨
        settings.container = .auto ∧ settings.parser.Accepts bytes)
      (reads : settings.parser.Reads front header) (whole : front.length = header.payloadOffset) :
      Front settings bytes (some header) front
  | bare (uncalled : settings.container = .absent ∨
        settings.container = .auto ∧ ¬ settings.parser.Accepts bytes) :
      Front settings bytes none []

theorem Front.length_eq {settings : Settings} {bytes front : Bytes}
    {header : Option Container.Header} (stands : Front settings bytes header front) :
    front.length = Whole.frontLength header := by
  cases stands with
  | header _ _ whole => exact whole
  | bare _ => rfl

theorem Front.bare_iff {settings : Settings} {bytes front : Bytes}
    {header : Option Container.Header} (stands : Front settings bytes header front) :
    front = [] ↔ header = none := by
  cases stands with
  | header _ reads whole =>
    refine ⟨fun bare => ?_, nofun⟩
    subst bare
    have enough := reads.enough
    have fixed : 0 < fixedLength := by decide
    simp only [Container.Header.payloadOffset, List.length_nil] at enough
    omega
  | bare _ => exact ⟨fun _ => rfl, fun _ => rfl⟩

theorem Front.parsed {settings : Settings} {bytes front : Bytes}
    {header : Option Container.Header} (stands : Front settings bytes header front) :
    settings.parser.parse front = .ok header := by
  cases stands with
  | header _ reads _ => exact Container.Parser.parse_exact.mpr reads
  | bare _ => rfl

-- The parts of a stream that is accepted, front to back.
structure Grammar (settings : Settings) (bytes : Bytes) (header : Option Container.Header)
    (front word : Bytes) (declared : DeclaredSize) (records : List Record) : Prop where
  parts : bytes = front ++ (word ++ Record.join records)
  stands : Front settings bytes header front
  wordLength : word.length = sizeHeaderLength
  size : ofLe word = declared.bytes
  aligned : ∀ record ∈ records, record.word % 2 ^ offsetBits % pageSize = 0
  fits : settings.layout = .withHeader → front.length ≤ alignedLength

namespace Whole

theorem scan_some {mode : ContainerMode} {parser : Container.Parser} {bytes : Bytes}
    {fault? : Option DeviceFault} {header : Container.Header} :
    scan mode parser bytes fault? = .ok (some header) ↔ parser.Reads bytes header := by
  constructor
  · intro found
    unfold scan at found
    split at found
    · split at found <;> cases found
    · split at found
      · cases found
      · rename_i parsed
        cases found
        exact Container.Parser.parse_exact.mp parsed
      · unfold undecided at found
        split at found
        · cases found
        · split at found <;> cases found
  · intro reads
    have known := Container.Parser.recognizes_iff.mpr reads.accepts
    have parsed := Container.Parser.parse_exact.mpr reads
    rw [scan, if_neg (fun unknown => unknown.2 known), parsed]

theorem scan_none {mode : ContainerMode} {parser : Container.Parser} {bytes : Bytes} :
    scan mode parser bytes none = .ok none ↔ mode ≠ .required ∧ ¬ parser.Accepts bytes := by
  rw [← Container.Parser.recognizes_iff]
  constructor
  · intro found
    unfold scan at found
    split at found
    · rename_i unknown
      split at found
      · cases found
      · rename_i optional
        exact ⟨optional, unknown.2⟩
    · split at found
      · cases found
      · cases found
      · unfold undecided at found
        split at found
        · cases found
        · rename_i short
          split at found
          · rename_i short
            refine ⟨short.1, fun known => ?_⟩
            exact Nat.not_le.mpr short.2 (Container.Parser.recognizes_iff.mp known).long
          · cases found
  · rintro ⟨optional, unknown⟩
    by_cases long : magicLength ≤ bytes.length
    · rw [scan, if_pos ⟨long, unknown⟩, if_neg optional]
    · have short : bytes.length < magicLength := Nat.lt_of_not_le long
      have waiting : parser.parse bytes = .ok none := by
        by_contra decided
        exact long (Nat.le_trans (by decide) (Container.Parser.parse_long decided))
      rw [scan_open (fun unknown => long unknown.1) waiting, undecided, if_pos ⟨optional, short⟩]

theorem header_ok {settings : Settings} {bytes : Bytes} {header : Option Container.Header} :
    Whole.header settings bytes none = .ok header ↔
      Front settings bytes header (bytes.take (frontLength header)) := by
  have scanned {mode : ContainerMode} (mode_eq : settings.container = mode)
      (looked : mode ≠ .absent) :
      scan mode settings.parser bytes none = .ok header ↔
        Front settings bytes header (bytes.take (frontLength header)) := by
    cases header with
    | some header =>
      rw [scan_some]
      constructor
      · intro reads
        refine .header ?_ reads.take (List.length_take_of_le reads.enough)
        cases mode with
        | auto => exact .inr ⟨mode_eq, reads.accepts⟩
        | required => exact .inl mode_eq
        | absent => exact absurd rfl looked
      · rintro (⟨_, reads, -⟩ | _)
        have whole := reads.append (bytes.drop header.payloadOffset)
        rwa [frontLength, List.take_append_drop] at whole
    | none =>
      rw [scan_none]
      constructor
      · rintro ⟨optional, unknown⟩
        cases mode with
        | auto => exact .bare (.inr ⟨mode_eq, unknown⟩)
        | required => exact absurd rfl optional
        | absent => exact absurd rfl looked
      · intro stands
        generalize bytes.take (frontLength none) = front at stands
        cases stands with
        | bare uncalled =>
          rcases uncalled with absent | ⟨auto, unknown⟩
          · exact absurd (mode_eq.symm.trans absent) looked
          · exact ⟨by rw [← mode_eq, auto]; decide, unknown⟩
  cases mode : settings.container with
  | auto => simpa only [Whole.header, mode] using scanned mode (by decide)
  | required => simpa only [Whole.header, mode] using scanned mode (by decide)
  | absent =>
    simp only [Whole.header, mode]
    constructor
    · intro found
      cases found
      exact .bare (.inl mode)
    · rintro (⟨called, -, -⟩ | _)
      · rw [mode] at called
        rcases called with impossible | ⟨impossible, -⟩ <;> cases impossible
      · rfl

theorem size_ok {bytes : Bytes} {declared : DeclaredSize} :
    size bytes none = .ok declared ↔
      sizeHeaderLength ≤ bytes.length ∧ ofLe (bytes.take sizeHeaderLength) = declared.bytes := by
  by_cases short : bytes.length < sizeHeaderLength
  · simp only [size, DeclaredSize.parse, short, if_true, unsized, reduceCtorEq, false_iff, not_and]
    omega
  · have word : wordAt bytes 0 sizeHeaderLength = ofLe (bytes.take sizeHeaderLength) := rfl
    obtain ⟨count, whole⟩ := declared
    simp only [size, DeclaredSize.parse, short, if_false, word, DeclaredSize.ofBytes]
    by_cases aligned : ofLe (bytes.take sizeHeaderLength) % pageSize = 0
    · simp only [aligned, dite_true, Except.map, Except.ok.injEq, DeclaredSize.mk.injEq]
      omega
    · simp only [aligned, dite_false, Except.map, reduceCtorEq, false_iff, not_and]
      rintro - rfl
      exact aligned whole

theorem kept_ok {layout : Layout} {header : Option Container.Header} :
    (∃ bytes, kept layout header = .ok bytes) ↔
      (layout = .withHeader → frontLength header ≤ alignedLength) := by
  cases layout with
  | flat => simp [kept]
  | withHeader =>
    cases header with
    | none => simp [kept, frontLength]
    | some header =>
      have same : header.finalized.payloadOffset = header.payloadOffset := rfl
      by_cases long : alignedLength < header.payloadOffset
      · simp [kept, frontLength, Container.Header.encodeAligned, same, long]
      · simp [kept, frontLength, Container.Header.encodeAligned, same, long, Nat.le_of_not_lt long]

theorem kept_length {layout : Layout} {header : Option Container.Header} {bytes : Bytes}
    (keeps : kept layout header = .ok bytes) :
    bytes.length = if layout = .withHeader ∧ header ≠ none then alignedLength else 0 := by
  cases layout with
  | flat => cases keeps; rfl
  | withHeader =>
    cases header with
    | none => cases keeps; rfl
    | some header =>
      rw [Container.Header.encodeAligned_length keeps, if_pos ⟨rfl, nofun⟩]

theorem kept_le {layout : Layout} {header : Option Container.Header} {bytes : Bytes}
    (keeps : kept layout header = .ok bytes) : bytes.length ≤ alignedLength := by
  rw [kept_length keeps]
  split
  · exact Nat.le_refl _
  · exact Nat.zero_le _

end Whole

theorem Record.aligned_iff {record : Record} :
    record.aligned = true ↔ record.word % 2 ^ offsetBits % pageSize = 0 := by
  rw [aligned, beq_iff_eq]
  rfl

namespace Opened

theorem objection_none {opened : Opened} :
    opened.objection none = none ↔
      (∀ record ∈ opened.records, record.aligned = true) ∧ opened.tail = [] := by
  cases refused : Record.refusal 0 opened.records with
  | some failure =>
    rw [objection_refused refused]
    refine ⟨nofun, fun good => ?_⟩
    rw [Record.refusal_none.mpr good.1] at refused
    cases refused
  | none =>
    rw [objection_clean refused]
    have good := Record.refusal_none.mp refused
    by_cases whole : opened.tail = []
    · rw [if_pos whole]
      exact ⟨fun _ => ⟨good, whole⟩, fun _ => rfl⟩
    · rw [if_neg whole]
      exact ⟨nofun, fun both => absurd both.2 whole⟩

theorem payload_joined (opened : Opened) :
    Record.join opened.records ++ opened.tail = opened.payload := Record.split_joined opened.payload

end Opened

-- Headers that are accepted, and behind them anything at all.
structure Headed (settings : Settings) (bytes : Bytes) (header : Option Container.Header)
    (front word : Bytes) (declared : DeclaredSize) (payload : Bytes) : Prop where
  parts : bytes = front ++ (word ++ payload)
  stands : Front settings bytes header front
  wordLength : word.length = sizeHeaderLength
  size : ofLe word = declared.bytes
  fits : settings.layout = .withHeader → front.length ≤ alignedLength

theorem Headed.opens {settings : Settings} {bytes front word payload : Bytes}
    {header : Option Container.Header} {declared : DeclaredSize}
    (headed : Headed settings bytes header front word declared payload) :
    ∃ kept, Whole.opening settings bytes none = .ok ⟨header, declared, kept, payload⟩ := by
  have inside := headed.stands.length_eq
  have first : bytes.take (Whole.frontLength header) = front := by
    rw [headed.parts, ← inside, List.take_left]
  have rest : bytes.drop (Whole.frontLength header) = word ++ payload := by
    rw [headed.parts, ← inside, List.drop_left]
  have fits : settings.layout = .withHeader → Whole.frontLength header ≤ alignedLength :=
    inside ▸ headed.fits
  obtain ⟨kept, keeps⟩ := Whole.kept_ok.mpr fits
  refine ⟨kept, Whole.opening_ok.mpr ⟨?_, ?_, keeps, ?_⟩⟩
  · exact Whole.header_ok.mpr (first ▸ headed.stands)
  · rw [Whole.size_ok, rest, List.take_left' headed.wordLength]
    exact ⟨by simp only [List.length_append, headed.wordLength]; omega, headed.size⟩
  · rw [rest, List.drop_left' headed.wordLength]

theorem Headed.size_lt {settings : Settings} {bytes front word payload : Bytes}
    {header : Option Container.Header} {declared : DeclaredSize}
    (headed : Headed settings bytes header front word declared payload) :
    declared.bytes < 2 ^ 64 := by
  have bound := ofLe_lt word
  rwa [headed.wordLength, headed.size] at bound

namespace Whole

theorem scan_clean {mode : ContainerMode} {parser : Container.Parser} {bytes : Bytes}
    {fault? : Option DeviceFault} {header : Option Container.Header}
    (found : scan mode parser bytes fault? = .ok header) :
    scan mode parser bytes none = .ok header := by
  by_cases unknown : magicLength ≤ bytes.length ∧ ¬ parser.recognizes bytes
  · rwa [scan, if_pos unknown] at found ⊢
  · rw [scan, if_neg unknown] at found ⊢
    rcases parsed : parser.parse bytes with failure | _ | known
    · rw [parsed] at found
      cases found
    · rw [parsed] at found
      cases fault? with
      | some fault => cases found
      | none => exact found
    · rwa [parsed] at found

theorem header_clean {settings : Settings} {bytes : Bytes} {fault? : Option DeviceFault}
    {header : Option Container.Header} (found : Whole.header settings bytes fault? = .ok header) :
    Whole.header settings bytes none = .ok header := by
  unfold Whole.header at found ⊢
  cases mode : settings.container with
  | absent => rwa [mode] at found
  | auto => exact scan_clean (by rwa [mode] at found)
  | required => exact scan_clean (by rwa [mode] at found)

theorem size_parsed {bytes : Bytes} {fault? : Option DeviceFault} {declared : DeclaredSize}
    (sized : size bytes fault? = .ok declared) : DeclaredSize.parse bytes = .ok (some declared) := by
  unfold size at sized
  rcases parsed : DeclaredSize.parse bytes with failure | _ | size
  · rw [parsed] at sized
    cases sized
  · rw [parsed] at sized
    cases fault? with
    | some fault => cases sized
    | none => cases sized
  · rw [parsed] at sized
    cases sized
    rfl

theorem size_clean {bytes : Bytes} {fault? : Option DeviceFault} {declared : DeclaredSize}
    (sized : size bytes fault? = .ok declared) : size bytes none = .ok declared := by
  rw [size, size_parsed sized]

end Whole

theorem Headed.of_opening {settings : Settings} {bytes : Bytes} {fault? : Option DeviceFault}
    {opened : Opened} (opens : Whole.opening settings bytes fault? = .ok opened) :
    Headed settings bytes opened.header (bytes.take (Whole.frontLength opened.header))
      ((bytes.drop (Whole.frontLength opened.header)).take sizeHeaderLength)
      opened.declared opened.payload := by
  obtain ⟨found, sized, keeps, behind⟩ := Whole.opening_ok.mp opens
  obtain ⟨long, size⟩ := Whole.size_ok.mp (Whole.size_clean sized)
  have stands := Whole.header_ok.mp (Whole.header_clean found)
  exact {
    parts := by rw [← behind, List.take_append_drop, List.take_append_drop]
    stands
    wordLength := List.length_take_of_le long
    size
    fits := fun layout => by
      rw [stands.length_eq]
      exact Whole.kept_ok.mp ⟨_, keeps⟩ layout }

-- Only behind a kept header is the length to be announced no word.
theorem Whole.opening_overruns {settings : Settings} {bytes : Bytes}
    {fault? : Option DeviceFault} {opened : Opened}
    (opens : Whole.opening settings bytes fault? = .ok opened) (overruns : ¬ opened.Fits) :
    opened.kept.length = alignedLength := by
  have length := Whole.kept_length (Whole.opening_ok.mp opens).2.2.1
  split at length
  · exact length
  · refine absurd ?_ overruns
    rw [Opened.Fits, Opened.base, length, Nat.zero_add]
    exact (Headed.of_opening opens).size_lt

namespace Grammar

variable {settings : Settings} {bytes front word : Bytes} {header : Option Container.Header}
  {declared : DeclaredSize} {records : List Record}

theorem headed (grammar : Grammar settings bytes header front word declared records) :
    Headed settings bytes header front word declared (Record.join records) :=
  ⟨grammar.parts, grammar.stands, grammar.wordLength, grammar.size, grammar.fits⟩

theorem opens (grammar : Grammar settings bytes header front word declared records) :
    ∃ kept, Whole.opening settings bytes none =
      .ok ⟨header, declared, kept, Record.join records⟩ := grammar.headed.opens

theorem same_records {header' : Option Container.Header} {front' word' : Bytes}
    {declared' : DeclaredSize} {records' : List Record}
    (grammar : Grammar settings bytes header front word declared records)
    (grammar' : Grammar settings bytes header' front' word' declared' records') :
    records = records' := by
  obtain ⟨kept, opens⟩ := grammar.opens
  obtain ⟨kept', opens'⟩ := grammar'.opens
  rw [opens'] at opens
  have joined : Record.join records' = Record.join records :=
    congrArg (·.payload) (Except.ok.inj opens)
  have split := congrArg (fun bytes => (Record.split bytes).1) joined
  simp only [Record.split_joins] at split
  exact split.symm

theorem of_opening {opened : Opened}
    (opens : Whole.opening settings bytes none = .ok opened)
    (good : opened.objection none = none) :
    Grammar settings bytes opened.header (bytes.take (Whole.frontLength opened.header))
      ((bytes.drop (Whole.frontLength opened.header)).take sizeHeaderLength)
      opened.declared opened.records := by
  obtain ⟨aligned, whole⟩ := Opened.objection_none.mp good
  have headed := Headed.of_opening opens
  have joined := opened.payload_joined
  rw [whole, List.append_nil] at joined
  exact {
    parts := joined ▸ headed.parts
    stands := headed.stands
    wordLength := headed.wordLength
    size := headed.size
    aligned := fun record member => Record.aligned_iff.mp (aligned record member)
    fits := headed.fits }

end Grammar

def Record.zeros : Record := ⟨List.replicate recordSize 0, List.length_replicate⟩

-- A record with a header of one's own, its page full of one byte.
def Record.filled (header : PageHeader) (byte : UInt8) : Record where
  bytes := header.toBytes ++ List.replicate pageSize byte
  length_eq := by
    rw [List.length_append, List.length_replicate, PageHeader.toBytes, le_length]
    rfl

@[simp] theorem Record.filled_header (header : PageHeader) (byte : UInt8) :
    (filled header byte).header = header := by
  have whole : header.toBytes.length = pageHeaderLength := le_length _ _
  have word : (filled header byte).word = header.word := by
    rw [Record.word, headerBytes, filled, List.take_left' whole, PageHeader.toBytes, ofLe_le]
    exact Nat.mod_eq_of_lt header.word_lt
  rw [Record.header, word, PageHeader.split_word]

theorem Grammar.of_absent {settings : Settings} (absent : settings.container = .absent)
    {bytes word : Bytes} {declared : DeclaredSize} {records : List Record}
    (parts : bytes = word ++ Record.join records) (wordLength : word.length = sizeHeaderLength)
    (size : ofLe word = declared.bytes) (aligned : ∀ record ∈ records, record.aligned = true) :
    Grammar settings bytes none [] word declared records where
  parts := parts
  stands := .bare (.inl absent)
  wordLength := wordLength
  size := size
  aligned record member := Record.aligned_iff.mp (aligned record member)
  fits _ := Nat.zero_le _

theorem Grammar.of_zeros :
    Grammar {} ([0, 16, 0, 0, 0, 0, 0, 0] ++ Record.zeros.bytes) none [] [0, 16, 0, 0, 0, 0, 0, 0]
      ⟨pageSize, rfl⟩ [Record.zeros] where
  parts := by simp [Record.join]
  stands := .bare (.inr ⟨rfl, fun known =>
    absurd (Container.Parser.recognizes_iff.mpr known) (by decide +kernel)⟩)
  wordLength := rfl
  size := by decide
  aligned := by decide
  fits := nofun

-- Where page offset zero lies when this stands in front of the declared size.
def Settings.base (settings : Settings) (front : Bytes) : Nat :=
  if settings.layout = .withHeader ∧ front ≠ [] then alignedLength else 0

theorem Front.base_eq {settings : Settings} {bytes front kept : Bytes}
    {header : Option Container.Header} (stands : Front settings bytes header front)
    (keeps : Whole.kept settings.layout header = .ok kept) :
    kept.length = settings.base front := by
  simp only [Settings.base, ne_eq, stands.bare_iff]
  exact Whole.kept_length keeps

-- The length that a stream announces behind good headers is a word.
def Room (settings : Settings) (bytes : Bytes) : Prop :=
  ∀ header front word declared payload,
    Headed settings bytes header front word declared payload →
      settings.base front + declared.bytes < 2 ^ 64

theorem Room.fits {settings : Settings} {bytes : Bytes} (room : Room settings bytes)
    {fault? : Option DeviceFault} {opened : Opened}
    (opens : Whole.opening settings bytes fault? = .ok opened) : opened.Fits := by
  have headed := Headed.of_opening opens
  rw [Opened.Fits, Opened.base, headed.stands.base_eq (Whole.opening_ok.mp opens).2.2.1]
  exact room _ _ _ _ _ headed

structure Outcome.Describes (outcome : Outcome) (settings : Settings) (front : Bytes)
    (declared : DeclaredSize) (records : List Record) : Prop where
  header : settings.parser.parse front = .ok outcome.header
  size : outcome.declared = declared
  base : outcome.base = settings.base front
  count : outcome.records = records.length
  bytesIn : outcome.bytesIn = recordSize * records.length

theorem Grammar.describes {settings : Settings} {bytes front word kept : Bytes}
    {header : Option Container.Header} {declared : DeclaredSize} {records : List Record}
    (grammar : Grammar settings bytes header front word declared records)
    (keeps : Whole.kept settings.layout header = .ok kept) (policy : Policy) :
    (Opened.outcome policy ⟨header, declared, kept, Record.join records⟩).Describes settings front
      declared records where
  header := grammar.stands.parsed
  size := rfl
  base := grammar.stands.base_eq keeps
  count := congrArg (·.1.length) (Record.split_joins records)
  bytesIn := Record.join_length records

namespace Session

variable {σ : Type} [ImageSink σ]

theorem run_grammar {session : Session} (fresh : session.stage = .init) {feed : Feed}
    (clean : feed.fault? = none) {sink : σ} {journal : Journal}
    (undisturbed : session.Undisturbed feed sink journal)
    {header : Option Container.Header} {front word : Bytes} {declared : DeclaredSize}
    {records : List Record}
    (grammar : Grammar session.settings feed.bytes header front word declared records)
    (room : session.settings.base front + declared.bytes < 2 ^ 64) :
    ∃ kept, Whole.kept session.settings.layout header = .ok kept ∧
      (session.run feed sink journal).2.result = .ok
        (Opened.outcome session.settings.policy ⟨header, declared, kept, Record.join records⟩) := by
  obtain ⟨kept, opens⟩ := grammar.opens
  have keeps := (Whole.opening_ok.mp opens).2.2.1
  have fits : Opened.Fits ⟨header, declared, kept, Record.join records⟩ := by
    rw [← grammar.stands.base_eq keeps] at room
    exact room
  refine ⟨kept, keeps, ?_⟩
  rw [run_result fresh undisturbed, clean]
  refine Whole.plan_ok.mpr ⟨_, opens, fits, Opened.objection_none.mpr ?_, rfl⟩
  simp only [Opened.records, Opened.tail, Record.split_joins, and_true]
  exact fun record member => Record.aligned_iff.mpr (grammar.aligned record member)

-- A session accepts just the streams of the grammar whose length can be announced, however they are
-- cut, and tells their parts.
theorem run_ok_iff {session : Session} (fresh : session.stage = .init) {feed : Feed}
    (clean : feed.fault? = none) {sink : σ} {journal : Journal}
    (undisturbed : session.Undisturbed feed sink journal) :
    ((∃ outcome, (session.run feed sink journal).2.result = .ok outcome) ↔
        ∃ header front word declared records,
          Grammar session.settings feed.bytes header front word declared records ∧
          session.settings.base front + declared.bytes < 2 ^ 64) ∧
      ∀ header front word declared records,
        Grammar session.settings feed.bytes header front word declared records →
        session.settings.base front + declared.bytes < 2 ^ 64 →
        ∃ outcome, (session.run feed sink journal).2.result = .ok outcome ∧
          outcome.Describes session.settings front declared records := by
  refine ⟨⟨?_, ?_⟩, ?_⟩
  · rintro ⟨outcome, accepted⟩
    rw [run_result fresh undisturbed, clean] at accepted
    obtain ⟨opened, opens, fits, good, -⟩ := Whole.plan_ok.mp accepted
    have grammar := Grammar.of_opening opens good
    refine ⟨_, _, _, _, _, grammar, ?_⟩
    rw [← grammar.stands.base_eq (Whole.opening_ok.mp opens).2.2.1]
    exact fits
  · rintro ⟨header, front, word, declared, records, grammar, room⟩
    obtain ⟨kept, -, accepted⟩ := run_grammar fresh clean undisturbed grammar room
    exact ⟨_, accepted⟩
  · intro header front word declared records grammar room
    obtain ⟨kept, keeps, accepted⟩ := run_grammar fresh clean undisturbed grammar room
    exact ⟨_, accepted, grammar.describes keeps session.settings.policy⟩

-- A page of zeros whose size word is cut in two.
theorem run_ok_iff_zeros :
    let session : Session := ⟨{}, .init, none⟩
    let feed : Feed := [.piece [0, 16, 0], .piece ([0, 0, 0, 0, 0] ++ Record.zeros.bytes), .ended]
    ∃ outcome, (session.run feed (MemoryImage.mk []) .empty).2.result = .ok outcome ∧
      outcome.Describes {} [] ⟨pageSize, rfl⟩ [Record.zeros] := by
  intro session feed
  have fresh : session.stage = .init := rfl
  have clean : feed.fault? = none := rfl
  have bytes : feed.bytes = [0, 16, 0, 0, 0, 0, 0, 0] ++ Record.zeros.bytes := by
    simp [feed, Feed.bytes]
  have undisturbed := memory_undisturbed ⟨[]⟩ session feed .empty
  have accepts := (run_ok_iff fresh clean undisturbed).2
  exact accepts none [] _ ⟨pageSize, rfl⟩ [Record.zeros] (bytes ▸ Grammar.of_zeros) (by decide)

end Session

end PageStream
