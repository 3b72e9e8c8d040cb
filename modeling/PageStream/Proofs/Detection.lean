import PageStream.Proofs.Stages

namespace PageStream

-- The first bytes say that a save follows, complete or not.
def Tagged (bytes : Bytes) : Prop := magicFinal <+: bytes ∨ magicPartial <+: bytes

theorem accepts_standard {bytes : Bytes} :
    Container.Parser.standard.Accepts bytes ↔ Tagged bytes := by
  constructor
  · rintro ⟨tag, member, starts⟩
    simp only [Container.Parser.standard, List.mem_cons, List.not_mem_nil, or_false] at member
    rcases member with rfl | rfl
    · exact .inl starts
    · exact .inr starts
  · intro tagged
    rcases tagged with starts | starts
    · exact ⟨⟨.final, .final⟩, by simp [Container.Parser.standard], starts⟩
    · exact ⟨⟨.inProgress, .inProgress⟩, by simp [Container.Parser.standard], starts⟩

theorem Settings.parser_standard {settings : Settings} (standard : settings.extraMagics = []) :
    settings.parser = .standard := by
  unfold Settings.parser
  rw [standard]
  rfl

-- Both magics start with the same eight bytes, and as a size they are no whole number of pages.
theorem Tagged.size {bytes : Bytes} (tagged : Tagged bytes) : DeclaredSize.parse bytes =
    .error (.malformed (.sizeMisaligned (ofLe (magicFinal.take sizeHeaderLength)))) := by
  have decided {magic rest : Bytes} (long : sizeHeaderLength ≤ magic.length)
      (same : magic.take sizeHeaderLength = magicFinal.take sizeHeaderLength) :
      DeclaredSize.parse (magic ++ rest) =
        .error (.malformed (.sizeMisaligned (ofLe (magicFinal.take sizeHeaderLength)))) := by
    have enough : ¬ (magic ++ rest).length < sizeHeaderLength := by
      rw [List.length_append]
      omega
    have word : wordAt (magic ++ rest) 0 sizeHeaderLength =
        ofLe (magicFinal.take sizeHeaderLength) := by
      rw [wordAt, List.drop_zero, List.take_append_of_le_length long, same]
    have odd : ¬ ofLe (magicFinal.take sizeHeaderLength) % pageSize = 0 := by decide
    unfold DeclaredSize.parse
    rw [if_neg enough, word, DeclaredSize.ofBytes, dif_neg odd]
    rfl
  rcases tagged with ⟨rest, rfl⟩ | ⟨rest, rfl⟩
  · exact decided (by decide) rfl
  · exact decided (by decide) (by decide)

namespace Whole

-- Nothing but the container header depends on how one is looked for.
theorem plan_congr {one two : Settings} (layout : one.layout = two.layout)
    (policy : one.policy = two.policy) {bytes : Bytes} {fault? : Option DeviceFault}
    (same : Whole.header one bytes fault? = Whole.header two bytes fault?) :
    plan one bytes fault? = plan two bytes fault? := by
  unfold plan opening
  rw [same, layout, policy]

-- Magics are read to their end before a stream can stop inside a header.
theorem scan_known {parser : Container.Parser} {bytes : Bytes} (known : parser.Accepts bytes)
    (mode mode' : ContainerMode) (fault? : Option DeviceFault) :
    scan mode parser bytes fault? = scan mode' parser bytes fault? := by
  have recognized := Container.Parser.recognizes_iff.mpr known
  have long := known.long
  have settled : ¬ (magicLength ≤ bytes.length ∧ ¬ parser.recognizes bytes = true) := by
    rintro ⟨_, unknown⟩
    exact unknown recognized
  have waited (mode : ContainerMode) : ¬ (mode ≠ .required ∧ bytes.length < magicLength) := by
    rintro ⟨_, short⟩
    omega
  unfold scan undecided
  simp only [if_neg settled, if_neg (waited _)]

end Whole

namespace Session

variable {σ : Type} [ImageSink σ]

def looking (session : Session) (mode : ContainerMode) : Session :=
  { session with settings := { session.settings with container := mode } }

section

variable {session : Session} (standard : session.settings.extraMagics = []) {bytes : Bytes}

include standard

theorem looking_untagged (untagged : ¬ Tagged bytes) :
    Whole.plan (session.looking .auto).settings bytes none =
      Whole.plan (session.looking .absent).settings bytes none := by
  have parser : (session.looking .auto).settings.parser = .standard :=
    Settings.parser_standard standard
  have bare : Whole.scan .auto (session.looking .auto).settings.parser bytes none = .ok none := by
    rw [parser, Whole.scan_none, accepts_standard]
    exact ⟨by decide, untagged⟩
  refine Whole.plan_congr ?_ ?_ bare
  · rfl
  · rfl

theorem looking_tagged (tagged : Tagged bytes) (fault? : Option DeviceFault) :
    Whole.plan (session.looking .auto).settings bytes fault? =
      Whole.plan (session.looking .required).settings bytes fault? := by
  have parser : session.settings.parser = .standard := Settings.parser_standard standard
  have known : session.settings.parser.Accepts bytes := by
    rw [parser]
    exact accepts_standard.mpr tagged
  refine Whole.plan_congr ?_ ?_ (Whole.scan_known known .auto .required fault?)
  · rfl
  · rfl

omit standard in
theorem looking_absent (session : Session) (tagged : Tagged bytes) (fault? : Option DeviceFault) :
    Whole.opening (session.looking .absent).settings bytes fault? = .error (.readingSizeHeader,
      .malformed (.sizeMisaligned (ofLe (magicFinal.take sizeHeaderLength)))) := by
  unfold Whole.opening Whole.size
  simp only [Whole.header, looking, Whole.frontLength, List.drop_zero, tagged.size]

theorem looking_required (untagged : ¬ Tagged bytes) (outcome : Outcome) :
    (Whole.plan (session.looking .required).settings bytes none).result ≠ .ok outcome := by
  intro decoded
  have parser : (session.looking .required).settings.parser = .standard :=
    Settings.parser_standard standard
  obtain ⟨opened, opens, -, -⟩ := Whole.plan_ok.mp decoded
  have found : Whole.scan .required (session.looking .required).settings.parser bytes none =
      .ok opened.header := (Whole.opening_ok.mp opens).1
  rw [parser] at found
  cases header : opened.header with
  | none =>
    rw [header] at found
    exact (Whole.scan_none.mp found).1 rfl
  | some known =>
    rw [header] at found
    exact untagged (accepts_standard.mp (Whole.scan_some.mp found).accepts)

theorem looking_decoded {mode : ContainerMode} {outcome : Outcome}
    (decoded : (Whole.plan (session.looking mode).settings bytes none).result = .ok outcome) :
    (Tagged bytes → (Whole.plan (session.looking .required).settings bytes none).result =
        .ok outcome) ∧
      (¬ Tagged bytes → (Whole.plan (session.looking .absent).settings bytes none).result =
        .ok outcome) := by
  cases mode with
  | auto =>
    constructor
    · intro tagged
      rwa [looking_tagged standard tagged] at decoded
    · intro untagged
      rwa [looking_untagged standard untagged] at decoded
  | required =>
    constructor
    · intro _
      exact decoded
    · intro untagged
      exact absurd decoded (looking_required standard untagged outcome)
  | absent =>
    constructor
    · intro tagged
      rw [Whole.plan_closed (looking_absent session tagged none)] at decoded
      cases decoded
    · intro _
      exact decoded

end

-- A clean stream can be decoded in one way at most.
theorem run_looking {session : Session} (fresh : session.stage = .init)
    (standard : session.settings.extraMagics = []) {feed other : Feed}
    (bytes : feed.bytes = other.bytes) (clean : feed.fault? = none)
    (clean' : other.fault? = none) (sink : σ) (journal journal' : Journal) :
    (¬ Tagged feed.bytes → Agree (session.looking .auto) (session.looking .absent) feed other sink
      journal journal') ∧
    (Tagged feed.bytes →
      Agree (session.looking .auto) (session.looking .required) feed other sink journal journal' ∧
      (∃ failure,
        ((session.looking .absent).run other sink journal').2.result = .error failure ∧
          failure.isFormat = true ∧ failure.phase? = some .sizeHeader) ∧
      ((session.looking .absent).run other sink journal').1.failedIn = some .readingSizeHeader ∧
      ((session.looking .absent).run other sink journal').2.sink = sink ∧
      ((session.looking .absent).run other (Recorder.mk sink []) journal').2.sink.calls = []) ∧
    ∀ mode mode' outcome outcome',
      ((session.looking mode).run feed sink journal).2.result = .ok outcome →
      ((session.looking mode').run other sink journal').2.result = .ok outcome' →
      outcome = outcome' := by
  have start (mode : ContainerMode) : (session.looking mode).stage = .init := fresh
  have unfailed {mode mode' : ContainerMode} :
      (session.looking mode).failedIn = (session.looking mode').failedIn := rfl
  refine ⟨?bare, ?saved, ?once⟩
  case bare =>
    intro untagged
    apply agree_of_plan (start .auto) (start .absent) unfailed
    rw [← bytes, clean, clean']
    exact looking_untagged standard untagged
  case saved =>
    intro tagged
    have refused := looking_absent session (bytes ▸ tagged) other.fault?
    obtain ⟨result, failedIn, untouched, calls⟩ :=
      run_closed (start .absent) refused sink journal'
    refine ⟨?_, ⟨_, result, rfl, rfl⟩, failedIn, untouched, calls⟩
    apply agree_of_plan (start .auto) (start .required) unfailed
    rw [← bytes, clean, clean']
    exact looking_tagged standard tagged none
  case once =>
    intro mode mode' outcome outcome' decoded decoded'
    have first := run_planned (start mode) decoded
    have second := run_planned (start mode') decoded'
    rw [clean] at first
    rw [← bytes, clean'] at second
    by_cases tagged : Tagged feed.bytes
    · have one := (looking_decoded standard first).1 tagged
      have two := (looking_decoded standard second).1 tagged
      exact Except.ok.inj (one.symm.trans two)
    · have one := (looking_decoded standard first).2 tagged
      have two := (looking_decoded standard second).2 tagged
      exact Except.ok.inj (one.symm.trans two)

-- A save that stops inside its header: its magic alone calls for a header and forbids a size.
theorem run_looking_part :
    let session : Session := ⟨{}, .init, none⟩
    let whole : Feed := [.piece (magicPartial ++ [2, 0, 0]), .ended]
    let pieces : Feed := [.piece (magicPartial.take 7), .piece (magicPartial.drop 7),
      .piece [2, 0, 0]]
    Agree (session.looking .auto) (session.looking .required) whole pieces (MemoryImage.mk []) .empty
        .empty ∧
      ((session.looking .absent).run pieces (MemoryImage.mk []) .empty).1.failedIn =
        some .readingSizeHeader := by
  intro session whole pieces
  have fresh : session.stage = .init := rfl
  have bytes : whole.bytes = pieces.bytes := rfl
  have clean : whole.fault? = none := rfl
  have clean' : pieces.fault? = none := rfl
  have tagged : Tagged whole.bytes := .inr ⟨[2, 0, 0], rfl⟩
  have looked := run_looking fresh rfl bytes clean clean' (MemoryImage.mk []) .empty .empty
  obtain ⟨agree, -, failedIn, -, -⟩ := looked.2.1 tagged
  exact ⟨agree, failedIn⟩

end Session

end PageStream
