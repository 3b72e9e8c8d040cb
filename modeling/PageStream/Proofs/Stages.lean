import PageStream.Proofs.Encoding
import PageStream.Proofs.Grammar
import PageStream.Proofs.Images

namespace PageStream

def Phase.stage : Phase → Stage
  | .containerHeader => .readingContainerHeader
  | .sizeHeader => .readingSizeHeader
  | .pageRecords => .streamingRecords

-- The stages in which a first run can meet a failure. A source may fail in any of them; an image is
-- called in two, and nobody else holds it by then. A session that breaks down reports no stage.
def Failure.stages : Failure → List Stage
  | .malformed cause => [cause.phase.stage]
  | .truncated _ => [.streamingRecords]
  | .overflow _ => [.readingSizeHeader]
  | .read _ => [.readingContainerHeader, .readingSizeHeader, .streamingRecords]
  | .write _ _ => [.readingSizeHeader, .streamingRecords]
  | .locked _ | .brokeDown => []

theorem Failure.stages_reading {failure : Failure} {stage : Stage} (meets : stage ∈ failure.stages) :
    stage ∈ [.readingContainerHeader, .readingSizeHeader, .streamingRecords] := by
  cases failure with
  | malformed cause =>
    simp only [stages, List.mem_singleton] at meets
    subst meets
    cases cause.phase <;> simp [Phase.stage]
  | truncated pending => simp_all [stages]
  | overflow cause => simp_all [stages]
  | read fault => exact meets
  | write offset fault => exact List.mem_cons_of_mem _ meets
  | locked path => cases meets
  | brokeDown => cases meets

-- A failure that is the stream's own, in one of its parts.
def Failure.Blames (failure : Failure) (phase : Phase) : Prop :=
  ∃ cause, failure = .malformed cause ∧ cause.phase = phase

theorem Failure.Blames.stages {failure : Failure} {phase : Phase} (blames : failure.Blames phase) :
    phase.stage ∈ failure.stages := by
  obtain ⟨cause, rfl, rfl⟩ := blames
  exact List.mem_singleton.mpr rfl

namespace Container.Parser

theorem parseFixed_refused {parser : Parser} {bytes : Bytes} {failure : Failure}
    (refused : parser.parseFixed bytes = .error failure) : failure.Blames .containerHeader := by
  unfold parseFixed at refused
  dsimp only at refused
  split at refused
  · cases refused
    exact ⟨_, rfl, rfl⟩
  · split at refused
    · cases refused
      exact ⟨_, rfl, rfl⟩
    · split at refused
      · cases refused
        exact ⟨_, rfl, rfl⟩
      · cases refused

theorem complete_refused {fixed : FixedPart} {descriptor : Bytes} {failure : Failure}
    (refused : complete fixed descriptor = .error failure) : failure.Blames .containerHeader := by
  unfold complete at refused
  split at refused
  · cases refused
  · cases refused
    exact ⟨_, rfl, rfl⟩

theorem parse_refused {parser : Parser} {buffer : Bytes} {failure : Failure}
    (refused : parser.parse buffer = .error failure) : failure.Blames .containerHeader := by
  unfold parse at refused
  split at refused
  · cases refused
  · split at refused
    · rename_i other fixed
      cases refused
      exact parseFixed_refused fixed
    · rename_i fixed known
      split at refused
      · cases refused
      · cases done : complete fixed ((buffer.drop fixedLength).take fixed.descriptorLength) with
        | error other =>
          rw [done] at refused
          cases refused
          exact complete_refused done
        | ok header =>
          rw [done] at refused
          cases refused

end Container.Parser

theorem DeclaredSize.parse_refused {buffer : Bytes} {failure : Failure}
    (refused : parse buffer = .error failure) : failure.Blames .sizeHeader := by
  unfold parse ofBytes at refused
  split at refused
  · cases refused
  · split at refused
    · cases refused
    · cases refused
      exact ⟨_, rfl, rfl⟩

namespace Whole

theorem scan_failed {mode : ContainerMode} {parser : Container.Parser} {bytes : Bytes}
    {fault? : Option DeviceFault} {failure : Failure}
    (failed : scan mode parser bytes fault? = .error failure) :
    failure.Blames .containerHeader ∨ ∃ fault, fault? = some fault ∧ failure = .read fault := by
  unfold scan at failed
  split at failed
  · split at failed
    · cases failed
      exact .inl ⟨_, rfl, rfl⟩
    · cases failed
  · split at failed
    · rename_i other refused
      cases failed
      exact .inl (Container.Parser.parse_refused refused)
    · cases failed
    · unfold undecided at failed
      split at failed
      · rename_i fault
        cases failed
        exact .inr ⟨fault, rfl, rfl⟩
      · split at failed
        · cases failed
        · cases failed
          exact .inl ⟨_, rfl, rfl⟩

theorem header_failed {settings : Settings} {bytes : Bytes} {fault? : Option DeviceFault}
    {failure : Failure} (failed : header settings bytes fault? = .error failure) :
    failure.Blames .containerHeader ∨ ∃ fault, fault? = some fault ∧ failure = .read fault := by
  unfold header at failed
  cases mode : settings.container with
  | absent =>
    simp only [mode] at failed
    cases failed
  | auto =>
    simp only [mode] at failed
    exact scan_failed failed
  | required =>
    simp only [mode] at failed
    exact scan_failed failed

theorem size_failed {bytes : Bytes} {fault? : Option DeviceFault} {failure : Failure}
    (failed : size bytes fault? = .error failure) :
    failure.Blames .sizeHeader ∨ ∃ fault, fault? = some fault ∧ failure = .read fault := by
  unfold size at failed
  split at failed
  · rename_i other refused
    cases failed
    exact .inl (DeclaredSize.parse_refused refused)
  · cases failed
  · unfold unsized at failed
    split at failed
    · rename_i fault
      cases failed
      exact .inr ⟨fault, rfl, rfl⟩
    · cases failed
      exact .inl ⟨_, rfl, rfl⟩

theorem kept_failed {layout : Layout} {header : Option Container.Header} {failure : Failure}
    (failed : kept layout header = .error failure) : ∃ cause, failure = .overflow cause := by
  unfold kept at failed
  split at failed
  · unfold Container.Header.encodeAligned at failed
    split at failed
    · cases failed
      exact ⟨_, rfl⟩
    · cases failed
  · cases failed

theorem opening_stages {settings : Settings} {bytes : Bytes} {fault? : Option DeviceFault}
    {stage : Stage} {failure : Failure}
    (failed : opening settings bytes fault? = .error (stage, failure)) :
    stage ∈ failure.stages := by
  unfold opening at failed
  split at failed
  · rename_i other headed
    cases failed
    rcases header_failed headed with blames | ⟨fault, -, rfl⟩
    · exact blames.stages
    · simp [Failure.stages]
  · split at failed
    · rename_i other sized
      cases failed
      rcases size_failed sized with blames | ⟨fault, -, rfl⟩
      · exact blames.stages
      · simp [Failure.stages]
    · split at failed
      · rename_i other keeps
        cases failed
        obtain ⟨cause, rfl⟩ := kept_failed keeps
        exact List.mem_singleton.mpr rfl
      · cases failed

end Whole

theorem Record.refusal_blames {number : Nat} {records : List Record} {failure : Failure}
    (refused : refusal number records = some failure) : failure.Blames .pageRecords := by
  induction records generalizing number with
  | nil => cases refused
  | cons record rest ih =>
    rw [refusal] at refused
    split at refused
    · exact ih refused
    · cases refused
      exact ⟨_, rfl, rfl⟩

theorem Opened.objection_stages {opened : Opened} {fault? : Option DeviceFault} {failure : Failure}
    (objects : opened.objection fault? = some failure) : .streamingRecords ∈ failure.stages := by
  cases refused : Record.refusal 0 opened.records with
  | some other =>
    rw [objection_refused refused] at objects
    cases objects
    exact (Record.refusal_blames refused).stages
  | none =>
    cases fault? with
    | some fault =>
      rw [objection_read refused] at objects
      cases objects
      simp [Failure.stages]
    | none =>
      rw [objection_clean refused] at objects
      split at objects
      · cases objects
      · cases objects
        exact List.mem_singleton.mpr rfl

theorem Opened.keeping_fits (opened : Opened) (low : opened.kept.length ≤ alignedLength)
    {step : Step} (member : step ∈ opened.keeping) : step.call.Fits := by
  unfold keeping at member
  split at member
  · cases member
  · rw [List.mem_singleton.mp member]
    show 0 + opened.kept.length < fileBound
    simp only [alignedLength, pageSize, fileBound] at *
    omega

namespace Whole

theorem plan_stages {settings : Settings} {bytes : Bytes} {fault? : Option DeviceFault}
    {failure : Failure} (failed : (plan settings bytes fault?).result = .error failure)
    (reported : failure ≠ .brokeDown) : (plan settings bytes fault?).stage ∈ failure.stages := by
  rcases opens : opening settings bytes fault? with ⟨stage, early⟩ | opened
  · rw [plan_closed opens] at failed ⊢
    cases failed
    exact opening_stages opens
  · by_cases fits : opened.Fits
    · obtain ⟨stage, result⟩ := plan_ended opens fits
      rw [result] at failed
      rw [stage]
      cases objects : opened.objection fault? with
      | none =>
        rw [Opened.closing_whole settings.policy objects] at failed
        cases failed
      | some late =>
        rw [Opened.closing_stopped settings.policy objects] at failed ⊢
        cases failed
        exact Opened.objection_stages objects
    · rw [plan_opened opens, Opened.decoding_overruns fits] at failed
      cases failed
      exact absurd rfl reported

-- A length that is no word breaks a session down, and nothing else does.
theorem plan_broken {settings : Settings} {bytes : Bytes} {fault? : Option DeviceFault} :
    (plan settings bytes fault?).result = .error .brokeDown ↔
      ∃ opened, opening settings bytes fault? = .ok opened ∧ ¬ opened.Fits := by
  constructor
  · intro broken
    rcases opens : opening settings bytes fault? with ⟨stage, early⟩ | opened
    · rw [plan_closed opens] at broken
      cases broken
      cases opening_stages opens
    · refine ⟨opened, rfl, fun fits => ?_⟩
      rw [(plan_ended opens fits).2] at broken
      cases objects : opened.objection fault? with
      | none =>
        rw [Opened.closing_whole settings.policy objects] at broken
        cases broken
      | some late =>
        rw [Opened.closing_stopped settings.policy objects] at broken
        cases broken
        cases Opened.objection_stages objects
  · rintro ⟨opened, opens, overruns⟩
    rw [plan_opened opens, Opened.decoding_overruns overruns]

-- An image is called once the size is known, and for the records. Pages lie far below what a file
-- can be.
theorem step_cases {settings : Settings} {bytes : Bytes} {fault? : Option DeviceFault} {step : Step}
    (member : step ∈ (plan settings bytes fault?).steps) :
    (∃ opened, opening settings bytes fault? = .ok opened ∧ step ∈ opened.announcing) ∨
      step.stage = .streamingRecords ∧ step.call.Fits := by
  rcases opens : opening settings bytes fault? with ⟨stage, early⟩ | opened
  · rw [plan_closed opens] at member
    cases member
  · rw [plan_opened opens] at member
    by_cases fits : opened.Fits
    · simp only [Opened.decoding_fits fits, Opened.streaming, Plan.after, List.mem_append] at member
      rcases member with announced | written | closed
      · exact .inl ⟨opened, rfl, announced⟩
      · obtain ⟨record, -, rfl⟩ := List.mem_map.mp written
        refine .inr ⟨rfl, ?_⟩
        have low := kept_le (opening_ok.mp opens).2.2.1
        have place : record.header.offset < 2 ^ 48 := record.header.offset_lt
        have size := record.payload_length
        show opened.kept.length + record.header.offset + record.payload.length < fileBound
        simp only [alignedLength, pageSize, fileBound] at *
        omega
      · cases objects : opened.objection fault? with
        | none =>
          rw [Opened.closing_whole settings.policy objects] at closed
          rw [List.mem_singleton.mp closed]
          exact .inr ⟨rfl, trivial⟩
        | some late =>
          rw [Opened.closing_stopped settings.policy objects] at closed
          cases closed
    · rw [Opened.decoding_overruns fits] at member
      exact .inl ⟨opened, rfl, List.mem_append_left _ member⟩

theorem plan_fits {settings : Settings} {bytes : Bytes} {fault? : Option DeviceFault}
    (small : ∀ length, .resize length ∈ (plan settings bytes fault?).steps.map (·.call) →
      length < fileBound) :
    ∀ call ∈ (plan settings bytes fault?).steps.map (·.call), call.Fits := by
  intro call made
  obtain ⟨step, member, rfl⟩ := List.mem_map.mp made
  rcases step_cases member with ⟨opened, opens, announced⟩ | ⟨-, fits⟩
  · rcases List.mem_append.mp announced with first | last
    · exact opened.keeping_fits (kept_le (opening_ok.mp opens).2.2.1) first
    · rw [List.mem_singleton.mp last] at made ⊢
      exact small _ made
  · exact fits

theorem resize_planned {settings : Settings} {bytes : Bytes} {fault? : Option DeviceFault}
    {length : Nat} : .resize length ∈ (plan settings bytes fault?).steps.map (·.call) ↔
      ∃ opened, opening settings bytes fault? = .ok opened ∧ opened.Fits ∧
        length = opened.base + opened.declared.bytes := by
  rcases opens : opening settings bytes fault? with ⟨stage, early⟩ | opened
  · rw [plan_closed opens]
    simp
  · by_cases fits : opened.Fits
    · rw [plan_steps opens fits]
      simp [Step.sequence, fits, Opened.base, Record.step]
    · rw [plan_opened opens, Opened.decoding_overruns fits]
      simp [fits, Opened.keeping]

end Whole

namespace Session

variable {σ : Type} [ImageSink σ]

-- The kept header is all that an image gets whose length is no word.
theorem run_overruns {session : Session} (fresh : session.stage = .init) {feed : Feed} {sink : σ}
    {journal : Journal} (undisturbed : session.Undisturbed feed sink journal) {opened : Opened}
    (opens : Whole.opening session.settings feed.bytes feed.fault? = .ok opened)
    (overruns : ¬ opened.Fits) :
    (session.run feed sink journal).2.ended = (.readingSizeHeader, .error .brokeDown,
      ImageSink.after sink (opened.keeping.map (·.call))) := by
  rw [run_undisturbed fresh undisturbed, Whole.plan_opened opens,
    Opened.decoding_overruns overruns]

theorem run_broken {session : Session} (fresh : session.stage = .init) {feed : Feed} {sink : σ}
    {journal : Journal}
    (broken : (session.run feed sink journal).2.result = .error .brokeDown) :
    ¬ Room session.settings feed.bytes ∧
      (session.run feed sink journal).2.stage = .readingSizeHeader := by
  have ended := (run_fresh fresh feed sink journal).1
  rw [Run.ended, broken, Plan.carryOut] at ended
  rcases performed : ImageSink.performAll sink
    (Whole.plan session.settings feed.bytes feed.fault?).steps with ⟨next, _ | ⟨step, fault⟩⟩
  · rw [performed] at ended
    obtain ⟨stage, rest⟩ := Prod.mk.inj ended
    obtain ⟨opened, opens, overruns⟩ := Whole.plan_broken.mp (Prod.mk.inj rest).1.symm
    refine ⟨fun room => overruns (room.fits opens), stage.trans ?_⟩
    rw [Whole.plan_opened opens, Opened.decoding_overruns overruns]
  · rw [performed] at ended
    cases (Prod.mk.inj (Prod.mk.inj ended).2).1

theorem run_used_up (session : Session) (feed : Feed) (sink : σ) (journal : Journal) :
    (session.run feed sink journal).1.stage ≠ .init := by
  by_cases fresh : session.stage = .init
  · rw [(run_fresh fresh feed sink journal).2]
    cases result : (session.run feed sink journal).2.result with
    | ok outcome =>
      intro same
      cases same
    | error failure =>
      by_cases broken : failure = .brokeDown
      · subst broken
        rw [closed, if_pos rfl, (run_broken fresh result).2]
        intro same
        cases same
      · rw [closed_failed session _ broken]
        intro same
        cases same
  · rw [run_used fresh]
    exact fresh

theorem run_closed {session : Session} (fresh : session.stage = .init) {feed : Feed}
    {stage : Stage} {failure : Failure}
    (fails : Whole.opening session.settings feed.bytes feed.fault? = .error (stage, failure))
    (sink : σ) (journal : Journal) :
    (session.run feed sink journal).2.result = .error failure ∧
      (session.run feed sink journal).1.failedIn = some stage ∧
      (session.run feed sink journal).2.sink = sink ∧
      (session.run feed (Recorder.mk sink []) journal).2.sink.calls = [] := by
  obtain ⟨ended, left⟩ := run_fresh fresh feed sink journal
  have recorded := (run_fresh fresh feed (Recorder.mk sink []) journal).1
  rw [Whole.plan_closed fails] at ended recorded
  obtain ⟨entered, rest⟩ := Prod.mk.inj ended
  obtain ⟨result, untouched⟩ := Prod.mk.inj rest
  obtain ⟨-, rest⟩ := Prod.mk.inj recorded
  obtain ⟨-, listed⟩ := Prod.mk.inj rest
  have reported : failure ≠ .brokeDown := by
    rintro rfl
    cases Whole.opening_stages fails
  refine ⟨result, ?_, untouched, congrArg Recorder.calls listed⟩
  rw [left, result, entered, closed_failed session stage reported]

structure Settled (after : Session) (result : Except Failure Outcome) : Prop where
  done : after.stage = .done ∧ after.failedIn = none ↔ ∃ outcome, result = .ok outcome
  failed : ∀ failure, result = .error failure → after.stage = .failed ∧
    ∃ stage ∈ failure.stages, after.failedIn = some stage ∧
      stage ∈ [.readingContainerHeader, .readingSizeHeader, .streamingRecords]

theorem first_fresh (settings : Settings) : Session.stage { settings } = .init := rfl

theorem first_failed {settings : Settings} {feed : Feed} {sink : σ} {journal : Journal}
    {failure : Failure} (reported : failure ≠ .brokeDown)
    (failed : (Session.run { settings } feed sink journal).2.result = .error failure) :
    (Session.run { settings } feed sink journal).2.stage ∈ failure.stages := by
  have ended := (run_fresh (first_fresh settings) feed sink journal).1
  rw [Run.ended, failed, Plan.carryOut] at ended
  rcases performed : ImageSink.performAll sink (Whole.plan settings feed.bytes feed.fault?).steps
    with ⟨next, _ | ⟨step, fault⟩⟩
  · rw [performed] at ended
    obtain ⟨stage, rest⟩ := Prod.mk.inj ended
    rw [stage]
    exact Whole.plan_stages (Prod.mk.inj rest).1.symm reported
  · rw [performed] at ended
    obtain ⟨stage, rest⟩ := Prod.mk.inj ended
    cases (Prod.mk.inj rest).1
    rw [stage]
    rcases Whole.step_cases (ImageSink.performAll_stopped_at performed).1 with
      ⟨opened, -, announced⟩ | ⟨late, -⟩
    · simp [Failure.stages, Opened.announcing_stage announced]
    · simp [Failure.stages, late]

theorem first_settles {settings : Settings} {feed : Feed} {sink : σ} {journal : Journal}
    (unbroken : (Session.run { settings } feed sink journal).2.result ≠ .error .brokeDown) :
    Settled (Session.run { settings } feed sink journal).1
      (Session.run { settings } feed sink journal).2.result := by
  have left := (run_fresh (first_fresh settings) feed sink journal).2
  cases result : (Session.run { settings } feed sink journal).2.result with
  | ok outcome =>
    rw [result] at left
    rw [left]
    refine ⟨?_, ?_⟩
    · exact ⟨fun _ => ⟨outcome, rfl⟩, fun _ => ⟨rfl, rfl⟩⟩
    · intro failure failed
      cases failed
  | error failure =>
    have reported : failure ≠ .brokeDown := by
      rintro rfl
      exact unbroken result
    rw [result, closed_failed _ _ reported] at left
    rw [left]
    refine ⟨?_, ?_⟩
    · constructor
      · rintro ⟨done, -⟩
        cases done
      · rintro ⟨outcome, decoded⟩
        cases decoded
    · intro other failed
      cases failed
      have meets := first_failed reported result
      exact ⟨rfl, _, meets, rfl, Failure.stages_reading meets⟩

-- What a session becomes when it is run again and again, each time on another source and image.
inductive Reruns : Session → Session → Prop where
  | none {session : Session} : Reruns session session
  | more {session later : Session} {τ : Type} [ImageSink τ] (earlier : Reruns session later)
      (feed : Feed) (sink : τ) (journal : Journal) :
      Reruns session (later.run feed sink journal).1

theorem Reruns.same {session later : Session} (used : session.stage ≠ .init)
    (again : Reruns session later) : later = session := by
  induction again with
  | none => rfl
  | more earlier feed sink journal ih =>
    subst ih
    rw [run_used used]

-- The first run settles what becomes of a session, as long as there is room for the length that it
-- announces; every later one fails and touches nothing.
theorem run_settles (settings : Settings) (feed : Feed) (sink : σ) (journal : Journal) :
    let first := Session.run { settings } feed sink journal
    (Room settings feed.bytes → Settled first.1 first.2.result) ∧
      ∀ later, Reruns first.1 later →
        ∀ {τ : Type} [ImageSink τ] (other : Feed) (image : τ) (account : Journal),
          later.run other image account = (first.1, ⟨first.1.stage,
            .error (.malformed (.sessionUsed first.1.stage)), other, image, account⟩) := by
  intro first
  have used : first.1.stage ≠ .init := run_used_up _ feed sink journal
  refine ⟨?_, ?_⟩
  · intro room
    exact first_settles fun broken => (run_broken (first_fresh settings) broken).1 room
  · intro later again τ _ other image account
    rw [again.same used, run_used used]

-- A size that is no whole number of pages, and then a good stream for the session that failed on it.
theorem run_settles_misaligned :
    let session : Session := { settings := { container := .absent } }
    let bad : Feed := [.piece [1, 0, 0, 0, 0], .piece [0, 0, 0], .ended]
    let good : Feed := [.piece [0, 16, 0, 0, 0, 0, 0, 0], .ended]
    let first := session.run bad (MemoryImage.mk []) .empty
    let second := first.1.run good NullImage.mk .empty
    first.1.stage = .failed ∧ first.1.failedIn = some .readingSizeHeader ∧
      second.1 = first.1 ∧ second.2.feed = good ∧
      second.2.result = .error (.malformed (.sessionUsed .failed)) := by
  intro session bad good first second
  have bytes : bad.bytes = [1, 0, 0, 0, 0, 0, 0, 0] := rfl
  have refused : Whole.opening session.settings bad.bytes bad.fault? =
      .error (.readingSizeHeader, .malformed (.sizeMisaligned 1)) := by
    rw [bytes]
    rfl
  have result := (run_closed (first_fresh _) refused (MemoryImage.mk []) .empty).1
  obtain ⟨settles, refuses⟩ := run_settles session.settings bad (MemoryImage.mk []) .empty
  have room : Room session.settings bad.bytes := by
    intro header front word declared payload headed
    obtain ⟨kept, opens⟩ := headed.opens
    rw [show bad.fault? = none from rfl, opens] at refused
    cases refused
  obtain ⟨failed, stage, meets, failedIn, -⟩ := (settles room).failed _ result
  have again := refuses first.1 .none good NullImage.mk .empty
  have place : stage = .readingSizeHeader := List.mem_singleton.mp meets
  refine ⟨failed, place ▸ failedIn, ?_, ?_, ?_⟩
  · exact congrArg (·.1) again
  · exact congrArg (·.2.feed) again
  · have told := congrArg (·.2.result) again
    rwa [failed] at told

-- A saved machine that declares so much that there is no word for the length with its header.
def overrunSize : DeclaredSize := ⟨2 ^ 64 - pageSize, by decide⟩

def overrunFeed : Feed := [.piece (Container.Header.brief.encode ++ overrunSize.toBytes), .ended]

def overrunSettings : Settings := { container := .required, layout := .withHeader }

theorem overrun_headed : Headed overrunSettings overrunFeed.bytes (some .brief)
    Container.Header.brief.encode overrunSize.toBytes overrunSize [] := by
  have reads := Container.Header.brief_reads
  have length := Container.Header.brief.encode_length
  refine ⟨?_, .header (.inl rfl) reads length, le_length _ _, ?_, ?_⟩
  · simp [overrunFeed, Feed.bytes]
  · rw [DeclaredSize.toBytes, ofLe_le]
    decide
  · intro _
    rw [length]
    decide

theorem overrun_run {sink : σ} {journal : Journal}
    (undisturbed : Session.Undisturbed { settings := overrunSettings } overrunFeed sink journal) :
    (Session.run { settings := overrunSettings } overrunFeed sink journal).2.stage =
        .readingSizeHeader ∧
      (Session.run { settings := overrunSettings } overrunFeed sink journal).2.result =
        .error .brokeDown := by
  obtain ⟨kept, opens⟩ := overrun_headed.opens
  have aligned : kept.length = alignedLength :=
    Container.Header.encodeAligned_length (Whole.opening_ok.mp opens).2.2.1
  have overruns : ¬ Opened.Fits ⟨some .brief, overrunSize, kept, []⟩ := by
    rw [Opened.Fits, Opened.base, aligned]
    have far : ¬ alignedLength + overrunSize.bytes < 2 ^ 64 := by decide
    exact far
  have ended := run_overruns (first_fresh _) undisturbed opens overruns
  exact ⟨congrArg (·.1) ended, congrArg (·.2.1) ended⟩

-- On an image that takes everything the session is left neither done nor failed.
theorem run_settles_overrun :
    let first := Session.run { settings := overrunSettings } overrunFeed NullImage.mk .empty
    first.2.result = .error .brokeDown ∧ first.1.stage = .readingSizeHeader ∧
      first.1.failedIn = none ∧ ¬ Settled first.1 first.2.result := by
  intro first
  have undisturbed := null_undisturbed { settings := overrunSettings } overrunFeed .empty
  obtain ⟨stage, broken⟩ := overrun_run undisturbed
  have left := (run_fresh (first_fresh overrunSettings) overrunFeed NullImage.mk .empty).2
  rw [broken, stage] at left
  refine ⟨broken, congrArg Session.stage left, congrArg Session.failedIn left, ?_⟩
  intro settled
  have failed := (settled.failed _ broken).1
  rw [left] at failed
  cases failed

end Session

end PageStream
