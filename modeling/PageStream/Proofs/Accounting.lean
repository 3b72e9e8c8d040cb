import PageStream.Proofs.Asking
import PageStream.Proofs.Counting
import PageStream.Proofs.Stages

namespace PageStream

namespace Session

variable {σ : Type} [ImageSink σ]

-- The end of a record stream counts nothing; when it fails then not in the middle of a record.
theorem conclude_adds (d : Decoder (Recorder σ)) :
    (conclude d).2.journal.metrics = d.reconstructor.journal.metrics ∧
      match (conclude d).1 with
      | .ok (records, index) => records = d.framer.emitted ∧ index = d.reconstructor.index
      | .error failure => ¬ failure.AtRecord (conclude d).2.sink.calls := by
  by_cases whole : d.framer.carry = []
  · have noted := d.reconstructor.journal.noteAll_metrics d.framer.endNotices
    have recorded : (ImageSink.perform d.reconstructor.sink .flush).1.calls =
      d.reconstructor.sink.calls ++ [.flush] := rfl
    rcases flushed : ImageSink.perform d.reconstructor.sink .flush with ⟨next, _ | fault⟩
    · simp only [conclude, Framer.finish, if_pos whole, Reconstructor.finish, flushed]
      exact ⟨noted, trivial, trivial⟩
    · rw [flushed] at recorded
      simp only [conclude, Framer.finish, if_pos whole, Reconstructor.finish, flushed]
      rw [recorded]
      refine ⟨noted, fun stopped => ?_⟩
      rcases stopped with _ | ⟨-, last⟩
      rw [List.getLast?_concat] at last
      cases last
  · rw [conclude_cut whole]
    exact ⟨rfl, fun stopped => by cases stopped⟩

def Run.AtRecord (run : Run (Recorder σ)) : Prop :=
  run.stage = .streamingRecords ∧
    ∃ failure, run.result = .error failure ∧ failure.AtRecord run.sink.calls

-- What a run counts agrees with its result, and with whether it was given up in the middle of a
-- record.
structure Balances (result : Except Failure Outcome) (stuck : Prop) (counts : Counts) : Prop where
  stopped : stuck → counts.framed = counts.written + 1
  even : ¬ stuck → counts.framed = counts.written
  records : ∀ outcome, result = .ok outcome →
    counts.framed = outcome.records ∧ counts.written = outcome.records
  duplicates : ∀ outcome, result = .ok outcome →
    counts.overwrites + counts.sameIteration = outcome.index.duplicates
  regressions : counts.regressions ≤ counts.overwrites
  bytesIn : ∀ outcome, result = .ok outcome →
    counts.bytesIn = Whole.frontLength outcome.header + sizeHeaderLength + outcome.bytesIn

def Run.Balances (run : Run (Recorder σ)) (counts : Counts) : Prop :=
  Session.Balances run.result run.AtRecord counts

structure Unjudged (counts : Counts) : Prop where
  passed : counts.passed = 0
  failed : counts.failed = 0
  aborted : counts.aborted = 0

omit [ImageSink σ] in
theorem Run.Balances.failed {run : Run (Recorder σ)} {counts : Counts} {failure : Failure}
    (result : run.result = .error failure)
    (elsewhere : run.stage = .streamingRecords → ¬ failure.AtRecord run.sink.calls)
    (even : counts.framed = counts.written)
    (regressions : counts.regressions ≤ counts.overwrites) : run.Balances counts where
  stopped := by
    rintro ⟨stage, failure', same, stopped⟩
    rw [result] at same
    cases same
    exact absurd stopped (elsewhere stage)
  even _ := even
  records outcome done := by rw [result] at done; cases done
  duplicates outcome done := by rw [result] at done; cases done
  regressions := regressions
  bytesIn outcome done := by rw [result] at done; cases done

omit [ImageSink σ] in
theorem Run.Balances.stuck {run : Run (Recorder σ)} {counts : Counts} {failure : Failure}
    (stage : run.stage = .streamingRecords) (result : run.result = .error failure)
    (here : failure.AtRecord run.sink.calls) (more : counts.framed = counts.written + 1)
    (regressions : counts.regressions ≤ counts.overwrites) : run.Balances counts where
  stopped _ := more
  even elsewhere := absurd ⟨stage, failure, result, here⟩ elsewhere
  records outcome done := by rw [result] at done; cases done
  duplicates outcome done := by rw [result] at done; cases done
  regressions := regressions
  bytesIn outcome done := by rw [result] at done; cases done

def Repeats (result : Except Failure Outcome) (counts : Counts) : Prop :=
  ∀ outcome, result = .ok outcome → counts.sameIteration = outcome.index.repeats

theorem Repeats.failed {result : Except Failure Outcome} {failure : Failure} {counts : Counts}
    (failed : result = .error failure) : Repeats result counts := by
  intro outcome done
  rw [failed] at done
  cases done

-- What a decoder has counted since a stream began, once its pieces are absorbed.
structure Decoder.Counted (d : Decoder (Recorder σ)) (counts : Counts) : Prop where
  even : counts.framed = counts.written
  emitted : d.framer.emitted = counts.framed
  duplicates : d.reconstructor.index.duplicates = counts.overwrites + counts.sameIteration
  repeats : d.reconstructor.index.repeats = counts.sameIteration
  regressions : counts.regressions ≤ counts.overwrites

omit [ImageSink σ] in
theorem Decoder.Level.balanced {d : Decoder (Recorder σ)} (level : d.Level) {counts : Counts}
    {bytes : Nat} (grows : counts.Grows bytes .empty d.reconstructor.index)
    (even : counts.framed = counts.written) (applied : d.applied = counts.framed)
    (deliveries before : Nat) : d.Counted ((Counts.pulled deliveries before).add counts) := by
  have emitted := level.counted
  have duplicates := grows.duplicates
  have repeats := grows.repeats
  have regressions := grows.regressions
  have nothing : Index.empty.duplicates = 0 := rfl
  have unrepeated : Index.empty.repeats = 0 := rfl
  constructor <;> simp only [Counts.add, Counts.pulled] <;> omega

theorem completed_adds (policy : Policy) (header : Option Container.Header)
    (declared : DeclaredSize) (base : Nat) {d : Decoder (Recorder σ)} {counts : Counts}
    (counted : d.Counted counts) (feed : Feed)
    (bytesIn : counts.bytesIn =
      Whole.frontLength header + sizeHeaderLength + d.framer.bytesIn) :
    (completed policy header declared base (.ok (), d, feed)).journal.metrics =
        d.reconstructor.journal.metrics ∧
      (completed policy header declared base (.ok (), d, feed)).Balances counts ∧
      Repeats (completed policy header declared base (.ok (), d, feed)).result counts := by
  obtain ⟨metrics, ended⟩ := conclude_adds d
  rcases concluded : conclude d with ⟨failure | ⟨records, index⟩, r⟩
  · rw [concluded] at metrics ended
    simp only [completed, concluded]
    exact ⟨metrics, .failed rfl (fun _ => ended) counted.even counted.regressions, .failed rfl⟩
  · rw [concluded] at metrics ended
    obtain ⟨emitted, same⟩ := ended
    simp only [completed, concluded]
    refine ⟨(Journal.noteAll_metrics _ _).trans metrics,
      ⟨?_, ?_, ?_, ?_, counted.regressions, ?_⟩, ?_⟩
    · rintro ⟨stage, -⟩
      cases stage
    · exact fun _ => counted.even
    · rintro outcome ⟨⟩
      exact ⟨(emitted.trans counted.emitted).symm,
        counted.even.symm.trans (emitted.trans counted.emitted).symm⟩
    · rintro outcome ⟨⟩
      rw [same]
      exact counted.duplicates.symm
    · rintro outcome ⟨⟩
      exact bytesIn
    · rintro outcome ⟨⟩
      rw [same]
      exact counted.repeats.symm

-- The records of a stream, when so much has been pulled before them.
theorem stream_adds (policy : Policy) (header : Option Container.Header) (declared : DeclaredSize)
    (base : Nat) (inlet : Inlet) (sink : Recorder σ) (journal : Journal)
    (deliveries : Nat) {bytes : Nat}
    (collected : bytes = Whole.frontLength header + sizeHeaderLength + inlet.buffer.length) :
    ∃ counts,
      journal.Adds (stream policy header declared base inlet sink journal).journal counts ∧
      Unjudged counts ∧
      (stream policy header declared base inlet sink journal).Balances
        ((Counts.pulled deliveries bytes).add counts) ∧
      Repeats (stream policy header declared base inlet sink journal).result
        ((Counts.pulled deliveries bytes).add counts) := by
  obtain ⟨counts, adds, grows, goes⟩ :=
    absorb_adds (d := ⟨.empty, .start sink policy base journal, 0⟩) ⟨rfl, rfl⟩ inlet.buffer
  have streamed := stream_completed policy header declared base inlet sink journal
  rcases absorbed : absorb ⟨.empty, .start sink policy base journal, 0⟩ inlet.buffer
    with ⟨failure | done, d⟩
  · simp only [absorbed] at adds grows goes streamed
    rw [streamed]
    refine ⟨counts, adds, ⟨grows.passed, grows.failed, grows.aborted⟩,
      .stuck rfl rfl goes.2 ?_ ?_, .failed rfl⟩
    · simp only [Counts.add, Counts.pulled, Nat.zero_add]
      exact goes.1
    · simp only [Counts.add, Counts.pulled, Nat.zero_add]
      exact grows.regressions
  · simp only [absorbed] at adds grows goes streamed
    replace grows : counts.Grows 0 .empty d.reconstructor.index := grows
    obtain ⟨even, applied, level, bytesIn⟩ : counts.framed = counts.written ∧
      d.applied = 0 + counts.framed ∧ d.Level ∧
        d.framer.bytesIn = 0 + inlet.buffer.length := goes
    have quiet := grows.bytesIn
    cases ended : inlet.ended with
    | true =>
      simp only [ended, if_true] at streamed
      obtain ⟨metrics, balances⟩ := completed_adds policy header declared base
        (level.balanced grows even (by omega) deliveries bytes) inlet.feed
        (by simp only [Counts.add, Counts.pulled]; omega)
      rw [streamed]
      exact ⟨counts, metrics.trans adds, ⟨grows.passed, grows.failed, grows.aborted⟩, balances⟩
    | false =>
      simp only [ended, Bool.false_eq_true, if_false] at streamed
      obtain ⟨more, pulled, adds', grows', goes⟩ := absorbAll_adds level inlet.feed
      have both := grows.trans grows'
      have unjudged : Unjudged (counts.add more) := ⟨both.passed, both.failed, both.aborted⟩
      rcases absorbs : absorbAll d inlet.feed with ⟨failure | finished, last, left⟩
      · simp only [absorbs] at adds' goes streamed
        have regressions := both.regressions
        rw [streamed]
        refine ⟨_, adds.trans adds', unjudged, ?_, .failed rfl⟩
        rcases goes with ⟨stuck, here⟩ | ⟨even', fault, rfl⟩
        · refine .stuck rfl rfl here ?_ ?_ <;> simp only [Counts.add, Counts.pulled] at * <;> omega
        · refine .failed rfl (fun _ impossible => by cases impossible) ?_ ?_ <;>
            simp only [Counts.add, Counts.pulled] at * <;> omega
      · simp only [absorbs] at adds' both goes streamed
        obtain ⟨even', applied', level, bytesIn'⟩ : more.framed = more.written ∧
          last.applied = d.applied + more.framed ∧ last.Level ∧
            last.framer.bytesIn = d.framer.bytesIn + pulled := goes
        have all := both.bytesIn
        have counted := level.balanced both (by simp only [Counts.add]; omega)
          (by simp only [Counts.add]; omega) deliveries bytes
        obtain ⟨metrics, balances⟩ := completed_adds policy header declared base counted left
          (by simp only [Counts.add, Counts.pulled] at *; omega)
        rw [streamed]
        exact ⟨_, metrics.trans (adds.trans adds'), unjudged, balances⟩

theorem undecided_ok {mode : ContainerMode} {length : Nat} {header : Option Container.Header}
    (done : Whole.undecided mode length none = .ok header) : header = none := by
  simp only [Whole.undecided] at done
  split at done
  · cases done
    rfl
  · cases done

theorem takeHeader_adds (mode : ContainerMode) (parser : Container.Parser) (buffer : Bytes)
    (feed : Feed) (journal : Journal) :
    ∃ deliveries bytes,
      journal.Adds (takeHeader mode parser buffer feed journal).2.journal
        (.pulled deliveries bytes) ∧
      ∀ header, (takeHeader mode parser buffer feed journal).1 = .ok header →
        buffer.length + bytes = Whole.frontLength header +
          (takeHeader mode parser buffer feed journal).2.buffer.length := by
  induction buffer, feed, journal using takeHeader.induct mode parser with
  | case1 feed buffer journal unknown wanted =>
    rw [takeHeader, if_pos unknown, if_pos wanted]
    exact ⟨0, 0, .refl _, fun _ done => by cases done⟩
  | case2 feed buffer journal unknown optional =>
    rw [takeHeader, if_pos unknown, if_neg optional]
    exact ⟨0, 0, .refl _, by rintro _ ⟨⟩; exact Nat.add_comm _ _⟩
  | case3 feed buffer journal known failure parsed =>
    rw [takeHeader, if_neg known, parsed]
    exact ⟨0, 0, .refl _, fun _ done => by cases done⟩
  | case4 feed buffer journal known header parsed =>
    have inside := (Container.Parser.parse_exact.mp parsed).enough
    rw [takeHeader, if_neg known, parsed]
    refine ⟨0, 0, .silent (journal.noteAll_metrics header.notices), ?_⟩
    rintro _ ⟨⟩
    simp only [Whole.frontLength, List.length_drop]
    omega
  | case5 buffer journal known waiting =>
    rw [(takeHeader_ended mode known waiting journal).1]
    refine ⟨0, 0, .refl _, fun header done => ?_⟩
    obtain rfl : header = none := undecided_ok done
    exact Nat.add_comm _ _
  | case6 buffer journal known waiting rest =>
    rw [(takeHeader_ended mode known waiting journal).2 rest]
    refine ⟨0, 0, .refl _, fun header done => ?_⟩
    obtain rfl : header = none := undecided_ok done
    exact Nat.add_comm _ _
  | case7 buffer journal known waiting fault rest =>
    rw [takeHeader, if_neg known, waiting]
    exact ⟨0, 0, .refl _, fun _ done => by cases done⟩
  | case8 buffer journal known waiting bytes rest ih =>
    have delivered := journal.adds_count (.delivery bytes.length)
    obtain ⟨deliveries, more, adds, used⟩ := ih
    rw [takeHeader, if_neg known, waiting]
    refine ⟨_, _, delivered.trans adds, fun header done => ?_⟩
    rw [← used header done, List.length_append]
    exact (Nat.add_assoc _ _ _).symm

theorem readHeader_adds (settings : Settings) (feed : Feed) (journal : Journal) :
    ∃ deliveries bytes,
      journal.Adds (readHeader settings feed journal).2.journal (.pulled deliveries bytes) ∧
      ∀ header, (readHeader settings feed journal).1 = .ok header →
        bytes = Whole.frontLength header + (readHeader settings feed journal).2.buffer.length := by
  have taken (mode : ContainerMode) :=
    takeHeader_adds mode settings.parser [] feed journal
  simp only [List.length_nil, Nat.zero_add] at taken
  cases mode : settings.container with
  | absent =>
    simp only [readHeader, mode]
    exact ⟨0, 0, .refl _, by rintro _ ⟨⟩; rfl⟩
  | auto =>
    simp only [readHeader, mode]
    exact taken .auto
  | required =>
    simp only [readHeader, mode]
    exact taken .required

theorem takeSize_adds (buffer : Bytes) (ended : Bool) (feed : Feed) (journal : Journal) :
    ∃ deliveries bytes,
      journal.Adds (takeSize buffer ended feed journal).2.journal (.pulled deliveries bytes) ∧
      ∀ size, (takeSize buffer ended feed journal).1 = .ok size →
        buffer.length + bytes =
          sizeHeaderLength + (takeSize buffer ended feed journal).2.buffer.length := by
  induction buffer, ended, feed, journal using takeSize.induct with
  | case1 feed buffer ended journal failure parsed =>
    rw [takeSize, parsed]
    exact ⟨0, 0, .refl _, fun _ done => by cases done⟩
  | case2 feed buffer ended journal size parsed =>
    have decided : DeclaredSize.parse buffer ≠ .ok none := by
      intro waiting
      rw [parsed] at waiting
      cases waiting
    have enough := DeclaredSize.parse_long decided
    rw [takeSize, parsed]
    refine ⟨0, 0, .refl _, fun _ _ => ?_⟩
    simp only [List.length_drop]
    omega
  | case3 feed buffer journal waiting =>
    rw [takeSize, waiting]
    exact ⟨0, 0, .refl _, fun _ done => by cases done⟩
  | case4 buffer ended journal waiting running =>
    rw [takeSize, waiting]
    simp only [if_neg running]
    exact ⟨0, 0, .refl _, fun _ done => by cases done⟩
  | case5 buffer ended journal waiting running rest =>
    rw [takeSize, waiting]
    simp only [if_neg running]
    exact ⟨0, 0, .refl _, fun _ done => by cases done⟩
  | case6 buffer ended journal waiting running fault rest =>
    rw [takeSize, waiting]
    simp only [if_neg running]
    exact ⟨0, 0, .refl _, fun _ done => by cases done⟩
  | case7 buffer ended journal waiting running bytes rest ih =>
    have delivered := journal.adds_count (.delivery bytes.length)
    obtain ⟨deliveries, more, adds, used⟩ := ih
    rw [takeSize, waiting]
    simp only [if_neg running]
    refine ⟨_, _, delivered.trans adds, fun size done => ?_⟩
    rw [← used size done, List.length_append]
    exact (Nat.add_assoc _ _ _).symm

theorem headers_adds (settings : Settings) (feed : Feed) (journal : Journal) :
    ∃ deliveries bytes,
      journal.Adds (headers settings feed journal).2.journal (.pulled deliveries bytes) ∧
      ∀ header declared, (headers settings feed journal).1 = .ok (header, declared) →
        bytes = Whole.frontLength header + sizeHeaderLength +
          (headers settings feed journal).2.buffer.length := by
  obtain ⟨deliveries, bytes, adds, used⟩ := readHeader_adds settings feed journal
  rcases found : readHeader settings feed journal with ⟨failure | header, inlet⟩
  · rw [found] at adds
    simp only [headers, found]
    exact ⟨deliveries, bytes, adds, fun _ _ done => by cases done⟩
  · obtain ⟨more, moreBytes, adds', used'⟩ :=
      takeSize_adds inlet.buffer inlet.ended inlet.feed inlet.journal
    rw [found] at adds used
    have front : bytes = Whole.frontLength header + inlet.buffer.length := used header rfl
    rcases sized : takeSize inlet.buffer inlet.ended inlet.feed inlet.journal
      with ⟨failure | declared, last⟩
    · rw [sized] at adds'
      simp only [headers, found, sized]
      exact ⟨_, _, adds.trans adds', fun _ _ done => by cases done⟩
    · rw [sized] at adds' used'
      have behind : inlet.buffer.length + moreBytes = sizeHeaderLength + last.buffer.length :=
        used' declared rfl
      simp only [headers, found, sized]
      refine ⟨deliveries + more, bytes + moreBytes, adds.trans adds', ?_⟩
      rintro _ _ ⟨⟩
      omega

theorem prepare_metrics (layout : Layout) (header : Option Container.Header)
    (declared : DeclaredSize) (sink : σ) (journal : Journal) :
    (prepare layout header declared sink journal).2.2.metrics = journal.metrics := by
  have announced (base : Nat) (sink : σ) (journal : Journal) :
      (announce declared base sink journal).2.2 = journal := by
    by_cases word : base + declared.bytes < 2 ^ 64
    · rw [announce_word word]
      rcases ImageSink.perform sink (.resize (base + declared.bytes)) with ⟨next, _ | fault⟩ <;> rfl
    · rw [announce_overruns word]
  cases layout with
  | flat => exact congrArg Journal.metrics (announced 0 sink journal)
  | withHeader =>
    cases header with
    | none =>
      show (announce declared 0 sink (journal.note .nothingToKeep)).2.2.metrics = journal.metrics
      rw [announced]
      rfl
    | some header =>
      obtain ⟨noted, notes⟩ : ∃ noted, noted =
        if header.tag.state = .final then journal else journal.note .magicFinalized := ⟨_, rfl⟩
      have metrics : noted.metrics = journal.metrics := by
        rw [notes]
        split <;> rfl
      cases encoded : header.finalized.encodeAligned alignedLength with
      | error failure =>
        simp only [prepare, ← notes, encoded]
        exact metrics
      | ok bytes =>
        rcases made : ImageSink.perform sink (.write 0 bytes) with ⟨next, _ | fault⟩
        · simp only [prepare, ← notes, encoded, made]
          exact (congrArg Journal.metrics (announced alignedLength next noted)).trans metrics
        · simp only [prepare, ← notes, encoded, made]
          exact metrics

theorem headers_stage {settings : Settings} {feed : Feed} {journal : Journal} {stage : Stage}
    {failure : Failure} {inlet : Inlet}
    (failed : headers settings feed journal = (.error (stage, failure), inlet)) :
    stage = .readingContainerHeader ∨ stage = .readingSizeHeader := by
  rw [headers] at failed
  rcases found : readHeader settings feed journal with ⟨failure' | header, middle⟩
  · rw [found] at failed
    cases failed
    exact .inl rfl
  · rcases sized : takeSize middle.buffer middle.ended middle.feed middle.journal
      with ⟨failure' | declared, last⟩
    · simp only [found, sized] at failed
      cases failed
      exact .inr rfl
    · simp only [found, sized] at failed
      cases failed

theorem decode_adds (settings : Settings) (feed : Feed) (sink : Recorder σ) (journal : Journal) :
    ∃ counts, journal.Adds (decode settings feed sink journal).journal counts ∧
      Unjudged counts ∧ (decode settings feed sink journal).Balances counts ∧
      Repeats (decode settings feed sink journal).result counts := by
  obtain ⟨deliveries, bytes, adds, used⟩ := headers_adds settings feed journal
  rcases read : headers settings feed journal with ⟨⟨stage, failure⟩ | ⟨header, declared⟩, inlet⟩
  · simp only [read] at adds
    simp only [decode_headers, read]
    refine ⟨_, adds, ⟨rfl, rfl, rfl⟩, .failed rfl (fun records => ?_) rfl (Nat.le_refl 0),
      .failed rfl⟩
    change stage = .streamingRecords at records
    subst records
    rcases headers_stage read with impossible | impossible <;> cases impossible
  · simp only [read] at adds used
    have collected : bytes = Whole.frontLength header + sizeHeaderLength + inlet.buffer.length :=
      used header declared rfl
    have metrics := prepare_metrics settings.layout header declared sink inlet.journal
    rcases prepared : prepare settings.layout header declared sink inlet.journal
      with ⟨failure | base, next, told⟩
    · simp only [prepared] at metrics
      simp only [decode_headers, read, proceed, prepared]
      exact ⟨_, metrics.trans adds, ⟨rfl, rfl, rfl⟩,
        .failed rfl (fun impossible => by cases impossible) rfl (Nat.le_refl 0), .failed rfl⟩
    · simp only [prepared] at metrics
      obtain ⟨counts, adds', ⟨passed, failed, aborted⟩, balances⟩ :=
        stream_adds settings.policy header declared base inlet next told deliveries collected
      have told' : journal.Adds told (.pulled deliveries bytes) := metrics.trans adds
      simp only [decode_headers, read, proceed, prepared]
      refine ⟨_, told'.trans adds', ⟨?_, ?_, ?_⟩, balances⟩ <;>
        simp only [Counts.add, Counts.pulled] <;> omega

-- How a session's end is counted: passed, failed or aborted. Breaking down is no end.
def ending : Except Failure Outcome → Nat × Nat × Nat
  | .ok outcome => if outcome.report.passed then (1, 0, 0) else (0, 1, 0)
  | .error failure => if failure = .brokeDown then (0, 0, 0) else (0, 0, 1)

theorem ending_once {result : Except Failure Outcome} (unbroken : result ≠ .error .brokeDown) :
    (ending result).1 + (ending result).2.1 + (ending result).2.2 = 1 := by
  cases result with
  | ok outcome => cases passed : outcome.report.passed <;> simp [ending, passed]
  | error failure =>
    have reported : failure ≠ .brokeDown := by
      rintro rfl
      exact unbroken rfl
    simp only [ending, if_neg reported]

omit [ImageSink σ] in
theorem settle_adds (session : Session) (run : Run σ) :
    run.journal.Adds (session.settle run).2.journal
      { passed := (ending run.result).1
        failed := (ending run.result).2.1
        aborted := (ending run.result).2.2 } := by
  rw [settle]
  cases run.result with
  | error failure =>
    by_cases broken : failure = .brokeDown
    · simp only [ending, if_pos broken]
      exact .refl run.journal
    · simp only [ending, if_neg broken]
      exact Journal.adds_count (run.journal.note (.sessionFailed run.stage failure)) .sessionAborted
  | ok outcome =>
    cases passed : outcome.report.passed with
    | true =>
      simp only [ending, passed, if_true]
      exact run.journal.adds_count .sessionPassed
    | false =>
      simp only [ending, passed, Bool.false_eq_true, if_false]
      exact run.journal.adds_count .sessionFailed

theorem Balances.ended {result : Except Failure Outcome} {stuck : Prop} {counts : Counts}
    (balances : Balances result stuck counts) (passed failed aborted : Nat) :
    Balances result stuck (counts.add { passed, failed, aborted }) := by
  obtain ⟨stopped, even, records, duplicates, regressions, bytesIn⟩ := balances
  constructor <;> simpa only [Counts.add, Nat.add_zero]

-- The account of one run. A session that has run before adds nothing to it.
structure Accounts (session : Session) (feed : Feed) (sink : σ) (journal : Journal)
    (counts : Counts) : Prop where
  adds : journal.Adds (session.run feed sink journal).2.journal counts
  used : session.stage ≠ .init → counts = .none
  ended : session.stage = .init →
    (counts.passed, counts.failed, counts.aborted) = ending (session.run feed sink journal).2.result
  once : session.stage = .init → Room session.settings feed.bytes →
    counts.passed + counts.failed + counts.aborted = 1
  balances : session.stage = .init →
    Balances (session.run feed sink journal).2.result
      (session.run feed (Recorder.mk sink []) journal).2.AtRecord counts

theorem run_accounts (session : Session) (feed : Feed) (sink : σ) (journal : Journal) :
    ∃ counts, Accounts session feed sink journal counts ∧
      Repeats (session.run feed sink journal).2.result counts := by
  by_cases fresh : session.stage = .init
  · obtain ⟨counts, adds, ⟨passed, failed, aborted⟩, balances, repeats⟩ :=
      decode_adds session.settings feed (Recorder.mk sink []) journal
    obtain ⟨next, -, same⟩ := run_recorded session feed sink journal
    have result : (session.run feed (Recorder.mk sink []) journal).2.result =
        (session.run feed sink journal).2.result := congrArg (·.2.result) same
    have account : (session.run feed (Recorder.mk sink []) journal).2.journal =
        (session.run feed sink journal).2.journal := congrArg (·.2.journal) same
    have settled := session.settle_adds (decode session.settings feed (Recorder.mk sink []) journal)
    obtain ⟨-, kept, ended⟩ :=
      session.settle_keeps (decode session.settings feed (Recorder.mk sink []) journal)
    rw [← run_settle fresh] at settled kept ended
    have stuck : (session.run feed (Recorder.mk sink []) journal).2.AtRecord ↔
        (decode session.settings feed (Recorder.mk sink []) journal).AtRecord := by
      obtain ⟨stage, left⟩ := Prod.mk.inj ended
      obtain ⟨result, calls⟩ := Prod.mk.inj left
      rw [Run.AtRecord, Run.AtRecord, stage, result, calls]
    rw [← kept, result] at settled
    refine ⟨_, ⟨account ▸ adds.trans settled, fun used => absurd fresh used, fun _ => ?_,
      fun _ room => ?_, fun _ => ?_⟩, ?_⟩
    · simp only [Counts.add, passed, failed, aborted, Nat.zero_add]
    · simp only [Counts.add, passed, failed, aborted, Nat.zero_add]
      exact ending_once fun broken => (run_broken fresh broken).1 room
    · rw [stuck, ← result, kept]
      exact Balances.ended balances _ _ _
    · rw [← result, kept]
      exact repeats
  · refine ⟨.none, ⟨?_, fun _ => rfl, fun first => absurd first fresh,
      fun first => absurd first fresh, fun first => absurd first fresh⟩, ?_⟩
    · rw [run_used fresh]
      exact .refl journal
    · rw [run_used fresh]
      exact .failed rfl

end Session

structure Job where
  session : Nat
  σ : Type
  sinks : ImageSink σ
  feed : Feed
  sink : σ

instance (job : Job) : ImageSink job.σ := job.sinks

structure Pool where
  sessions : Nat → Session
  journal : Journal

namespace Pool

def run (pool : Pool) (job : Job) : Pool :=
  let (session, run) := (pool.sessions job.session).run job.feed job.sink pool.journal
  { sessions := fun number => if number = job.session then session else pool.sessions number
    journal := run.journal }

def runAll (pool : Pool) (jobs : List Job) : Pool := jobs.foldl run pool

def Accounts (pool : Pool) (job : Job) (counts : Counts) : Prop :=
  Session.Accounts (pool.sessions job.session) job.feed job.sink pool.journal counts

-- Each run has its counts, and adds them to the account that the runs before it left.
inductive AllAccount : Pool → List Job → List Counts → Prop where
  | none (pool : Pool) : AllAccount pool [] []
  | more {pool : Pool} {job : Job} {rest : List Job} {counts : Counts} {later : List Counts}
      (one : pool.Accounts job counts) (others : AllAccount (pool.run job) rest later) :
      AllAccount pool (job :: rest) (counts :: later)

theorem accounts_all (pool : Pool) (jobs : List Job) :
    ∃ counts, AllAccount pool jobs counts := by
  induction jobs generalizing pool with
  | nil => exact ⟨[], .none pool⟩
  | cons job rest ih =>
    obtain ⟨counts, one, -⟩ := Session.run_accounts (pool.sessions job.session) job.feed job.sink
      pool.journal
    obtain ⟨later, others⟩ := ih (pool.run job)
    exact ⟨counts :: later, .more one others⟩

theorem AllAccount.adds {pool : Pool} {jobs : List Job} {counts : List Counts}
    (accounts : AllAccount pool jobs counts) :
    pool.journal.Adds (pool.runAll jobs).journal (.total counts) := by
  induction accounts with
  | none pool => exact .refl pool.journal
  | more one _ ih => exact one.adds.trans ih

theorem AllAccount.take {pool : Pool} {jobs : List Job} {counts : List Counts}
    (accounts : AllAccount pool jobs counts) (count : Nat) :
    AllAccount pool (jobs.take count) (counts.take count) := by
  induction accounts generalizing count with
  | none pool =>
    rw [List.take_nil, List.take_nil]
    exact .none pool
  | more one _ ih =>
    cases count with
    | zero => exact .none _
    | succ count => exact .more one (ih count)

theorem AllAccount.at {before after : List Job} {pool : Pool} {job : Job} {counts : List Counts}
    (accounts : AllAccount pool (before ++ job :: after) counts) :
    ∃ own, counts[before.length]? = some own ∧ (pool.runAll before).Accounts job own := by
  induction before generalizing pool counts with
  | nil =>
    rcases accounts with _ | ⟨one, others⟩
    exact ⟨_, rfl, one⟩
  | cons first rest ih =>
    rcases accounts with _ | ⟨one, others⟩
    exact ih others

theorem run_stage (pool : Pool) (job : Job) (number : Nat) :
    ((pool.run job).sessions number).stage = .init ↔
      number ≠ job.session ∧ (pool.sessions number).stage = .init := by
  by_cases same : number = job.session
  · subst same
    have used := Session.run_used_up (pool.sessions job.session) job.feed job.sink pool.journal
    simp only [run, if_true, ne_eq, not_true, false_and, iff_false]
    exact used
  · have other : (pool.run job).sessions number = pool.sessions number := if_neg same
    rw [other, and_iff_right same]

theorem runAll_stage (pool : Pool) (jobs : List Job) (number : Nat) :
    ((pool.runAll jobs).sessions number).stage = .init ↔
      (∀ job ∈ jobs, number ≠ job.session) ∧ (pool.sessions number).stage = .init := by
  induction jobs generalizing pool with
  | nil => simp [runAll]
  | cons job rest ih =>
    have later := ih (pool.run job)
    rw [run_stage] at later
    rw [List.forall_mem_cons, and_comm (a := number ≠ job.session), and_assoc]
    exact later

-- After a reset the counters show, behind any of the runs, what all runs so far have counted, and
-- what each of them has counted balances: for the first run of a session by its result, and for the
-- others by being nothing.
theorem runs_balance {pool : Pool} (reset : pool.journal.metrics = {})
    (new : ∀ number, (pool.sessions number).stage = .init) (jobs : List Job) :
    ∃ counts : List Counts,
      (∀ count, (pool.runAll (jobs.take count)).journal.metrics.counts =
        (Counts.total (counts.take count)).wrapped) ∧
      ∀ before job after, jobs = before ++ job :: after →
        ∃ own, counts[before.length]? = some own ∧ (pool.runAll before).Accounts job own ∧
          (((pool.runAll before).sessions job.session).stage = .init ↔
            ∀ earlier ∈ before, job.session ≠ earlier.session) := by
  obtain ⟨counts, accounts⟩ := accounts_all pool jobs
  refine ⟨counts, fun count => ?_, ?_⟩
  · have adds := (accounts.take count).adds
    rw [Journal.Adds, reset] at adds
    rw [adds, Metrics.counts_plus]
  · rintro before job after rfl
    obtain ⟨own, place, one⟩ := accounts.at
    refine ⟨own, place, one, ?_⟩
    rw [runAll_stage, and_iff_left (new _)]

-- A session that breaks down over the length of its image is not counted.
theorem runs_balance_overrun :
    let pool : Pool := ⟨fun _ => { settings := Session.overrunSettings }, .empty⟩
    let job : Job := ⟨0, NullImage, inferInstance, Session.overrunFeed, ⟨⟩⟩
    let counts := (pool.runAll [job]).journal.metrics.counts
    (pool.sessions 0).stage = .init ∧
      (counts.passed, counts.failed, counts.aborted) = (0, 0, 0) := by
  intro pool job counts
  have undisturbed := Session.null_undisturbed (pool.sessions 0) Session.overrunFeed .empty
  have broken := (Session.overrun_run undisturbed).2
  obtain ⟨own, account, -⟩ :=
    Session.run_accounts (pool.sessions 0) Session.overrunFeed NullImage.mk .empty
  have ended := account.ended rfl
  rw [broken] at ended
  obtain ⟨passed, rest⟩ := Prod.mk.inj ended
  obtain ⟨failed, aborted⟩ := Prod.mk.inj rest
  have all : AllAccount pool [job] [own] := .more account (.none (pool.run job))
  have shown : counts = (Counts.total [own]).wrapped := by
    show (pool.runAll [job]).journal.metrics.counts = _
    rw [all.adds]
    exact Metrics.counts_plus _
  refine ⟨rfl, ?_⟩
  rw [shown]
  simp only [Counts.wrapped, Counts.total, Counts.add, Counts.none, passed, failed, aborted]

-- A session that fails on its size, and is asked again.
theorem runs_balance_again :
    let pool : Pool := ⟨fun _ => { settings := { container := .absent } }, .empty⟩
    let bad : Job := ⟨0, NullImage, inferInstance, [.piece [1, 0, 0, 0, 0, 0, 0, 0]], ⟨⟩⟩
    let again : Job := ⟨0, MemoryImage, inferInstance, [.piece [0], .ended], ⟨[]⟩⟩
    ∃ first second : Counts,
      (pool.runAll [bad, again]).journal.metrics.counts =
        (Counts.total [first, second]).wrapped ∧
      first.aborted = 1 ∧ first.framed = first.written ∧ second = .none := by
  intro pool bad again
  have reset : pool.journal.metrics = {} := rfl
  have new : ∀ number, (pool.sessions number).stage = .init := fun _ => rfl
  obtain ⟨counts, shows, each⟩ := runs_balance reset new [bad, again]
  obtain ⟨first, one, account, -⟩ := each [] bad [again] rfl
  obtain ⟨second, two, refused, seen⟩ := each [bad] again [] rfl
  obtain ⟨rest, rfl⟩ : ∃ rest, counts = first :: second :: rest := by
    rcases counts with _ | ⟨one', _ | ⟨two', rest⟩⟩
    · cases one
    · cases two
    · cases one
      cases two
      exact ⟨rest, rfl⟩
  refine ⟨first, second, shows 2, ?_, ?_, ?_⟩
  · exact congrArg (·.2.2) (account.ended rfl)
  · refine (account.balances rfl).even ?_
    rintro ⟨stage, -⟩
    cases stage
  · refine refused.used fun new => ?_
    exact seen.mp new bad List.mem_cons_self rfl

end Pool

end PageStream
