import PageStream.Proofs.Runs

namespace PageStream

-- Two sinks call for call. They answer alike, or the second one reports a fault and is lost.
structure Coupling (σ τ : Type) [ImageSink σ] [ImageSink τ] where
  alike : σ → τ → Prop
  lost : τ → Prop
  call : ∀ {one : σ} {two : τ}, alike one two → ∀ call,
    (∃ answer next next', ImageSink.perform one call = (next, answer) ∧
      ImageSink.perform two call = (next', answer) ∧ alike next next') ∨
    ∃ fault next', ImageSink.perform two call = (next', some fault) ∧ lost next'

def Reconstructor.wire {σ τ : Type} (r : Reconstructor σ) (sink : τ) : Reconstructor τ :=
  ⟨sink, r.index, r.policy, r.base, r.current, r.journal⟩

def Session.Decoder.wire {σ τ : Type} (d : Decoder σ) (sink : τ) : Decoder τ :=
  ⟨d.framer, d.reconstructor.wire sink, d.applied⟩

def Session.Run.wire {σ τ : Type} (run : Run σ) (sink : τ) : Run τ :=
  ⟨run.stage, run.result, run.feed, sink, run.journal⟩

-- Where the sink sits in a state of either run, and how the second one's takes the first one's place.
structure Socket (σ τ S T : Type) where
  one : S → σ
  two : T → τ
  wire : S → τ → T

namespace Socket

variable {σ τ : Type}

def image : Socket σ τ (σ × Journal) (τ × Journal) := ⟨(·.1), (·.1), fun s sink => (sink, s.2)⟩

def reconstructor : Socket σ τ (Reconstructor σ) (Reconstructor τ) := ⟨(·.sink), (·.sink), (·.wire ·)⟩

def decoder : Socket σ τ (Session.Decoder σ) (Session.Decoder τ) :=
  ⟨(·.reconstructor.sink), (·.reconstructor.sink), (·.wire ·)⟩

def feeding : Socket σ τ (Session.Decoder σ × Feed) (Session.Decoder τ × Feed) :=
  ⟨(·.1.reconstructor.sink), (·.1.reconstructor.sink), fun s sink => (s.1.wire sink, s.2)⟩

end Socket

variable {σ τ : Type} [ImageSink σ] [ImageSink τ] (c : Coupling σ τ)

def Coupling.Beside {S T α : Type} (socket : Socket σ τ S T) (one : Except Failure α × S)
    (two : Except Failure α × T) : Prop :=
  (∃ next, c.alike (socket.one one.2) next ∧ two = (one.1, socket.wire one.2 next)) ∨
    ∃ failure after, two = (.error failure, after) ∧ c.lost (socket.two after)

def Coupling.Ends (one : Session.Run σ) (two : Session.Run τ) : Prop :=
  (∃ next, c.alike one.sink next ∧ two = one.wire next) ∨ c.lost two.sink

namespace Reconstructor

omit [ImageSink σ] [ImageSink τ] in
theorem enter_wire (r : Reconstructor σ) (sink : τ) (iteration : Nat) :
    (r.wire sink).enter iteration = (r.enter iteration).wire sink := by
  unfold enter
  cases seen : r.current with
  | none => simp only [wire, seen]
  | some previous =>
    by_cases same : previous = iteration
    · simp only [wire, seen, same, if_true]
    · simp only [wire, seen, same, if_false]

omit [ImageSink σ] in
theorem enter_sink (r : Reconstructor σ) (iteration : Nat) : (r.enter iteration).sink = r.sink :=
  congrArg Bench.sink (r.enter_keeps iteration).1

theorem applyPage_coupled {r : Reconstructor σ} {sink : τ} (alike : c.alike r.sink sink)
    (header : PageHeader) (payload : Bytes) :
    c.Beside .reconstructor (r.applyPage header payload)
      ((r.wire sink).applyPage header payload) := by
  rw [← r.enter_sink header.iteration] at alike
  simp only [applyPage, enter_wire]
  generalize r.enter header.iteration = r at alike ⊢
  rcases c.call alike (.write (r.base + header.offset) payload) with
    ⟨answer, next, next', one, two, alike⟩ | ⟨fault, next', two, lost⟩
  · refine .inl ⟨next', ?_⟩
    cases answer with
    | none =>
      simp only [wire, one, two]
      exact ⟨alike, rfl⟩
    | some fault =>
      simp only [wire, one, two]
      exact ⟨alike, rfl⟩
  · simp only [wire, two]
    exact .inr ⟨_, _, rfl, lost⟩

theorem apply_coupled {r : Reconstructor σ} {sink : τ} (alike : c.alike r.sink sink)
    (record : Record) :
    c.Beside .reconstructor (r.apply record) ((r.wire sink).apply record) := by
  cases decoded : PageHeader.decode record.headerBytes with
  | error failure =>
    simp only [apply, decoded]
    exact .inl ⟨sink, alike, rfl⟩
  | ok header =>
    simp only [apply, decoded]
    rcases applyPage_coupled c alike header record.payload with
      ⟨next, alike, same⟩ | ⟨failure, after, stopped, lost⟩
    · rcases ran : r.applyPage header record.payload with ⟨failure | observation, middle⟩
      all_goals
        rw [ran] at alike same
        simp only [same]
        exact .inl ⟨next, alike, rfl⟩
    · simp only [stopped]
      exact .inr ⟨failure, after, rfl, lost⟩

theorem finish_coupled {r : Reconstructor σ} {sink : τ} (alike : c.alike r.sink sink) :
    c.Beside .reconstructor r.finish (r.wire sink).finish := by
  rcases c.call alike .flush with ⟨answer, next, next', one, two, alike⟩ | ⟨fault, next', two, lost⟩
  · refine .inl ⟨next', ?_⟩
    cases answer with
    | none =>
      simp only [finish, wire, one, two]
      exact ⟨alike, rfl⟩
    | some fault =>
      simp only [finish, wire, one, two]
      exact ⟨alike, rfl⟩
  · simp only [finish, wire, two]
    exact .inr ⟨_, _, rfl, lost⟩

end Reconstructor

namespace Session

theorem applyAll_coupled {r : Reconstructor σ} {sink : τ} (alike : c.alike r.sink sink)
    (number : Nat) (records : List Record) :
    c.Beside .reconstructor (applyAll r number records)
      (applyAll (r.wire sink) number records) := by
  induction records generalizing r sink number with
  | nil => exact .inl ⟨sink, alike, rfl⟩
  | cons record rest ih =>
    have pulled : (r.wire sink).pull = r.pull.wire sink := rfl
    have counted : c.alike r.pull.sink sink := alike
    simp only [applyAll, pulled]
    rcases Reconstructor.apply_coupled c counted record with
      ⟨next, alike, same⟩ | ⟨failure, after, stopped, lost⟩
    · rcases ran : r.pull.apply record with ⟨failure | done, middle⟩
      · rw [ran] at alike same
        simp only [same]
        exact .inl ⟨next, alike, rfl⟩
      · rw [ran] at alike same
        simp only [same]
        exact ih alike (number + 1)
    · simp only [stopped]
      exact .inr ⟨_, after, rfl, lost⟩

theorem absorb_coupled {d : Decoder σ} {sink : τ} (alike : c.alike d.reconstructor.sink sink)
    (piece : Bytes) :
    c.Beside .decoder (absorb d piece) (absorb (d.wire sink) piece) := by
  have framer : (d.wire sink).framer = d.framer := rfl
  have applied : (d.wire sink).applied = d.applied := rfl
  have reconstructor : (d.wire sink).reconstructor = d.reconstructor.wire sink := rfl
  simp only [absorb, framer, applied, reconstructor]
  rcases applyAll_coupled c alike d.applied (d.framer.feed piece).drain.1 with
    ⟨next, alike, same⟩ | ⟨failure, after, stopped, lost⟩
  · rcases ran : applyAll d.reconstructor d.applied (d.framer.feed piece).drain.1
      with ⟨failure | count, r⟩
    all_goals
      rw [ran] at alike same
      simp only [same]
      exact .inl ⟨next, alike, rfl⟩
  · simp only [stopped]
    exact .inr ⟨failure, _, rfl, lost⟩

theorem absorbAll_coupled {d : Decoder σ} {sink : τ} (alike : c.alike d.reconstructor.sink sink)
    (feed : Feed) :
    c.Beside .feeding (absorbAll d feed) (absorbAll (d.wire sink) feed) := by
  induction feed generalizing d sink with
  | nil => exact .inl ⟨sink, alike, rfl⟩
  | cons answer rest ih =>
    cases answer with
    | ended => exact .inl ⟨sink, alike, rfl⟩
    | failed fault => exact .inl ⟨sink, alike, rfl⟩
    | piece bytes =>
      have counted : countDelivery (d.wire sink) bytes.length =
          (countDelivery d bytes.length).wire sink := rfl
      have kept : c.alike (countDelivery d bytes.length).reconstructor.sink sink := alike
      simp only [absorbAll, counted]
      rcases absorb_coupled c kept bytes with ⟨next, alike, same⟩ | ⟨failure, after, stopped, lost⟩
      · rcases ran : absorb (countDelivery d bytes.length) bytes with ⟨failure | done, middle⟩
        · rw [ran] at alike same
          simp only [same]
          exact .inl ⟨next, alike, rfl⟩
        · rw [ran] at alike same
          simp only [same]
          exact ih alike
      · simp only [stopped]
        exact .inr ⟨failure, (after, rest), rfl, lost⟩

theorem conclude_coupled {d : Decoder σ} {sink : τ} (alike : c.alike d.reconstructor.sink sink) :
    c.Beside .reconstructor (conclude d) (conclude (d.wire sink)) := by
  have framer : (d.wire sink).framer = d.framer := rfl
  cases finished : d.framer.finish with
  | error failure =>
    simp only [conclude, framer, finished]
    exact .inl ⟨sink, alike, rfl⟩
  | ok records =>
    obtain ⟨r, noted⟩ : ∃ r, r = { d.reconstructor with
        journal := d.reconstructor.journal.noteAll d.framer.endNotices } := ⟨_, rfl⟩
    have rewired : { (d.wire sink).reconstructor with
        journal := (d.wire sink).reconstructor.journal.noteAll d.framer.endNotices } =
      r.wire sink := by rw [noted]; rfl
    have kept : c.alike r.sink sink := by rw [noted]; exact alike
    simp only [conclude, framer, finished, rewired, ← noted]
    rcases Reconstructor.finish_coupled c kept with
      ⟨next, alike, same⟩ | ⟨failure, after, stopped, lost⟩
    · rcases ran : r.finish with ⟨failure | index, after⟩
      all_goals
        rw [ran] at alike same
        simp only [same]
        exact .inl ⟨next, alike, rfl⟩
    · simp only [stopped]
      exact .inr ⟨failure, after, rfl, lost⟩

theorem announce_coupled {one : σ} {two : τ} (alike : c.alike one two) (declared : DeclaredSize)
    (base : Nat) (journal : Journal) :
    c.Beside .image (announce declared base one journal) (announce declared base two journal) := by
  by_cases word : base + declared.bytes < 2 ^ 64
  · rw [announce_word word, announce_word word]
    rcases c.call alike (.resize (base + declared.bytes)) with
      ⟨answer, next, next', first, second, alike⟩ | ⟨fault, next', second, lost⟩
    · rw [first, second]
      cases answer with
      | none => exact .inl ⟨next', alike, rfl⟩
      | some fault => exact .inl ⟨next', alike, rfl⟩
    · rw [second]
      exact .inr ⟨_, (next', journal), rfl, lost⟩
  · rw [announce_overruns word, announce_overruns word]
    exact .inl ⟨two, alike, rfl⟩

theorem prepare_coupled {one : σ} {two : τ} (alike : c.alike one two) (layout : Layout)
    (header : Option Container.Header) (declared : DeclaredSize) (journal : Journal) :
    c.Beside .image (prepare layout header declared one journal)
      (prepare layout header declared two journal) := by
  cases layout with
  | flat => exact announce_coupled c alike declared 0 journal
  | withHeader =>
    cases header with
    | none => exact announce_coupled c alike declared 0 (journal.note .nothingToKeep)
    | some header =>
      cases encoded : header.finalized.encodeAligned alignedLength with
      | error failure =>
        simp only [prepare, encoded]
        exact .inl ⟨two, alike, rfl⟩
      | ok bytes =>
        rcases c.call alike (.write 0 bytes) with
          ⟨answer, next, next', first, second, alike⟩ | ⟨fault, next', second, lost⟩
        · cases answer with
          | none =>
            simp only [prepare, encoded, first, second]
            exact announce_coupled c alike declared alignedLength _
          | some fault =>
            simp only [prepare, encoded, first, second]
            exact .inl ⟨next', alike, rfl⟩
        · simp only [prepare, encoded, second]
          exact .inr ⟨_, (next', _), rfl, lost⟩

def completed (policy : Policy) (header : Option Container.Header) (declared : DeclaredSize)
    (base : Nat) : Except Failure Unit × Decoder σ × Feed → Run σ
  | (.error failure, d, feed) =>
    ⟨.streamingRecords, .error failure, feed, d.reconstructor.sink, d.reconstructor.journal⟩
  | (.ok _, d, feed) =>
    match conclude d with
    | (.error failure, r) => ⟨.streamingRecords, .error failure, feed, r.sink, r.journal⟩
    | (.ok (records, index), r) =>
      let report := Report.ofIndex index declared policy
      ⟨.validating, .ok ⟨header, declared, base, records, d.framer.bytesIn, index, report⟩, feed,
        r.sink, r.journal.noteAll report.notices⟩

theorem stream_completed (policy : Policy) (header : Option Container.Header)
    (declared : DeclaredSize) (base : Nat) (inlet : Inlet) (sink : σ) (journal : Journal) :
    stream policy header declared base inlet sink journal =
      match absorb ⟨.empty, .start sink policy base journal, 0⟩ inlet.buffer with
      | (.error failure, d) =>
        completed policy header declared base (.error failure, d, inlet.feed)
      | (.ok _, d) =>
        completed policy header declared base
          (if inlet.ended then (.ok (), d, inlet.feed) else absorbAll d inlet.feed) := by
  rw [stream]
  rcases absorb ⟨.empty, .start sink policy base journal, 0⟩ inlet.buffer with ⟨failure | done, d⟩
  · rfl
  · change _ = completed policy header declared base
      (if inlet.ended then (.ok (), d, inlet.feed) else absorbAll d inlet.feed)
    rcases (if inlet.ended then (.ok (), d, inlet.feed) else absorbAll d inlet.feed)
      with ⟨failure | finished, d, feed⟩
    · rfl
    · rfl

theorem completed_coupled {d : Decoder σ} {sink : τ} (alike : c.alike d.reconstructor.sink sink)
    (policy : Policy) (header : Option Container.Header) (declared : DeclaredSize) (base : Nat)
    (answer : Except Failure Unit) (feed : Feed) :
    c.Ends (completed policy header declared base (answer, d, feed))
      (completed policy header declared base (answer, d.wire sink, feed)) := by
  cases answer with
  | error failure => exact .inl ⟨sink, alike, rfl⟩
  | ok done =>
    simp only [completed]
    rcases conclude_coupled c alike with ⟨next, alike, same⟩ | ⟨failure, after, stopped, lost⟩
    · rcases ran : conclude d with ⟨failure | ⟨records, index⟩, r⟩
      all_goals
        rw [ran] at alike same
        simp only [same]
        exact .inl ⟨next, alike, rfl⟩
    · simp only [stopped]
      exact .inr lost

theorem stream_coupled {one : σ} {two : τ} (alike : c.alike one two) (policy : Policy)
    (header : Option Container.Header) (declared : DeclaredSize) (base : Nat) (inlet : Inlet)
    (journal : Journal) :
    c.Ends (stream policy header declared base inlet one journal)
      (stream policy header declared base inlet two journal) := by
  obtain ⟨d, begins⟩ : ∃ d : Decoder σ, d = ⟨.empty, .start one policy base journal, 0⟩ :=
    ⟨_, rfl⟩
  have rewired : (⟨.empty, .start two policy base journal, 0⟩ : Decoder τ) = d.wire two := by
    rw [begins]
    rfl
  have starts : c.alike d.reconstructor.sink two := by
    rw [begins]
    exact alike
  simp only [stream_completed, rewired, ← begins]
  rcases absorb_coupled c starts inlet.buffer with
    ⟨next, alike, same⟩ | ⟨failure, after, stopped, lost⟩
  · rcases first : absorb d inlet.buffer with ⟨failure | done, middle⟩
    · rw [first] at alike same
      simp only [same]
      exact completed_coupled c alike policy header declared base (.error failure) inlet.feed
    · rw [first] at alike same
      simp only [same]
      cases inlet.ended with
      | true => exact completed_coupled c alike policy header declared base (.ok ()) inlet.feed
      | false =>
        simp only [Bool.false_eq_true, if_false]
        have onward : c.Beside .feeding (absorbAll middle inlet.feed)
            (absorbAll (Socket.decoder.wire middle next) inlet.feed) :=
          absorbAll_coupled c alike inlet.feed
        rcases onward with ⟨last, alike, same⟩ | ⟨failure, ⟨after, rest⟩, stopped, lost⟩
        · rw [same]
          exact completed_coupled c alike policy header declared base _ _
        · rw [stopped]
          exact .inr lost
  · simp only [stopped]
    exact .inr lost

theorem decode_coupled {one : σ} {two : τ} (alike : c.alike one two) (settings : Settings)
    (feed : Feed) (journal : Journal) :
    c.Ends (decode settings feed one journal) (decode settings feed two journal) := by
  rcases found : readHeader settings feed journal with ⟨failure | header, inlet⟩
  · simp only [decode, found]
    exact .inl ⟨two, alike, rfl⟩
  · rcases sized : takeSize inlet.buffer inlet.ended inlet.feed inlet.journal
      with ⟨failure | declared, inlet⟩
    · simp only [decode, found, sized]
      exact .inl ⟨two, alike, rfl⟩
    · simp only [decode, found, sized]
      rcases prepare_coupled c alike settings.layout header declared inlet.journal with
        ⟨next, alike, same⟩ | ⟨failure, ⟨after, told⟩, stopped, lost⟩
      · rcases ran : prepare settings.layout header declared one inlet.journal
          with ⟨failure | base, sink, told⟩
        · rw [ran] at alike same
          simp only [same]
          exact .inl ⟨next, alike, rfl⟩
        · rw [ran] at alike same
          simp only [same]
          exact stream_coupled c alike settings.policy header declared base inlet told
      · simp only [stopped]
        exact .inr lost

omit [ImageSink σ] [ImageSink τ] in
theorem settle_wire (session : Session) (run : Run σ) (sink : τ) :
    session.settle (run.wire sink) =
      ((session.settle run).1, (session.settle run).2.wire sink) := by
  obtain ⟨stage, failure | outcome, feed, first, journal⟩ := run
  · by_cases broken : failure = .brokeDown <;>
      simp only [settle, Run.wire, broken, if_true, if_false]
  · rfl

omit [ImageSink σ] in
theorem settle_sink (session : Session) (run : Run σ) : (session.settle run).2.sink = run.sink :=
  congrArg (·.2.2) (session.settle_keeps run).2.2

-- What a run on the second sink is, beside the run on the first.
theorem run_coupled {one : σ} {two : τ} (alike : c.alike one two) (session : Session) (feed : Feed)
    (journal : Journal) :
    (∃ next, c.alike (session.run feed one journal).2.sink next ∧
      session.run feed two journal =
        ((session.run feed one journal).1, (session.run feed one journal).2.wire next)) ∨
    c.lost (session.run feed two journal).2.sink := by
  by_cases fresh : session.stage = .init
  · rw [run_settle fresh, run_settle fresh]
    rcases decode_coupled c alike session.settings feed journal with ⟨next, alike, same⟩ | lost
    · rw [same, settle_wire, settle_sink]
      exact .inl ⟨next, alike, rfl⟩
    · rw [settle_sink session (decode session.settings feed two journal)]
      exact .inr lost
  · rw [run_used fresh, run_used fresh]
    exact .inl ⟨two, alike, rfl⟩

def recorded : Coupling σ (Recorder σ) where
  alike sink recorder := recorder.behind = sink
  lost _ := False
  call {sink recorder} alike call := by
    cases alike
    exact .inl ⟨(ImageSink.perform recorder.behind call).2, _, _, rfl, rfl, rfl⟩

theorem run_recorded (session : Session) (feed : Feed) (sink : σ) (journal : Journal) :
    ∃ next, next.behind = (session.run feed sink journal).2.sink ∧
      session.run feed (Recorder.mk sink []) journal =
        ((session.run feed sink journal).1, (session.run feed sink journal).2.wire next) := by
  have alike : (recorded (σ := σ)).alike sink (Recorder.mk sink []) := rfl
  rcases run_coupled recorded alike session feed journal with ⟨next, alike, same⟩ | lost
  · exact ⟨next, alike, same⟩
  · exact lost.elim

end Session

end PageStream
