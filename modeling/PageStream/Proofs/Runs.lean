import PageStream.Proofs.Plan

namespace PageStream

namespace Plan

variable {σ : Type} [ImageSink σ]

theorem carryOut_accepts {plan : Plan} {sink : σ}
    (accepts : ImageSink.Accepts sink (plan.steps.map (·.call))) :
    plan.carryOut sink =
      (plan.stage, plan.result, ImageSink.after sink (plan.steps.map (·.call))) := by
  simp only [carryOut, accepts.performAll]

theorem carryOut_sink (plan : Plan) (sink : σ) :
    (plan.carryOut sink).2.2 = (ImageSink.performAll sink plan.steps).1 := by
  rw [carryOut]
  rcases ImageSink.performAll sink plan.steps with ⟨next, _ | ⟨step, fault⟩⟩ <;> rfl

theorem carryOut_ok {plan : Plan} {sink next : σ} {stage : Stage} {outcome : Outcome}
    (ended : plan.carryOut sink = (stage, .ok outcome, next)) :
    plan.result = .ok outcome ∧ ImageSink.Accepts sink (plan.steps.map (·.call)) ∧
      next = ImageSink.after sink (plan.steps.map (·.call)) := by
  rw [carryOut] at ended
  rcases performed : ImageSink.performAll sink plan.steps with ⟨after, _ | ⟨step, fault⟩⟩
  · rw [performed] at ended
    obtain ⟨-, result, rfl⟩ := Prod.mk.inj ended |>.imp id Prod.mk.inj
    exact ⟨result, ImageSink.performAll_made performed⟩
  · rw [performed] at ended
    cases ended

end Plan

namespace Whole

-- A plan succeeds when the headers are read, there is room for the length, and nothing is to be
-- objected to the records.
theorem plan_ok {settings : Settings} {bytes : Bytes} {fault? : Option DeviceFault}
    {outcome : Outcome} :
    (plan settings bytes fault?).result = .ok outcome ↔ ∃ opened,
      opening settings bytes fault? = .ok opened ∧ opened.Fits ∧ opened.objection fault? = none ∧
        opened.outcome settings.policy = outcome := by
  rcases opens : opening settings bytes fault? with ⟨stage, failure⟩ | opened
  · rw [plan, opens]
    simp
  · rw [plan_opened opens]
    by_cases fits : opened.Fits
    · rw [Opened.decoding_fits fits]
      rcases objects : opened.objection fault? with _ | failure
      · simp [Opened.streaming, Opened.closing_whole settings.policy objects, Plan.after, objects,
          fits]
      · simp [Opened.streaming, Opened.closing_stopped settings.policy objects, Plan.after, objects]
    · rw [Opened.decoding_overruns fits]
      simp [fits]

end Whole

-- The calls of a session that gets past the headers. The kept header takes the place before the
-- pages; a flush comes only at a good end.
def Step.sequence (kept : Bytes) (declared : DeclaredSize) (pages : List Record)
    (flushed : Bool) : List Step :=
  (if kept = [] then [] else [⟨.write 0 kept, .readingSizeHeader, 0⟩]) ++
    (⟨.resize (kept.length + declared.bytes), .readingSizeHeader, kept.length + declared.bytes⟩ ::
      (pages.map (·.step kept.length) ++
        if flushed then [⟨.flush, .streamingRecords, kept.length⟩] else []))

namespace Whole

theorem plan_steps {settings : Settings} {bytes : Bytes} {fault? : Option DeviceFault}
    {opened : Opened} (opens : opening settings bytes fault? = .ok opened) (fits : opened.Fits) :
    (plan settings bytes fault?).steps = Step.sequence opened.kept opened.declared opened.applied
      (opened.objection fault? = none) := by
  have closing : (opened.closing settings.policy fault?).steps =
      if opened.objection fault? = none then [opened.flush] else [] := by
    cases objects : opened.objection fault? with
    | none => rw [Opened.closing_whole settings.policy objects, if_pos rfl]
    | some failure =>
      rw [Opened.closing_stopped settings.policy objects, if_neg (Option.some_ne_none failure)]
  simp only [plan_opened opens, Opened.decoding_fits fits, Opened.streaming, Plan.after, closing,
    Step.sequence, Opened.announcing, Opened.keeping, Opened.writes, Opened.flush, Opened.base,
    decide_eq_true_eq, List.append_assoc, List.singleton_append]

theorem plan_ended {settings : Settings} {bytes : Bytes} {fault? : Option DeviceFault}
    {opened : Opened} (opens : opening settings bytes fault? = .ok opened) (fits : opened.Fits) :
    (plan settings bytes fault?).stage = (opened.closing settings.policy fault?).stage ∧
      (plan settings bytes fault?).result = (opened.closing settings.policy fault?).result := by
  rw [plan_opened opens, Opened.decoding_fits fits]
  exact ⟨rfl, rfl⟩

theorem plan_closed {settings : Settings} {bytes : Bytes} {fault? : Option DeviceFault}
    {stage : Stage} {failure : Failure}
    (fails : opening settings bytes fault? = .error (stage, failure)) :
    plan settings bytes fault? = ⟨[], stage, .error failure⟩ := by rw [plan, fails]

end Whole

namespace Session

variable {σ : Type} [ImageSink σ]

-- A session after a run that ended in a stage with a result.
def closed (session : Session) (stage : Stage) : Except Failure Outcome → Session
  | .ok _ => { session with stage := .done }
  | .error failure =>
    if failure = .brokeDown then { session with stage }
    else { session with stage := .failed, failedIn := some stage }

theorem closed_failed (session : Session) (stage : Stage) {failure : Failure}
    (reported : failure ≠ .brokeDown) :
    session.closed stage (.error failure) =
      { session with stage := .failed, failedIn := some stage } := if_neg reported

-- Of the session before it only what it failed in earlier is left, and of its result the failure.
theorem closed_alike {one two : Session} (unfailed : one.failedIn = two.failedIn) (stage : Stage)
    {result result' : Except Failure Outcome}
    (alike : result.map (fun _ => ()) = result'.map (fun _ => ())) :
    (one.closed stage result).stage = (two.closed stage result').stage ∧
      (one.closed stage result).failedIn = (two.closed stage result').failedIn := by
  cases result with
  | ok outcome =>
    cases result' with
    | ok outcome' => exact ⟨rfl, unfailed⟩
    | error failure => cases alike
  | error failure =>
    cases result' with
    | ok outcome => cases alike
    | error failure' =>
      cases alike
      by_cases broken : failure = .brokeDown
      · rw [closed, if_pos broken, closed, if_pos broken]
        exact ⟨rfl, unfailed⟩
      · rw [closed_failed one stage broken, closed_failed two stage broken]
        exact ⟨rfl, rfl⟩

theorem run_settle {session : Session} (fresh : session.stage = .init) (feed : Feed) (sink : σ)
    (journal : Journal) :
    session.run feed sink journal =
      session.settle (decode session.settings feed sink journal) := if_neg (not_not.mpr fresh)

omit [ImageSink σ] in
theorem settle_keeps (session : Session) (run : Run σ) :
    (session.settle run).2.feed = run.feed ∧ (session.settle run).2.result = run.result ∧
      (session.settle run).2.ended = run.ended := by
  obtain ⟨stage, failure | outcome, feed, sink, journal⟩ := run
  · by_cases broken : failure = .brokeDown <;>
      simp only [settle, broken, if_true, if_false, Run.ended, and_self]
  · exact ⟨rfl, rfl, rfl⟩

omit [ImageSink σ] in
theorem settle_closed (session : Session) (run : Run σ) :
    (session.settle run).1 = session.closed run.stage run.result := by
  rw [settle]
  cases run.result with
  | ok outcome => rfl
  | error failure => exact apply_ite Prod.fst (failure = .brokeDown) _ _

theorem run_fresh {session : Session} (fresh : session.stage = .init) (feed : Feed) (sink : σ)
    (journal : Journal) :
    (session.run feed sink journal).2.ended =
        (Whole.plan session.settings feed.bytes feed.fault?).carryOut sink ∧
      (session.run feed sink journal).1 =
        session.closed (session.run feed sink journal).2.stage
          (session.run feed sink journal).2.result := by
  obtain ⟨-, result, ended⟩ := session.settle_keeps (decode session.settings feed sink journal)
  rw [run_settle fresh, ended, decode_exact, settle_closed, result]
  exact ⟨rfl, congrArg (session.closed · _) (congrArg Prod.fst ended).symm⟩

-- No call that a run makes to its image fails.
structure Undisturbed (session : Session) (feed : Feed) (sink : σ) (journal : Journal) : Prop where
  accepts : ImageSink.Accepts sink (session.run feed (Recorder.mk sink []) journal).2.sink.calls

theorem undisturbed_iff {session : Session} (fresh : session.stage = .init) {feed : Feed}
    {sink : σ} {journal : Journal} :
    session.Undisturbed feed sink journal ↔ ImageSink.Accepts sink
      ((Whole.plan session.settings feed.bytes feed.fault?).steps.map (·.call)) := by
  have left := congrArg (·.2.2) (run_fresh fresh feed (Recorder.mk sink []) journal).1
  rw [Plan.carryOut_sink] at left
  rw [← ImageSink.recorded_accepts, ← left]
  exact ⟨Undisturbed.accepts, Undisturbed.mk⟩

theorem undisturbed_of_faultless {sink : σ} (sound : ImageSink.Faultless sink) (session : Session)
    (feed : Feed) (journal : Journal) : session.Undisturbed feed sink journal := ⟨sound.accepts _⟩

theorem null_undisturbed (session : Session) (feed : Feed) (journal : Journal) :
    session.Undisturbed feed NullImage.mk journal :=
  undisturbed_of_faultless (ImageSink.null_faultless ⟨⟩) session feed journal

theorem memory_undisturbed (image : MemoryImage) (session : Session) (feed : Feed)
    (journal : Journal) : session.Undisturbed feed image journal :=
  undisturbed_of_faultless (ImageSink.memory_faultless image) session feed journal

theorem Undisturbed.recorded {session : Session} (fresh : session.stage = .init) {feed : Feed}
    {sink : σ} {journal : Journal} (undisturbed : session.Undisturbed feed sink journal) :
    session.Undisturbed feed (Recorder.mk sink []) journal := by
  rw [undisturbed_iff fresh] at undisturbed ⊢
  exact ImageSink.recorder_accepts.mpr undisturbed

theorem run_undisturbed {session : Session} (fresh : session.stage = .init) {feed : Feed}
    {sink : σ} {journal : Journal} (undisturbed : session.Undisturbed feed sink journal) :
    (session.run feed sink journal).2.ended =
      ((Whole.plan session.settings feed.bytes feed.fault?).stage,
        (Whole.plan session.settings feed.bytes feed.fault?).result,
        ImageSink.after sink
          ((Whole.plan session.settings feed.bytes feed.fault?).steps.map (·.call))) := by
  rw [(run_fresh fresh feed sink journal).1,
    Plan.carryOut_accepts ((undisturbed_iff fresh).mp undisturbed)]

theorem run_result {session : Session} (fresh : session.stage = .init) {feed : Feed} {sink : σ}
    {journal : Journal} (undisturbed : session.Undisturbed feed sink journal) :
    (session.run feed sink journal).2.result =
      (Whole.plan session.settings feed.bytes feed.fault?).result :=
  congrArg (·.2.1) (run_undisturbed fresh undisturbed)

theorem run_stage {session : Session} (fresh : session.stage = .init) {feed : Feed} {sink : σ}
    {journal : Journal} (undisturbed : session.Undisturbed feed sink journal) :
    (session.run feed sink journal).2.stage =
      (Whole.plan session.settings feed.bytes feed.fault?).stage :=
  congrArg (·.1) (run_undisturbed fresh undisturbed)

theorem run_sink {session : Session} (fresh : session.stage = .init) {feed : Feed} {sink : σ}
    {journal : Journal} (undisturbed : session.Undisturbed feed sink journal) :
    (session.run feed sink journal).2.sink = ImageSink.after sink
      ((Whole.plan session.settings feed.bytes feed.fault?).steps.map (·.call)) :=
  congrArg (·.2.2) (run_undisturbed fresh undisturbed)

theorem run_planned {session : Session} (fresh : session.stage = .init) {feed : Feed} {sink : σ}
    {journal : Journal} {outcome : Outcome}
    (decoded : (session.run feed sink journal).2.result = .ok outcome) :
    (Whole.plan session.settings feed.bytes feed.fault?).result = .ok outcome := by
  have ended := (run_fresh fresh feed sink journal).1
  rw [Run.ended, decoded] at ended
  exact (Plan.carryOut_ok ended.symm).1

theorem run_used {session : Session} (used : session.stage ≠ .init) (feed : Feed) (sink : σ)
    (journal : Journal) :
    session.run feed sink journal = (session, ⟨session.stage,
      .error (.malformed (.sessionUsed session.stage)), feed, sink, journal⟩) := by
  rw [run, if_pos used]

structure Agree (one two : Session) (feed other : Feed) (sink : σ) (journal journal' : Journal) :
    Prop where
  stage : (one.run feed sink journal).1.stage = (two.run other sink journal').1.stage
  failedIn : (one.run feed sink journal).1.failedIn = (two.run other sink journal').1.failedIn
  result : (one.run feed sink journal).2.result = (two.run other sink journal').2.result
  image : (one.run feed sink journal).2.sink = (two.run other sink journal').2.sink
  calls : (one.run feed (Recorder.mk sink []) journal).2.sink.calls =
    (two.run other (Recorder.mk sink []) journal').2.sink.calls

theorem ended_of_plan {one two : Session} (fresh : one.stage = .init) (fresh' : two.stage = .init)
    {feed other : Feed} (plan : Whole.plan one.settings feed.bytes feed.fault? =
      Whole.plan two.settings other.bytes other.fault?) (sink : σ) (journal journal' : Journal) :
    (one.run feed sink journal).2.ended = (two.run other sink journal').2.ended := by
  rw [(run_fresh fresh feed sink journal).1, (run_fresh fresh' other sink journal').1, plan]

theorem agree_of_plan {one two : Session} (fresh : one.stage = .init) (fresh' : two.stage = .init)
    (unfailed : one.failedIn = two.failedIn) {feed other : Feed}
    (plan : Whole.plan one.settings feed.bytes feed.fault? =
      Whole.plan two.settings other.bytes other.fault?) (sink : σ) (journal journal' : Journal) :
    Agree one two feed other sink journal journal' := by
  have ended := ended_of_plan fresh fresh' plan sink journal journal'
  have recorded := ended_of_plan fresh fresh' plan (Recorder.mk sink []) journal journal'
  obtain ⟨stage, rest⟩ := Prod.mk.inj ended
  obtain ⟨result, left⟩ := Prod.mk.inj rest
  obtain ⟨-, rest⟩ := Prod.mk.inj recorded
  obtain ⟨-, behind⟩ := Prod.mk.inj rest
  obtain ⟨after, failedIn⟩ :=
    closed_alike unfailed (two.run other sink journal').2.stage (congrArg _ result)
  refine ⟨?_, ?_, result, left, congrArg Recorder.calls behind⟩
  · rw [(run_fresh fresh feed sink journal).2, (run_fresh fresh' other sink journal').2, stage]
    exact after
  · rw [(run_fresh fresh feed sink journal).2, (run_fresh fresh' other sink journal').2, stage]
    exact failedIn

theorem run_same {one two : Feed} (bytes : one.bytes = two.bytes) (stop : one.fault? = two.fault?)
    (session : Session) (sink : σ) (journal journal' : Journal) :
    (session.run one sink journal).2.ended = (session.run two sink journal').2.ended ∧
      (session.run one sink journal).1 = (session.run two sink journal').1 := by
  by_cases fresh : session.stage = .init
  · obtain ⟨ended, left⟩ := run_fresh fresh one sink journal
    obtain ⟨ended', left'⟩ := run_fresh fresh two sink journal'
    have same : (session.run one sink journal).2.ended =
        (session.run two sink journal').2.ended := by
      rw [ended, ended', bytes, stop]
    refine ⟨same, ?_⟩
    obtain ⟨stage, result, -⟩ := Prod.mk.inj same |>.imp id Prod.mk.inj
    rw [left, left', stage, result]
  · rw [run_used fresh, run_used fresh]
    exact ⟨rfl, rfl⟩

-- Where a stream is cut, with empty pieces and single bytes among the cuts, changes nothing about a
-- run: not its calls to the image, not its result and not what the session is afterwards.
theorem run_uncut (session : Session) {one two : Feed} (bytes : one.bytes = two.bytes)
    (stop : one.fault? = two.fault?) (sink : σ) (journal journal' : Journal) :
    (session.run one sink journal).1 = (session.run two sink journal').1 ∧
      (session.run one sink journal).2.stage = (session.run two sink journal').2.stage ∧
      (session.run one sink journal).2.result = (session.run two sink journal').2.result ∧
      (session.run one sink journal).2.sink = (session.run two sink journal').2.sink ∧
      (session.run one (Recorder.mk sink []) journal).2.sink.calls =
        (session.run two (Recorder.mk sink []) journal').2.sink.calls := by
  obtain ⟨ended, left⟩ := run_same bytes stop session sink journal journal'
  obtain ⟨recorded, -⟩ := run_same bytes stop session (Recorder.mk sink []) journal journal'
  obtain ⟨stage, rest⟩ := Prod.mk.inj ended
  obtain ⟨result, behind⟩ := Prod.mk.inj rest
  have listed := (Prod.mk.inj (Prod.mk.inj recorded).2).2
  exact ⟨left, stage, result, behind, congrArg Recorder.calls listed⟩

-- A size word that arrives whole, and one that arrives in three pieces, one of them empty.
theorem run_uncut_size :
    let session : Session := ⟨{}, .init, none⟩
    let whole : Feed := [.piece [0, 16, 0, 0, 0, 0, 0, 0], .failed .readerCrashed]
    let pieces : Feed := [.piece [0], .piece [], .piece [16, 0, 0, 0, 0, 0, 0],
      .failed .readerCrashed, .piece [1]]
    whole.bytes = pieces.bytes ∧ whole.fault? = pieces.fault? ∧
      (session.run whole (MemoryImage.mk []) .empty).2.result =
        (session.run pieces (MemoryImage.mk []) .empty).2.result := by
  refine ⟨rfl, rfl, (run_uncut _ ?_ ?_ _ _ _).2.2.1⟩
  · rfl
  · rfl

end Session

end PageStream
