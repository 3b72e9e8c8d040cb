import PageStream.Proofs.Stages

namespace PageStream

namespace Record

theorem refusal_first {records : List Record} {count : Nat} {record : Record}
    (there : records[count]? = some record) (bad : record.aligned = false)
    (earlier : ∀ record ∈ records.take count, record.aligned = true) (number : Nat) :
    refusal number records =
        some (.malformed (.inRecord (number + count) (.pageMisaligned record.word))) ∧
      sound records = records.take count := by
  induction records generalizing count number with
  | nil => cases there
  | cons first rest ih =>
    cases count with
    | zero =>
      rw [List.getElem?_cons_zero, Option.some.injEq] at there
      rw [there, sound_stop bad, List.take_zero, refusal, bad]
      exact ⟨rfl, rfl⟩
    | succ count =>
      rw [List.getElem?_cons_succ] at there
      rw [List.take_succ_cons] at earlier
      have good := earlier first List.mem_cons_self
      have behind : ∀ record ∈ rest.take count, record.aligned = true :=
        fun record member => earlier record (List.mem_cons_of_mem _ member)
      obtain ⟨refused, taken⟩ := ih there behind (number + 1)
      rw [refusal, if_pos good, refused, sound_cons good, taken, List.take_succ_cons]
      refine ⟨?_, rfl⟩
      rw [Nat.add_assoc, Nat.add_comm 1 count]

-- A page of zeros for offset one.
def skewed : Record where
  bytes := 1 :: List.replicate (recordSize - 1) 0
  length_eq := by rw [List.length_cons, List.length_replicate]; rfl

end Record

theorem Step.sequence_flushes (kept : Bytes) (declared : DeclaredSize) (pages : List Record)
    (flushed : Bool) :
    ((Step.sequence kept declared pages flushed).map (·.call)).count .flush =
      if flushed then 1 else 0 := by
  have front : ((if kept = [] then [] else
      [(⟨.write 0 kept, .readingSizeHeader, 0⟩ : Step)]).map (·.call)).count .flush = 0 := by
    split
    · rfl
    · rfl
  have pages : ((pages.map (·.step kept.length)).map (·.call)).count .flush = 0 := by
    rw [List.count_eq_zero]
    intro flushes
    simp only [List.map_map, List.mem_map, Function.comp_apply, Record.step, reduceCtorEq,
      and_false, exists_false] at flushes
  rw [Step.sequence, List.map_append, List.count_append, front, List.map_cons, List.count_cons,
    List.map_append, List.count_append, pages]
  cases flushed with
  | true => rfl
  | false => rfl

theorem Failure.message_inRecord (number : Nat) (cause : Malformation) :
    (Failure.malformed (.inRecord number cause)).message =
      s!"format error in {cause.phase.name}: " ++ s!"record #{number}: {cause.message}" := rfl

namespace Session

variable {σ : Type} [ImageSink σ]

-- How a run ends that got past the headers, and what its image was asked for, by what the records
-- are and what is left behind them.
structure Decided (kept : Bytes) (declared : DeclaredSize) (records : List Record) (tail : Bytes)
    (run : Run (Recorder σ)) : Prop where
  bad : ∀ number record, records[number]? = some record → record.aligned = false →
    (∀ earlier ∈ records.take number, earlier.aligned = true) →
      ∃ failure, run.result = .error failure ∧
        failure = .malformed (.inRecord number (.pageMisaligned record.word)) ∧
        failure.phase? = some .pageRecords ∧
        failure.message = s!"format error in {Phase.pageRecords.name}: " ++
          s!"record #{number}: {(Malformation.pageMisaligned record.word).message}" ∧
        run.sink.calls =
          (Step.sequence kept declared (records.take number) false).map (·.call)
  cut : (∀ record ∈ records, record.aligned = true) → tail ≠ [] →
    run.result = .error (.truncated tail.length) ∧
      run.sink.calls = (Step.sequence kept declared records false).map (·.call)
  good : (∀ record ∈ records, record.aligned = true) → tail = [] →
    (∃ outcome, run.result = .ok outcome) ∧
      run.sink.calls = (Step.sequence kept declared records true).map (·.call)
  flushes : run.sink.calls.count .flush = if run.result.isOk then 1 else 0

variable {session : Session} {feed : Feed} {sink : σ} {journal : Journal} {opened : Opened}

theorem run_objected (fresh : session.stage = .init)
    (undisturbed : session.Undisturbed feed sink journal)
    (opens : Whole.opening session.settings feed.bytes feed.fault? = .ok opened)
    (fits : opened.Fits) {failure : Failure}
    (objects : opened.objection feed.fault? = some failure) :
    (session.run feed (Recorder.mk sink []) journal).2.result = .error failure ∧
      (session.run feed (Recorder.mk sink []) journal).2.sink.calls =
        (Step.sequence opened.kept opened.declared opened.applied false).map (·.call) := by
  have recorded := undisturbed.recorded fresh
  rw [run_result fresh recorded, run_sink fresh recorded, ImageSink.recorder_after,
    Whole.plan_steps opens fits, objects]
  refine ⟨?_, rfl⟩
  rw [(Whole.plan_ended opens fits).2, Opened.closing_stopped session.settings.policy objects]

theorem run_unobjected (fresh : session.stage = .init)
    (undisturbed : session.Undisturbed feed sink journal)
    (opens : Whole.opening session.settings feed.bytes feed.fault? = .ok opened)
    (fits : opened.Fits) (agrees : opened.objection feed.fault? = none) :
    (session.run feed (Recorder.mk sink []) journal).2.result =
        .ok (opened.outcome session.settings.policy) ∧
      (session.run feed (Recorder.mk sink []) journal).2.sink.calls =
        (Step.sequence opened.kept opened.declared opened.applied true).map (·.call) := by
  have recorded := undisturbed.recorded fresh
  rw [run_result fresh recorded, run_sink fresh recorded, ImageSink.recorder_after,
    Whole.plan_steps opens fits, agrees]
  refine ⟨?_, rfl⟩
  rw [(Whole.plan_ended opens fits).2, Opened.closing_whole session.settings.policy agrees]

theorem run_flushes (fresh : session.stage = .init)
    (undisturbed : session.Undisturbed feed sink journal)
    (opens : Whole.opening session.settings feed.bytes feed.fault? = .ok opened)
    (fits : opened.Fits) :
    (session.run feed (Recorder.mk sink []) journal).2.sink.calls.count .flush =
      if (session.run feed (Recorder.mk sink []) journal).2.result.isOk then 1 else 0 := by
  cases objects : opened.objection feed.fault? with
  | some failure =>
    obtain ⟨result, calls⟩ := run_objected fresh undisturbed opens fits objects
    rw [result, calls, Step.sequence_flushes]
    rfl
  | none =>
    obtain ⟨result, calls⟩ := run_unobjected fresh undisturbed opens fits objects
    rw [result, calls, Step.sequence_flushes]
    rfl

theorem run_opened (fresh : session.stage = .init) (clean : feed.fault? = none)
    (undisturbed : session.Undisturbed feed sink journal)
    (opens : Whole.opening session.settings feed.bytes feed.fault? = .ok opened)
    (fits : opened.Fits) :
    Decided opened.kept opened.declared opened.records opened.tail
      (session.run feed (Recorder.mk sink []) journal).2 := by
  refine ⟨?bad, ?cut, ?good, run_flushes fresh undisturbed opens fits⟩
  case bad =>
    intro number record there bad earlier
    obtain ⟨refused, applied⟩ := Record.refusal_first there bad earlier 0
    rw [Nat.zero_add] at refused
    have objects := Opened.objection_refused refused feed.fault?
    obtain ⟨result, calls⟩ := run_objected fresh undisturbed opens fits objects
    rw [Opened.applied, applied] at calls
    exact ⟨_, result, rfl, rfl, Failure.message_inRecord number _, calls⟩
  case cut =>
    intro aligned behind
    have accepted := Opened.objection_clean (Record.refusal_none.mpr aligned)
    have objects : opened.objection feed.fault? = some (.truncated opened.tail.length) := by
      rw [clean, accepted, if_neg behind]
    obtain ⟨result, calls⟩ := run_objected fresh undisturbed opens fits objects
    rw [Opened.applied, Record.sound_all aligned] at calls
    exact ⟨result, calls⟩
  case good =>
    intro aligned nothing
    have agrees : opened.objection feed.fault? = none := by
      rw [clean]
      exact Opened.objection_none.mpr ⟨aligned, nothing⟩
    obtain ⟨result, calls⟩ := run_unobjected fresh undisturbed opens fits agrees
    rw [Opened.applied, Record.sound_all aligned] at calls
    exact ⟨⟨_, result⟩, calls⟩

-- Behind good headers the first bad record decides, however the stream is cut and goes on, as long
-- as the length to be announced is a word. If it is none, no record is looked at.
theorem run_decided {session : Session} (fresh : session.stage = .init) {feed : Feed}
    (clean : feed.fault? = none) {sink : σ} {journal : Journal}
    (undisturbed : session.Undisturbed feed sink journal)
    {header : Option Container.Header} {front word payload : Bytes} {declared : DeclaredSize}
    (headed : Headed session.settings feed.bytes header front word declared payload) :
    ∃ kept records tail,
      Whole.kept session.settings.layout header = .ok kept ∧
      payload = Record.join records ++ tail ∧
      records.length = payload.length / recordSize ∧ tail.length = payload.length % recordSize ∧
      (session.settings.base front + declared.bytes < 2 ^ 64 →
        Decided kept declared records tail
          (session.run feed (Recorder.mk sink []) journal).2) ∧
      (2 ^ 64 ≤ session.settings.base front + declared.bytes →
        (session.run feed (Recorder.mk sink []) journal).2.result = .error .brokeDown ∧
          (session.run feed (Recorder.mk sink []) journal).2.sink.calls = [.write 0 kept]) := by
  obtain ⟨kept, opens⟩ := headed.opens
  have keeps := (Whole.opening_ok.mp opens).2.2.1
  have base := headed.stands.base_eq keeps
  have size := Record.split_length payload
  have short := Record.split_tail_lt payload
  rw [← clean] at opens
  refine ⟨kept, (Record.split payload).1, (Record.split payload).2, keeps,
    (Record.split_joined payload).symm, Record.split_count payload, ?left, ?room, ?none⟩
  case left => rw [← size, Nat.mul_add_mod, Nat.mod_eq_of_lt short]
  case room =>
    intro room
    rw [← base] at room
    exact run_opened fresh clean undisturbed opens room
  case none =>
    intro overruns
    rw [← base] at overruns
    have ended := run_overruns fresh (undisturbed.recorded fresh) opens (Nat.not_lt.mpr overruns)
    rw [Opened.keeping_kept (Whole.opening_overruns opens (Nat.not_lt.mpr overruns))] at ended
    exact ⟨congrArg (·.2.1) ended, congrArg (·.2.2.calls) ended⟩

-- The second of two records is misaligned, and the last one is incomplete.
theorem run_decided_skewed :
    let session : Session := ⟨{ container := .absent }, .init, none⟩
    let feed : Feed := [.piece [0, 16, 0, 0, 0], .piece ([0, 0, 0] ++ Record.zeros.bytes),
      .piece (Record.skewed.bytes ++ [7]), .ended]
    (session.run feed (Recorder.mk (MemoryImage.mk []) []) .empty).2.result =
        .error (.malformed (.inRecord 1 (.pageMisaligned Record.skewed.word))) ∧
      (session.run feed (Recorder.mk (MemoryImage.mk []) []) .empty).2.sink.calls =
        [.resize pageSize, .write 0 Record.zeros.payload] := by
  intro session feed
  have fresh : session.stage = .init := rfl
  have clean : feed.fault? = none := rfl
  have undisturbed := memory_undisturbed ⟨[]⟩ session feed .empty
  have headed : Headed session.settings feed.bytes none [] [0, 16, 0, 0, 0, 0, 0, 0]
      ⟨pageSize, rfl⟩ (Record.join [Record.zeros, Record.skewed] ++ [7]) := by
    refine ⟨?_, .bare (.inl rfl), rfl, by decide, by intro kept; cases kept⟩
    simp [feed, Feed.bytes]
  obtain ⟨kept, records, tail, keeps, parts, -, left, decides, -⟩ :=
    run_decided fresh clean undisturbed headed
  have decided := decides (by decide)
  cases keeps
  have short : tail.length < recordSize := left ▸ Nat.mod_lt _ (by decide)
  have same := Record.split_join records short
  rw [← parts, Record.split_join _ (by decide)] at same
  obtain ⟨rfl, rfl⟩ := Prod.mk.inj same
  obtain ⟨failure, result, rfl, -, -, calls⟩ :=
    decided.bad 1 Record.skewed rfl (by decide +kernel) (by decide +kernel)
  refine ⟨result, calls.trans ?_⟩
  have place : Record.zeros.header.offset = 0 := by decide +kernel
  simp [Step.sequence, Record.step, place]

-- A stream with good headers and nothing behind them that does not come to a good end.
theorem run_decided_overrun :
    let session : Session := { settings := overrunSettings }
    session.Undisturbed overrunFeed NullImage.mk .empty ∧ overrunFeed.fault? = none ∧
      Headed overrunSettings overrunFeed.bytes (some .brief) Container.Header.brief.encode
        overrunSize.toBytes overrunSize [] ∧
      (session.run overrunFeed (Recorder.mk NullImage.mk []) .empty).2.result =
        .error .brokeDown ∧
      ∀ kept, ¬ Decided kept overrunSize [] []
        (session.run overrunFeed (Recorder.mk NullImage.mk []) .empty).2 := by
  intro session
  have undisturbed := null_undisturbed session overrunFeed .empty
  obtain ⟨-, broken⟩ := overrun_run (undisturbed.recorded (first_fresh overrunSettings))
  refine ⟨undisturbed, rfl, overrun_headed, broken, ?_⟩
  intro kept decided
  have aligned : ∀ record ∈ ([] : List Record), record.aligned = true := by
    intro record member
    cases member
  obtain ⟨outcome, accepted⟩ := (decided.good aligned rfl).1
  rw [broken] at accepted
  cases accepted

end Session

end PageStream
