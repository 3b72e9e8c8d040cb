import Mathlib.Data.List.Perm.Basic
import PageStream.Proofs.Verdict

namespace PageStream

-- Nothing differs but the anomalies.
structure Index.Rejudged (one two : Index) : Prop where
  rest : { one with anomalies := two.anomalies } = two

structure Report.Rejudged (one two : Report) : Prop where
  rest : { one with
    passed := two.passed
    failingDuplicates := two.failingDuplicates
    anomalies := two.anomalies } = two

structure Outcome.Rejudged (strict aware : Outcome) : Prop where
  rest : { strict with index := aware.index, report := aware.report } = aware
  index : strict.index.Rejudged aware.index
  report : strict.report.Rejudged aware.report
  verdict : strict.report.passed = true ↔
    aware.report.passed = true ∧ strict.records = strict.report.expectedPages
  passes : strict.report.passed = true → aware.report.passed = true

namespace Index.Rejudged

variable {one two : Index}

theorem refl (index : Index) : index.Rejudged index := ⟨rfl⟩

theorem enter (rejudged : one.Rejudged two) (policy other : Policy) (header : PageHeader) :
    (one.enter policy header).Rejudged (two.enter other header) := by
  rw [enter_exact, enter_exact, ← rejudged.rest]
  exact ⟨rfl⟩

theorem enterAll (rejudged : one.Rejudged two) (policy other : Policy) (records : List Record) :
    (one.enterAll policy records).Rejudged (two.enterAll other records) := by
  induction records generalizing one two with
  | nil => exact rejudged
  | cons record rest ih => exact ih (rejudged.enter policy other record.header)

theorem ofIndex (rejudged : one.Rejudged two) (declared : DeclaredSize) (policy other : Policy) :
    (Report.ofIndex one declared policy).Rejudged (Report.ofIndex two declared other) := by
  rw [← rejudged.rest]
  exact ⟨rfl⟩

end Index.Rejudged

theorem nodup_iff_length {pages : List Nat} {count : Nat}
    (exactly : ∀ page, page ∈ pages ↔ page < count) : pages.Nodup ↔ pages.length = count := by
  have same (page : Nat) : page ∈ List.range count ↔ page ∈ pages := by
    rw [List.mem_range, exactly]
  constructor
  · intro once
    have perm := (List.perm_ext_iff_of_nodup List.nodup_range once).mpr same
    rw [← perm.length_eq, List.length_range]
  · intro few
    have within := List.subperm_of_subset List.nodup_range fun page => (same page).mp
    have perm := within.perm_of_length_le (by rw [few, List.length_range])
    exact perm.nodup_iff.mp List.nodup_range

theorem Opened.rejudged (opened : Opened) :
    (opened.outcome .strict).Rejudged (opened.outcome .generationAware) := by
  have index : (opened.index .strict).Rejudged (opened.index .generationAware) :=
    (Index.Rejudged.refl .empty).enterAll .strict .generationAware opened.records
  have strict := (opened.judged .strict).passed
  have aware := (opened.judged .generationAware).passed
  have records : (opened.outcome .strict).records =
      (opened.records.map (·.header.page)).length := (List.length_map _).symm
  have expected : (opened.outcome .strict).report.expectedPages = opened.declared.pages := rfl
  simp only [forall_const, reduceCtorEq, false_implies, and_true] at strict aware
  have verdict : (opened.outcome .strict).report.passed = true ↔
      (opened.outcome .generationAware).report.passed = true ∧
        (opened.outcome .strict).records = (opened.outcome .strict).report.expectedPages := by
    rw [strict, aware, records, expected]
    exact and_congr_right nodup_iff_length
  exact ⟨rfl, index, index.ofIndex opened.declared .strict .generationAware, verdict,
    fun passed => (verdict.mp passed).1⟩

inductive Rejudged : Except Failure Outcome → Except Failure Outcome → Prop where
  | failed (failure : Failure) : Rejudged (.error failure) (.error failure)
  | decoded {strict aware : Outcome} (rejudged : strict.Rejudged aware) :
      Rejudged (.ok strict) (.ok aware)

theorem Rejudged.alike {strict aware : Except Failure Outcome} (rejudged : Rejudged strict aware) :
    strict.map (fun _ => ()) = aware.map (fun _ => ()) := by
  cases rejudged <;> rfl

namespace Session

variable {σ : Type} [ImageSink σ]

def judging (session : Session) (policy : Policy) : Session :=
  { session with settings := { session.settings with policy } }

-- The same calls, made in the same stages.
theorem plan_rejudged (session : Session) (bytes : Bytes) (fault? : Option DeviceFault) :
    let strict := Whole.plan (session.judging .strict).settings bytes fault?
    let aware := Whole.plan (session.judging .generationAware).settings bytes fault?
    strict.steps = aware.steps ∧ strict.stage = aware.stage ∧ Rejudged strict.result aware.result := by
  intro strict aware
  rcases opens : Whole.opening (session.judging .strict).settings bytes fault?
    with ⟨stage, failure⟩ | opened
  · have closed : strict = ⟨[], stage, .error failure⟩ := Whole.plan_closed opens
    have closed' : aware = ⟨[], stage, .error failure⟩ := Whole.plan_closed opens
    rw [closed, closed']
    exact ⟨rfl, rfl, .failed failure⟩
  · have opens' : Whole.opening (session.judging .generationAware).settings bytes fault? =
        .ok opened := opens
    by_cases fits : opened.Fits
    · obtain ⟨stage, result⟩ := Whole.plan_ended opens fits
      obtain ⟨stage', result'⟩ := Whole.plan_ended opens' fits
      refine ⟨(Whole.plan_steps opens fits).trans (Whole.plan_steps opens' fits).symm, ?_⟩
      rw [stage, stage', result, result']
      cases objects : opened.objection fault? with
      | some failure =>
        rw [Opened.closing_stopped _ objects, Opened.closing_stopped _ objects]
        exact ⟨rfl, .failed failure⟩
      | none =>
        rw [Opened.closing_whole _ objects, Opened.closing_whole _ objects]
        exact ⟨rfl, .decoded opened.rejudged⟩
    · have broken : strict = ⟨opened.keeping, .readingSizeHeader, .error .brokeDown⟩ :=
        (Whole.plan_opened opens).trans (Opened.decoding_overruns fits _ _)
      have broken' : aware = ⟨opened.keeping, .readingSizeHeader, .error .brokeDown⟩ :=
        (Whole.plan_opened opens').trans (Opened.decoding_overruns fits _ _)
      rw [broken, broken']
      exact ⟨rfl, rfl, .failed _⟩

theorem carryOut_rejudged {strict aware : Plan} (steps : strict.steps = aware.steps)
    (stage : strict.stage = aware.stage) (result : Rejudged strict.result aware.result) (sink : σ) :
    (strict.carryOut sink).1 = (aware.carryOut sink).1 ∧
      Rejudged (strict.carryOut sink).2.1 (aware.carryOut sink).2.1 ∧
      (strict.carryOut sink).2.2 = (aware.carryOut sink).2.2 := by
  unfold Plan.carryOut
  rw [steps]
  rcases ImageSink.performAll sink aware.steps with ⟨next, _ | ⟨step, fault⟩⟩
  · exact ⟨stage, result, rfl⟩
  · exact ⟨rfl, .failed _, rfl⟩

theorem ended_rejudged (session : Session) (feed : Feed) (sink : σ) (journal journal' : Journal) :
    let strict := (session.judging .strict).run feed sink journal
    let aware := (session.judging .generationAware).run feed sink journal'
    strict.1.stage = aware.1.stage ∧ strict.1.failedIn = aware.1.failedIn ∧
      Rejudged strict.2.result aware.2.result ∧ strict.2.sink = aware.2.sink := by
  intro strict aware
  by_cases fresh : session.stage = .init
  · have unused (policy : Policy) : (session.judging policy).stage = .init := fresh
    obtain ⟨steps, place, result⟩ := plan_rejudged session feed.bytes feed.fault?
    have same := carryOut_rejudged steps place result sink
    obtain ⟨ended, closed⟩ := run_fresh (unused .strict) feed sink journal
    obtain ⟨ended', closed'⟩ := run_fresh (unused .generationAware) feed sink journal'
    rw [← ended, ← ended'] at same
    obtain ⟨stage, results, left⟩ := same
    have stage : strict.2.stage = aware.2.stage := stage
    have results : Rejudged strict.2.result aware.2.result := results
    have closed : strict.1 = _ := closed
    have closed' : aware.1 = _ := closed'
    have unfailed :
        (session.judging .strict).failedIn = (session.judging .generationAware).failedIn := rfl
    obtain ⟨after, failedIn⟩ := closed_alike unfailed aware.2.stage results.alike
    rw [closed, closed', stage]
    exact ⟨after, failedIn, results, left⟩
  · have used (policy : Policy) : (session.judging policy).stage ≠ .init := fresh
    have refused : strict = _ := run_used (used .strict) feed sink journal
    have refused' : aware = _ := run_used (used .generationAware) feed sink journal'
    rw [refused, refused']
    exact ⟨rfl, rfl, .failed _, rfl⟩

-- A run calls its image, ends and fails in the same way under both policies; what it tells differs
-- in the judgement only.
theorem run_judging (session : Session) (feed : Feed) (sink : σ) (journal journal' : Journal) :
    let strict := (session.judging .strict).run feed sink journal
    let aware := (session.judging .generationAware).run feed sink journal'
    strict.1.stage = aware.1.stage ∧ strict.1.failedIn = aware.1.failedIn ∧
      Rejudged strict.2.result aware.2.result ∧ strict.2.sink = aware.2.sink ∧
      ((session.judging .strict).run feed (Recorder.mk sink []) journal).2.sink.calls =
        ((session.judging .generationAware).run feed (Recorder.mk sink [])
          journal').2.sink.calls := by
  intro strict aware
  obtain ⟨stage, failedIn, result, left⟩ := ended_rejudged session feed sink journal journal'
  obtain ⟨-, -, -, recorded⟩ :=
    ended_rejudged session feed (Recorder.mk sink []) journal journal'
  exact ⟨stage, failedIn, result, left, congrArg Recorder.calls recorded⟩

-- The same page twice: good enough for one policy and not for the other.
theorem run_judging_twice :
    let session : Session := { settings := { container := .absent } }
    let feed : Feed := [.piece [0, 16, 0, 0, 0, 0, 0, 0], .piece Record.zeros.bytes,
      .piece Record.zeros.bytes, .ended]
    ∃ strict aware,
      ((session.judging .strict).run feed (MemoryImage.mk []) .empty).2.result = .ok strict ∧
        ((session.judging .generationAware).run feed (MemoryImage.mk []) .empty).2.result =
          .ok aware ∧
        aware.report.passed = true ∧ strict.report.passed = false := by
  intro session feed
  have fresh : (session.judging .generationAware).stage = .init := rfl
  have clean : feed.fault? = none := rfl
  have grammar : Grammar (session.judging .generationAware).settings feed.bytes none []
      [0, 16, 0, 0, 0, 0, 0, 0] ⟨pageSize, rfl⟩ [Record.zeros, Record.zeros] := by
    refine ⟨?_, .bare (.inl rfl), rfl, by decide, ?_, by intro kept; cases kept⟩
    · simp [feed, Feed.bytes, Record.join]
    · intro record member
      exact Grammar.of_zeros.aligned record (by simpa using member)
  have undisturbed := memory_undisturbed ⟨[]⟩ (session.judging .generationAware) feed .empty
  obtain ⟨kept, -, accepted⟩ := run_grammar fresh clean undisturbed grammar (by decide)
  obtain ⟨-, -, rejudged, -, -⟩ := run_judging session feed (MemoryImage.mk []) .empty .empty
  rw [accepted] at rejudged
  let opened : Opened := ⟨none, ⟨pageSize, rfl⟩, kept, Record.join [Record.zeros, Record.zeros]⟩
  have records : opened.records = [Record.zeros, Record.zeros] :=
    Opened.records_joined [Record.zeros, Record.zeros]
  have page : Record.zeros.header.page = 0 := by decide
  have count : DeclaredSize.pages ⟨pageSize, rfl⟩ = 1 := rfl
  have passes : (opened.outcome .generationAware).report.passed = true := by
    apply (opened.judged .generationAware).passed.mpr
    rw [records]
    simp [page, opened, count]
  cases strict : ((session.judging .strict).run feed (MemoryImage.mk []) .empty).2.result with
  | error failure =>
    rw [strict] at rejudged
    cases rejudged
  | ok outcome =>
    rw [strict] at rejudged
    cases rejudged with
    | decoded rejudged =>
      refine ⟨outcome, _, rfl, accepted, passes, ?_⟩
      have made : outcome.records = 2 := by
        have same := congrArg Outcome.records rejudged.rest
        exact same.trans (congrArg List.length records)
      have wanted : outcome.report.expectedPages = 1 := by
        have same := congrArg Report.expectedPages rejudged.report.rest
        exact same.trans count
      rw [Bool.eq_false_iff]
      intro passed
      have equal := (rejudged.verdict.mp passed).2
      omega

end Session

end PageStream
