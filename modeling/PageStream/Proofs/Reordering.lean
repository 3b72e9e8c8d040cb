import PageStream.Proofs.History
import PageStream.Proofs.Painting

namespace PageStream

-- Nothing differs but the order of the anomalies.
structure Index.Alike (one two : Index) : Prop where
  rest : { one with anomalies := two.anomalies } = two
  anomalies : one.anomalies.Perm two.anomalies

structure Report.Alike (one two : Report) : Prop where
  rest : { one with anomalies := two.anomalies } = two
  anomalies : one.anomalies.Perm two.anomalies

structure Outcome.Alike (one two : Outcome) : Prop where
  rest : { one with index := two.index, report := two.report } = two
  index : one.index.Alike two.index
  report : one.report.Alike two.report

theorem Index.Alike.of_fields {one two : Index} (pages : one.pages = two.pages)
    (perIteration : one.perIteration = two.perIteration) (records : one.records = two.records)
    (duplicates : one.duplicates = two.duplicates)
    (anomalies : one.anomalies.Perm two.anomalies) : one.Alike two := by
  refine ⟨?_, anomalies⟩
  rw [pages, perIteration, records, duplicates]

theorem Anomaly.perm_of_pages {one two : List Anomaly}
    (pages : ∀ page, one.filter (·.page = page) = two.filter (·.page = page)) : one.Perm two := by
  rw [List.perm_iff_count]
  intro anomaly
  have own (anomalies : List Anomaly) :
      (anomalies.filter (·.page = anomaly.page)).count anomaly = anomalies.count anomaly :=
    List.count_filter (decide_eq_true rfl)
  rw [← own one, ← own two, pages]

theorem Report.ofIndex_alike {one two : Index} (alike : one.Alike two) (declared : DeclaredSize)
    (policy : Policy) : (ofIndex one declared policy).Alike (ofIndex two declared policy) := by
  refine ⟨?_, alike.anomalies⟩
  rw [← alike.rest]
  cases policy <;> rfl

namespace Record.Reordered

variable {one two : List Record}

theorem generations (reordered : Reordered one two) (page : Nat) :
    Record.generations one page = Record.generations two page := by
  unfold Record.generations
  rw [reordered.pages]

theorem aligned (reordered : Reordered one two)
    (aligned : ∀ record ∈ one, record.aligned = true) : ∀ record ∈ two, record.aligned = true :=
  fun record member => aligned record (reordered.perm.mem_iff.mpr member)

theorem joined (reordered : Reordered one two) :
    (Record.join one).length = (Record.join two).length := by
  rw [Record.join_length, Record.join_length, reordered.perm.length_eq]

-- What is said about a page comes from its own records, and the counts from all of them.
theorem enterAll (reordered : Reordered one two) (policy : Policy) (index : Index) :
    (index.enterAll policy one).Alike (index.enterAll policy two) := by
  have pages : (index.enterAll policy one).pages = (index.enterAll policy two).pages := by
    apply Ledger.ext_get?
    intro page
    rw [Index.enterAll_pages, Index.enterAll_pages, reordered.generations]
  have perIteration : (index.enterAll policy one).perIteration =
      (index.enterAll policy two).perIteration := by
    apply Ledger.ext_get?
    intro iteration
    rw [Index.enterAll_perIteration, Index.enterAll_perIteration, reordered.perm.countP_eq]
  have records : (index.enterAll policy one).records = (index.enterAll policy two).records := by
    rw [Index.enterAll_records, Index.enterAll_records, reordered.perm.length_eq]
  have duplicates : (index.enterAll policy one).duplicates =
      (index.enterAll policy two).duplicates := by
    have counted := index.enterAll_counted policy one
    rw [reordered.perm.length_eq, ← index.enterAll_counted policy two, Index.distinctPages,
      Index.distinctPages, pages] at counted
    exact Nat.add_right_cancel counted
  have anomalies : (index.enterAll policy one).anomalies.Perm
      (index.enterAll policy two).anomalies := by
    apply Anomaly.perm_of_pages
    intro page
    rw [Index.enterAll_anomalies, Index.enterAll_anomalies, reordered.generations]
  exact .of_fields pages perIteration records duplicates anomalies

end Record.Reordered

namespace Opened

variable {header : Option Container.Header} {declared : DeclaredSize} {kept : Bytes}

theorem outcome_alike {one two : List Record} (reordered : Record.Reordered one two)
    (policy : Policy) : (Opened.outcome policy ⟨header, declared, kept, Record.join one⟩).Alike
      (Opened.outcome policy ⟨header, declared, kept, Record.join two⟩) := by
  have alike := reordered.enterAll policy .empty
  unfold outcome index
  simp only [records_joined]
  refine ⟨?_, alike, Report.ofIndex_alike alike declared policy⟩
  rw [reordered.perm.length_eq, reordered.joined]
  rfl

end Opened

namespace Session

variable {σ : Type} [ImageSink σ] {session : Session} {feed : Feed} {sink : σ} {journal : Journal}
  {opened : Opened}

theorem run_joined (fresh : session.stage = .init) (clean : feed.fault? = none)
    (undisturbed : session.Undisturbed feed sink journal)
    (opens : Whole.opening session.settings feed.bytes none = .ok opened) (fits : opened.Fits)
    (whole : opened.tail = []) (aligned : ∀ record ∈ opened.records, record.aligned = true) :
    (session.run feed sink journal).2.result = .ok (opened.outcome session.settings.policy) ∧
      ∀ view, Holding sink view → view (session.run feed sink journal).2.sink =
        Record.paint opened.base (opened.announced (view sink)) opened.records := by
  have good := Opened.objection_none.mpr ⟨aligned, whole⟩
  obtain ⟨last, calls, kind⟩ := Whole.plan_calls opens fits
  have accepts := (undisturbed_iff fresh).mp undisturbed
  rw [clean, calls] at accepts
  refine ⟨?_, ?_⟩
  · rw [run_result fresh undisturbed, clean]
    exact Whole.plan_ok.mpr ⟨opened, opens, fits, good, rfl⟩
  · intro view holding
    rw [run_sink fresh undisturbed, clean, calls, holding.painted opened kind accepts,
      Opened.applied, Record.sound_all aligned]

theorem run_misaligned (fresh : session.stage = .init) (clean : feed.fault? = none)
    (undisturbed : session.Undisturbed feed sink journal)
    (opens : Whole.opening session.settings feed.bytes none = .ok opened) (fits : opened.Fits)
    (misaligned : ∃ record ∈ opened.records, record.aligned = false) :
    (session.run feed sink journal).2.stage = .streamingRecords ∧
      ∃ failure, Record.refusal 0 opened.records = some failure ∧
        (session.run feed sink journal).2.result = .error failure := by
  obtain ⟨record, member, bad⟩ := misaligned
  cases refused : Record.refusal 0 opened.records with
  | none =>
    have good := Record.refusal_none.mp refused record member
    rw [bad] at good
    cases good
  | some failure =>
    have stopped := Opened.closing_stopped session.settings.policy
      (Opened.objection_refused refused none)
    rw [run_stage fresh undisturbed, run_result fresh undisturbed, clean,
      (Whole.plan_ended opens fits).1, (Whole.plan_ended opens fits).2, stopped]
    exact ⟨rfl, failure, rfl, rfl⟩

-- Records of different pages may come in any order: nothing of an image or of an outcome shows it
-- but the order in which the anomalies are listed. Where the length is no word, no record is read.
theorem run_reordered {session : Session} (fresh : session.stage = .init) {feed other : Feed}
    (clean : feed.fault? = none) (clean' : other.fault? = none)
    {header : Option Container.Header} {front word : Bytes} {declared : DeclaredSize}
    {one two : List Record}
    (headed : Headed session.settings feed.bytes header front word declared (Record.join one))
    (headed' : Headed session.settings other.bytes header front word declared (Record.join two))
    (reordered : Record.Reordered one two) {sink : σ} {journal journal' : Journal}
    (undisturbed : session.Undisturbed feed sink journal)
    (undisturbed' : session.Undisturbed other sink journal') :
    let run := (session.run feed sink journal).2
    let run' := (session.run other sink journal').2
    (session.settings.base front + declared.bytes < 2 ^ 64 →
      ((∀ record ∈ one, record.aligned = true) →
        (∃ outcome outcome', run.result = .ok outcome ∧ run'.result = .ok outcome' ∧
          outcome.Alike outcome') ∧
        ∀ view, Holding sink view → view run.sink = view run'.sink) ∧
      ((∃ record ∈ one, record.aligned = false) →
        (run.stage = .streamingRecords ∧ run'.stage = .streamingRecords) ∧
          ∃ failure failure', run.result = .error failure ∧ run'.result = .error failure')) ∧
    (2 ^ 64 ≤ session.settings.base front + declared.bytes →
      run.result = .error .brokeDown ∧ run'.result = .error .brokeDown ∧ run.sink = run'.sink) := by
  intro run run'
  obtain ⟨kept, opens⟩ := headed.opens
  obtain ⟨kept', opens'⟩ := headed'.opens
  have keeps := (Whole.opening_ok.mp opens).2.2.1
  have keeps' := (Whole.opening_ok.mp opens').2.2.1
  rw [keeps'] at keeps
  cases keeps
  rw [← headed.stands.base_eq keeps']
  refine ⟨fun fits => ⟨?aligned, ?misaligned⟩, ?none⟩
  case aligned =>
    intro aligned
    have sound_one : ∀ record ∈ Opened.records ⟨header, declared, kept, Record.join one⟩,
        record.aligned = true := by rwa [Opened.records_joined]
    have sound_two : ∀ record ∈ Opened.records ⟨header, declared, kept, Record.join two⟩,
        record.aligned = true := by
      rw [Opened.records_joined]
      exact reordered.aligned aligned
    obtain ⟨result, image⟩ :=
      run_joined fresh clean undisturbed opens fits (Opened.tail_joined one) sound_one
    obtain ⟨result', image'⟩ :=
      run_joined fresh clean' undisturbed' opens' fits (Opened.tail_joined two) sound_two
    refine ⟨⟨_, _, result, result', Opened.outcome_alike reordered _⟩, ?_⟩
    intro view holding
    rw [image view holding, image' view holding, Opened.records_joined, Opened.records_joined]
    exact reordered.paint aligned _ _
  case misaligned =>
    rintro ⟨record, member, bad⟩
    have bad_one : ∃ record ∈ Opened.records ⟨header, declared, kept, Record.join one⟩,
        record.aligned = false := by
      rw [Opened.records_joined]
      exact ⟨record, member, bad⟩
    have bad_two : ∃ record ∈ Opened.records ⟨header, declared, kept, Record.join two⟩,
        record.aligned = false := by
      rw [Opened.records_joined]
      exact ⟨record, reordered.perm.mem_iff.mp member, bad⟩
    obtain ⟨stage, failure, -, result⟩ := run_misaligned fresh clean undisturbed opens fits bad_one
    obtain ⟨stage', failure', -, result'⟩ :=
      run_misaligned fresh clean' undisturbed' opens' fits bad_two
    exact ⟨⟨stage, stage'⟩, failure, failure', result, result'⟩
  case none =>
    intro overruns
    rw [← clean] at opens
    rw [← clean'] at opens'
    have ended := run_overruns fresh undisturbed opens (Nat.not_lt.mpr overruns)
    have ended' := run_overruns fresh undisturbed' opens' (Nat.not_lt.mpr overruns)
    exact ⟨congrArg (·.2.1) ended, congrArg (·.2.1) ended',
      (congrArg (·.2.2) ended).trans (congrArg (·.2.2) ended').symm⟩

-- A page written twice, the second time by a later iteration, and another page around it.
theorem run_reordered_three :
    let first := Record.filled ⟨0, 0, by decide, by decide⟩ 1
    let again := Record.filled ⟨0, 1, by decide, by decide⟩ 2
    let other := Record.filled ⟨pageSize, 0, by decide, by decide⟩ 3
    let session : Session := ⟨{ container := .absent }, .init, none⟩
    let feed (records : List Record) : Feed :=
      [.piece [0, 32, 0, 0, 0], .piece ([0, 0, 0] ++ Record.join records), .ended]
    (session.run (feed [first, again, other]) (MemoryImage.mk []) .empty).2.sink.bytes =
      (session.run (feed [first, other, again]) (MemoryImage.mk []) .empty).2.sink.bytes := by
  intro first again other session feed
  have fresh : session.stage = .init := rfl
  have clean (records : List Record) : (feed records).fault? = none := rfl
  have headed (records : List Record) : Headed session.settings (feed records).bytes none []
      [0, 32, 0, 0, 0, 0, 0, 0] ⟨2 * pageSize, by decide⟩ (Record.join records) := by
    refine ⟨?_, .bare (.inl rfl), rfl, by decide, by intro kept; cases kept⟩
    simp [feed, Feed.bytes]
  have zero : again.header.page = 0 := by simp [again, PageHeader.page]
  have one : other.header.page = 1 := by simp [other, PageHeader.page, pageSize]
  have reordered : Record.Reordered [first, again, other] [first, other, again] := by
    refine ⟨.cons first (.swap other again []), ?_⟩
    intro page
    by_cases here : page = 0
    · subst here
      simp [List.filter_cons, zero, one]
    · simp [List.filter_cons, zero, Ne.symm here]
  have aligned : ∀ record ∈ [first, again, other], record.aligned = true := by
    simp [first, again, other, Record.aligned]
  have undisturbed (records : List Record) := memory_undisturbed ⟨[]⟩ session (feed records) .empty
  have same := ((run_reordered fresh (clean _) (clean _) (headed _) (headed _) reordered
    (undisturbed _) (undisturbed _)).1 (by decide)).1 aligned
  exact same.2 (·.bytes) (Holding.memory ⟨[]⟩)

end Session

end PageStream
