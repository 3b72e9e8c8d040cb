import PageStream.Proofs.Accounting
import PageStream.Proofs.Rewrites

namespace PageStream

def Rewrite.repeated (rewrite : Rewrite) : Bool := rewrite.iteration = rewrite.previous

-- How many of the records rewrite a page that their own iteration has stored.
def Record.repeats (records : List Record) : Nat := (rewrites [] records).countP Rewrite.repeated

theorem Policy.finding_repeated (policy : Policy) (rewrite : Rewrite) :
    ((policy.finding rewrite).map Anomaly.repeated).getD false = rewrite.repeated := by
  cases policy with
  | strict => rfl
  | generationAware =>
    change (rewrite.lapse.map Anomaly.repeated).getD false = rewrite.repeated
    unfold Rewrite.lapse
    split
    · rfl
    · rename_i other
      have apart : rewrite.repeated = false := decide_eq_false other
      split
      · rfl
      · exact apart.symm

-- The kind names it under the generation-aware policy.
theorem Rewrite.lapse_repeated (rewrite : Rewrite) :
    (rewrite.lapse.map (·.kind == .sameGenerationDuplicate)).getD false = rewrite.repeated := by
  unfold lapse
  split
  · rename_i same
    exact (decide_eq_true same).symm
  · rename_i other
    have apart : rewrite.repeated = false := decide_eq_false other
    split
    · exact apart.symm
    · exact apart.symm

namespace Index

variable (policy : Policy)

theorem enterAll_repeats (records : List Record) :
    (empty.enterAll policy records).repeats = Record.repeats records := by
  unfold repeats Record.repeats
  rw [enterAll_log, List.countP_filterMap]
  apply List.countP_congr
  intro rewrite _
  rw [← policy.finding_repeated rewrite]

theorem observations_repeats (index : Index) (records : List Record) :
    index.repeats +
        (Counts.total ((index.observations policy records).map (·.2.written))).sameIteration =
      (index.enterAll policy records).repeats := by
  induction records generalizing index with
  | nil => rfl
  | cons record rest ih =>
    have entered := index.enter_repeats policy record.header
    have later := ih (index.enter policy record.header)
    have written : (index.observation record.header).written.sameIteration =
        (index.observation record.header).counts.sameIteration := Nat.zero_add _
    rw [entered] at later
    simp only [observations, List.map_cons, Counts.total, Counts.add, written, ← Nat.add_assoc]
    exact later

end Index

structure Report.Repeats (report : Report) (policy : Policy) (number : Nat) : Prop where
  aware : policy = .generationAware → report.sameGenerationDuplicates = number
  strict : policy = .strict → report.sameGenerationDuplicates = 0 ∧
    report.anomalies.countP (fun anomaly => anomaly.kind == .duplicate && anomaly.repeated) = number
  logged : report.anomalies.countP Anomaly.repeated = number

theorem Report.repeats_enterAll (policy : Policy) (records : List Record)
    (declared : DeclaredSize) :
    (ofIndex (Index.empty.enterAll policy records) declared policy).Repeats policy
      (Record.repeats records) := by
  have log := Index.enterAll_log policy records
  have logged := Index.enterAll_repeats policy records
  refine ⟨?aware, ?strict, logged⟩
  case aware =>
    intro aware
    subst aware
    unfold sameGenerationDuplicates ofIndex Record.repeats
    rw [log, List.countP_filterMap]
    apply List.countP_congr
    intro rewrite _
    rw [← rewrite.lapse_repeated]
    rfl
  case strict =>
    intro strict
    subst strict
    have duplicates := (Index.enterAll_logs .strict records).strict rfl
    constructor
    · unfold sameGenerationDuplicates ofIndex
      rw [duplicates, List.countP_map]
      apply List.countP_eq_zero.mpr
      intro rewrite _
      exact Bool.false_ne_true
    · apply Eq.trans _ logged
      unfold ofIndex Index.repeats
      rw [duplicates, List.countP_map, List.countP_map]
      rfl

def Journal.Repeats (before after : Journal) (number : Nat) : Prop :=
  after.metrics.sameIterationDuplicates = before.metrics.sameIterationDuplicates + .ofNat number

theorem Journal.Adds.repeats {before after : Journal} {counts : Counts} {number : Nat}
    (adds : before.Adds after counts) (counted : counts.sameIteration = number) :
    before.Repeats after number := by
  subst counted
  exact congrArg Metrics.sameIterationDuplicates adds

variable {σ : Type} [ImageSink σ]

theorem Reconstructor.applies_repeats (sink : σ) (journal : Journal) (policy : Policy) (base : Nat)
    (records : List Record) :
    let calls := (start sink policy base journal).applies records
    let number := Record.repeats (succeeded records calls.1)
    (∀ declared, (Report.ofIndex calls.2.index declared policy).Repeats policy number) ∧
      journal.Repeats calls.2.journal number := by
  intro calls number
  obtain ⟨kept, -, index, adds⟩ := (start sink policy base journal).applies_exact records
  rw [← kept] at index adds
  have counted := Index.observations_repeats policy .empty (succeeded records calls.1)
  rw [Index.enterAll_repeats] at counted
  refine ⟨?report, adds.repeats ((Nat.zero_add _).symm.trans counted)⟩
  intro declared
  rw [index]
  exact Report.repeats_enterAll policy _ declared

theorem Session.run_repeats {session : Session} {feed : Feed} {sink : σ} {journal : Journal}
    {outcome : Outcome} (accepted : (session.run feed sink journal).2.result = .ok outcome) :
    ∃ header front word records,
      Grammar session.settings feed.bytes header front word outcome.declared records ∧
      outcome.report.Repeats session.settings.policy (Record.repeats records) ∧
      journal.Repeats (session.run feed sink journal).2.journal (Record.repeats records) := by
  obtain ⟨counts, account, repeats⟩ := run_accounts session feed sink journal
  have counted := repeats outcome accepted
  obtain ⟨opened, last, opens, good, rfl, -, -, -⟩ := run_accepted accepted
  refine ⟨_, _, _, opened.records, Grammar.of_opening opens good,
    Report.repeats_enterAll _ _ _, account.adds.repeats ?_⟩
  exact counted.trans (Index.enterAll_repeats _ opened.records)

-- The number is that of the records whose pages the image took, and that of all records of a run
-- that ends well. The counter goes on by it, whatever the policy.
theorem Session.applied_repeats (sink : σ) (journal : Journal) :
    (∀ policy base records,
      let calls := (Reconstructor.start sink policy base journal).applies records
      let number := Record.repeats (Reconstructor.succeeded records calls.1)
      (∀ declared, (Report.ofIndex calls.2.index declared policy).Repeats policy number) ∧
        journal.Repeats calls.2.journal number) ∧
    ∀ (session : Session) (feed : Feed) outcome,
      (session.run feed sink journal).2.result = .ok outcome →
      ∃ header front word records,
        Grammar session.settings feed.bytes header front word outcome.declared records ∧
        outcome.report.Repeats session.settings.policy (Record.repeats records) ∧
        journal.Repeats (session.run feed sink journal).2.journal (Record.repeats records) := by
  refine ⟨?records, ?run⟩
  case records =>
    intro policy base records
    exact Reconstructor.applies_repeats sink journal policy base records
  case run =>
    intro session feed outcome accepted
    exact run_repeats accepted

def Record.twice : List Record :=
  let record := filled ⟨0, 1, by decide, by decide⟩ 1
  [record, record]

theorem Record.twice_aligned : ∀ record ∈ twice, record.aligned = true := by
  simp [twice, aligned]

theorem Record.twice_repeats : repeats twice = 1 := by
  simp [repeats, twice, rewrites, rewriteOf, lastOf?, Rewrite.repeated]

theorem Reconstructor.twice_succeeds (policy : Policy) :
    let calls := (start (MemoryImage.mk []) policy 0 .empty).applies Record.twice
    succeeded Record.twice calls.1 = Record.twice := by
  have exact := (start (MemoryImage.mk []) policy 0 .empty).applies_exact Record.twice
  apply exact.1.trans
  exact Record.taken_faultless (ImageSink.memory_faultless ⟨[]⟩) 0 Record.twice_aligned

-- A run of both policies over it.
theorem Session.applied_repeats_twice :
    let report (policy : Policy) (declared : DeclaredSize) := Report.ofIndex
      ((Reconstructor.start (MemoryImage.mk []) policy 0 .empty).applies Record.twice).2.index
        declared policy
    let session : Session := ⟨{ container := .absent, policy := .strict }, .init, none⟩
    let feed : Feed :=
      [.piece [0, 16, 0, 0, 0], .piece ([0, 0, 0] ++ Record.join Record.twice), .ended]
    (∀ declared, (report .generationAware declared).sameGenerationDuplicates = 1 ∧
      (report .strict declared).sameGenerationDuplicates = 0) ∧
      ∃ outcome, (session.run feed (MemoryImage.mk []) .empty).2.result = .ok outcome ∧
        outcome.report.anomalies.countP Anomaly.repeated = 1 ∧
        (session.run feed (MemoryImage.mk []) .empty).2.journal.metrics.sameIterationDuplicates =
          1 := by
  intro report session feed
  obtain ⟨applied, ran⟩ := applied_repeats (MemoryImage.mk []) .empty
  have reports (policy : Policy) (declared : DeclaredSize) :
      (report policy declared).Repeats policy 1 := by
    have repeats := (applied policy 0 Record.twice).1 declared
    rw [Reconstructor.twice_succeeds, Record.twice_repeats] at repeats
    exact repeats
  refine ⟨?reports, ?run⟩
  case reports =>
    intro declared
    exact ⟨(reports .generationAware declared).aware rfl, ((reports .strict declared).strict rfl).1⟩
  case run =>
    have grammar : Grammar session.settings feed.bytes none [] [0, 16, 0, 0, 0, 0, 0, 0]
        ⟨pageSize, rfl⟩ Record.twice :=
      .of_absent rfl (by simp [feed, Feed.bytes]) rfl (by decide) Record.twice_aligned
    have undisturbed := memory_undisturbed ⟨[]⟩ session feed .empty
    obtain ⟨kept, -, accepted⟩ := run_grammar rfl rfl undisturbed grammar (by decide)
    obtain ⟨_, _, _, records, read, repeats, counter⟩ := ran session feed _ accepted
    cases grammar.same_records read
    rw [Record.twice_repeats] at repeats counter
    exact ⟨_, accepted, repeats.logged, counter⟩

-- Under the strict policy the report does not name the one that the counter tells of.
theorem Session.applied_repeats_unnamed :
    let calls := (Reconstructor.start (MemoryImage.mk []) .strict 0 .empty).applies Record.twice
    Reconstructor.succeeded Record.twice calls.1 = Record.twice ∧
      Record.repeats Record.twice = 1 ∧ calls.2.journal.metrics.sameIterationDuplicates = 1 ∧
      ∀ declared, (Report.ofIndex calls.2.index declared .strict).sameGenerationDuplicates ≠
        Record.repeats Record.twice := by
  intro calls
  obtain ⟨reports, counter⟩ :=
    Reconstructor.applies_repeats (MemoryImage.mk []) .empty .strict 0 Record.twice
  rw [Reconstructor.twice_succeeds, Record.twice_repeats] at reports counter
  rw [Record.twice_repeats]
  refine ⟨Reconstructor.twice_succeeds .strict, rfl, counter, ?_⟩
  intro declared
  have unnamed := ((reports declared).strict rfl).1
  rw [unnamed]
  exact Nat.zero_ne_one

end PageStream
