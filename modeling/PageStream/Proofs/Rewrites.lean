import PageStream.Proofs.Attempts
import PageStream.Proofs.Regressions

namespace PageStream

-- A page that is written again: by which iteration, and which one wrote it last before.
structure Rewrite where
  page : Nat
  iteration : Nat
  previous : Nat
  deriving DecidableEq

-- A record behind earlier ones is a rewrite if one of them has its page; the last of these counts.
def Record.rewriteOf (earlier : List Record) (record : Record) : Option Rewrite :=
  (lastOf? earlier record.header.page).map fun before =>
    ⟨record.header.page, record.header.iteration, before.header.iteration⟩

def Record.rewrites (earlier : List Record) : List Record → List Rewrite
  | [] => []
  | record :: rest => (rewriteOf earlier record).toList ++ rewrites (earlier ++ [record]) rest

namespace Rewrite

-- A rewrite by the same iteration or an earlier one, as an anomaly; there is none in a later one's.
def lapse (rewrite : Rewrite) : Option Anomaly :=
  if rewrite.iteration = rewrite.previous then
    some ⟨rewrite.page, rewrite.iteration, rewrite.previous, .sameGenerationDuplicate⟩
  else if rewrite.iteration < rewrite.previous then
    some ⟨rewrite.page, rewrite.iteration, rewrite.previous, .generationRegression⟩
  else none

def duplicate (rewrite : Rewrite) : Anomaly :=
  ⟨rewrite.page, rewrite.iteration, rewrite.previous, .duplicate⟩

end Rewrite

namespace Policy

def finding : Policy → Rewrite → Option Anomaly
  | .generationAware, rewrite => rewrite.lapse
  | .strict, rewrite => some rewrite.duplicate

theorem noted_again (policy : Policy) (page iteration previous : Nat) :
    policy.noted page (some previous) iteration =
      (policy.finding ⟨page, iteration, previous⟩).toList := by
  cases policy with
  | strict =>
    simp only [noted, Index.classify]
    split
    · rename_i same
      subst same
      rfl
    · split <;> rfl
  | generationAware =>
    simp only [noted, Index.classify, finding, Rewrite.lapse]
    split
    · rename_i same
      subst same
      rw [if_pos rfl]
      rfl
    · rename_i other
      rw [if_neg (Ne.symm other)]
      split
      · rename_i later
        rw [if_neg (Nat.lt_asymm later)]
        rfl
      · rename_i behind
        rw [if_pos (by omega)]
        rfl

end Policy

namespace Index

variable (policy : Policy) (earlier : List Record)

theorem enterAll_next (record : Record) :
    (empty.enterAll policy earlier).enter policy record.header =
      empty.enterAll policy (earlier ++ [record]) := by
  rw [enterAll, enterAll, List.foldl_append]
  rfl

theorem enterAll_known (page : Nat) :
    (empty.enterAll policy earlier).pages.get? page =
      (Record.lastOf? earlier page).map (·.header.iteration) := by
  rw [← Record.generations_getLast]
  exact iterationOf_enterAll earlier policy page

theorem enter_logged (record : Record) :
    (empty.enterAll policy (earlier ++ [record])).anomalies =
        (empty.enterAll policy earlier).anomalies ++
          (Record.rewriteOf earlier record).toList.filterMap policy.finding ∧
      (empty.enterAll policy (earlier ++ [record])).duplicates =
        (empty.enterAll policy earlier).duplicates +
          (Record.rewriteOf earlier record).toList.length := by
  rw [← enterAll_next, enter_exact, contains, enterAll_known]
  unfold Record.rewriteOf
  cases Record.lastOf? earlier record.header.page with
  | none => exact ⟨rfl, rfl⟩
  | some before =>
    refine ⟨?_, rfl⟩
    simp only [Option.map_some, Policy.noted_again, Option.toList_some, List.filterMap_cons,
      List.filterMap_nil]
    cases policy.finding ⟨record.header.page, record.header.iteration, before.header.iteration⟩ <;>
      rfl

theorem enterAll_logged (records : List Record) :
    (empty.enterAll policy (earlier ++ records)).anomalies =
        (empty.enterAll policy earlier).anomalies ++
          (Record.rewrites earlier records).filterMap policy.finding ∧
      (empty.enterAll policy (earlier ++ records)).duplicates =
        (empty.enterAll policy earlier).duplicates + (Record.rewrites earlier records).length := by
  induction records generalizing earlier with
  | nil =>
    rw [List.append_nil]
    exact ⟨(List.append_nil _).symm, rfl⟩
  | cons record rest ih =>
    obtain ⟨anomalies, duplicates⟩ := enter_logged policy earlier record
    obtain ⟨log, counted⟩ := ih (earlier ++ [record])
    rw [List.append_assoc, List.singleton_append] at log counted
    rw [log, counted, anomalies, duplicates, Record.rewrites, List.filterMap_append,
      List.append_assoc, List.length_append, Nat.add_assoc]
    exact ⟨rfl, rfl⟩

theorem enterAll_log (records : List Record) :
    (empty.enterAll policy records).anomalies =
      (Record.rewrites [] records).filterMap policy.finding := by
  apply (enterAll_logged policy [] records).1.trans
  exact List.nil_append _

structure Logs (index : Index) (policy : Policy) (records : List Record) : Prop where
  aware : policy = .generationAware →
    index.anomalies = (Record.rewrites [] records).filterMap Rewrite.lapse
  strict : policy = .strict → index.anomalies = (Record.rewrites [] records).map Rewrite.duplicate
  counted : policy = .strict → index.anomalies.length = index.duplicates
  reported : ∀ declared, (Report.ofIndex index declared policy).anomalies = index.anomalies
  failing : policy = .strict → ∀ declared,
    (Report.ofIndex index declared policy).failingDuplicates = index.anomalies.length

theorem enterAll_logs (records : List Record) :
    (empty.enterAll policy records).Logs policy records := by
  have anomalies := enterAll_log policy records
  have duplicates : (empty.enterAll policy records).duplicates =
      (Record.rewrites [] records).length := by
    apply (enterAll_logged policy [] records).2.trans
    exact Nat.zero_add _
  have strict : policy = .strict → (empty.enterAll policy records).anomalies =
      (Record.rewrites [] records).map Rewrite.duplicate := by
    intro strict
    subst strict
    exact anomalies.trans (congrFun List.filterMap_eq_map _)
  have counted : policy = .strict → (empty.enterAll policy records).anomalies.length =
      (empty.enterAll policy records).duplicates := by
    intro kind
    rw [strict kind, duplicates, List.length_map]
  refine ⟨?aware, strict, counted, fun _ => rfl, ?failing⟩
  case aware =>
    intro aware
    subst aware
    exact anomalies
  case failing =>
    intro strict declared
    have all := counted strict
    subst strict
    exact all.symm

end Index

variable {σ : Type} [ImageSink σ]

-- The log is that of the records whose pages the image took, whatever became of the others, and that
-- of all records of a run that ends well. Its report shows the same log.
theorem Session.applied_logged (sink : σ) (journal : Journal) :
    (∀ policy base records,
      let calls := (Reconstructor.start sink policy base journal).applies records
      calls.2.index.Logs policy (Reconstructor.succeeded records calls.1)) ∧
    ∀ (session : Session) (feed : Feed) outcome,
      (session.run feed sink journal).2.result = .ok outcome →
      ∃ header front word records,
        Grammar session.settings feed.bytes header front word outcome.declared records ∧
        outcome.index.Logs session.settings.policy records ∧
        outcome.report = Report.ofIndex outcome.index outcome.declared session.settings.policy := by
  refine ⟨?records, ?run⟩
  case records =>
    intro policy base records calls
    obtain ⟨kept, -, index, -⟩ :=
      (Reconstructor.start sink policy base journal).applies_exact records
    rw [kept, index]
    exact Index.enterAll_logs policy _
  case run =>
    intro session feed outcome accepted
    obtain ⟨opened, last, opens, good, rfl, -, -, -⟩ := run_accepted accepted
    exact ⟨_, _, _, opened.records, Grammar.of_opening opens good,
      Index.enterAll_logs session.settings.policy opened.records, rfl⟩

-- A page that an earlier iteration writes again, then the same iteration, and then a later one.
theorem Session.applied_logged_thrice :
    let record (iteration : Nat) (fits : iteration < 2 ^ iterationBits) :=
      Record.filled ⟨0, iteration, by decide, fits⟩ 1
    let records := [record 2 (by decide), record 1 (by decide), record 1 (by decide),
      record 3 (by decide)]
    let log (policy : Policy) :=
      ((Reconstructor.start (MemoryImage.mk []) policy 0 .empty).applies records).2.index.anomalies
    let session : Session := ⟨{ container := .absent, policy := .strict }, .init, none⟩
    let feed : Feed :=
      [.piece [0, 16, 0, 0, 0], .piece ([0, 0, 0] ++ Record.join records), .ended]
    log .generationAware =
        [⟨0, 1, 2, .generationRegression⟩, ⟨0, 1, 1, .sameGenerationDuplicate⟩] ∧
      log .strict = [⟨0, 1, 2, .duplicate⟩, ⟨0, 1, 1, .duplicate⟩, ⟨0, 3, 1, .duplicate⟩] ∧
      ∃ outcome, (session.run feed (MemoryImage.mk []) .empty).2.result = .ok outcome ∧
        outcome.report.anomalies =
          [⟨0, 1, 2, .duplicate⟩, ⟨0, 1, 1, .duplicate⟩, ⟨0, 3, 1, .duplicate⟩] := by
  intro record records log session feed
  have sound := ImageSink.memory_faultless ⟨[]⟩
  have aligned : ∀ record ∈ records, record.aligned = true := by
    simp [records, record, Record.aligned]
  have rewrites : Record.rewrites [] records = [⟨0, 1, 2⟩, ⟨0, 1, 1⟩, ⟨0, 3, 1⟩] := by
    simp [records, record, Record.rewrites, Record.rewriteOf, Record.lastOf?, PageHeader.page,
      pageSize]
  have duplicates : (Record.rewrites [] records).map Rewrite.duplicate =
      [⟨0, 1, 2, .duplicate⟩, ⟨0, 1, 1, .duplicate⟩, ⟨0, 3, 1, .duplicate⟩] := by
    rw [rewrites]
    decide
  have logged := applied_logged (MemoryImage.mk []) .empty
  have told (policy : Policy) :
      ((Reconstructor.start (MemoryImage.mk []) policy 0 .empty).applies records).2.index.Logs
        policy records := by
    have exact := (Reconstructor.start (MemoryImage.mk []) policy 0 .empty).applies_exact records
    have kept := exact.1.trans (Record.taken_faultless sound 0 aligned)
    have logs := logged.1 policy 0 records
    dsimp only at logs
    rwa [kept] at logs
  refine ⟨?aware, ?strict, ?run⟩
  case aware =>
    apply ((told .generationAware).aware rfl).trans
    rw [rewrites]
    decide
  case strict =>
    exact ((told .strict).strict rfl).trans duplicates
  case run =>
    have grammar : Grammar session.settings feed.bytes none [] [0, 16, 0, 0, 0, 0, 0, 0]
        ⟨pageSize, rfl⟩ records :=
      .of_absent rfl (by simp [feed, Feed.bytes]) rfl (by decide) aligned
    have undisturbed := undisturbed_of_faultless sound session feed .empty
    obtain ⟨kept, -, accepted⟩ := run_grammar rfl rfl undisturbed grammar (by decide)
    obtain ⟨_, _, _, found, read, logs, report⟩ := logged.2 session feed _ accepted
    cases grammar.same_records read
    refine ⟨_, accepted, ?_⟩
    rw [report, logs.reported]
    exact (logs.strict rfl).trans duplicates

end PageStream
