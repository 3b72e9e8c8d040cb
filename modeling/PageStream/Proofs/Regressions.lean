import PageStream.Proofs.History
import PageStream.Proofs.Painting

namespace PageStream

def Anomaly.Regresses (anomalies : List Anomaly) (page : Nat) : Prop :=
  ∃ anomaly ∈ anomalies, anomaly.page = page ∧ anomaly.kind = .generationRegression

namespace Policy

theorem noted_regression {page iteration : Nat} {previous : Option Nat} :
    (∃ anomaly ∈ generationAware.noted page previous iteration,
        anomaly.kind = .generationRegression) ↔
      ∃ before, previous = some before ∧ iteration < before := by
  cases previous with
  | none => simp [noted, Index.classify, objection]
  | some before =>
    unfold noted Index.classify
    by_cases same : before = iteration
    · simp [objection, same]
    · by_cases later : before < iteration
      · simp [objection, same, later]
        omega
      · simp [objection, same, later]
        omega

-- Comparing each iteration with the one before it is enough.
theorem notes_regression {page : Nat} {previous : Option Nat} {iterations : List Nat} :
    (∃ anomaly ∈ generationAware.notes page previous iterations,
        anomaly.kind = .generationRegression) ↔
      ¬ (previous.toList ++ iterations).IsChain (· ≤ ·) := by
  induction iterations generalizing previous with
  | nil => cases previous <;> simp [notes]
  | cons iteration rest ih =>
    have here := @noted_regression page iteration previous
    have later := @ih (some iteration)
    simp only [notes, List.mem_append, or_and_right, exists_or, here, later]
    cases previous with
    | none => simp
    | some before =>
      simp only [Option.some.injEq, exists_eq_left', Option.toList_some, List.singleton_append,
        List.isChain_cons_cons, not_and_or, Nat.not_le]

end Policy

namespace Index

variable (records : List Record)

theorem regresses_iff (page : Nat) :
    Anomaly.Regresses (empty.enterAll .generationAware records).anomalies page ↔
      ¬ (Record.generations records page).Pairwise (· ≤ ·) := by
  have own := empty.enterAll_anomalies .generationAware records page
  have noted := @Policy.notes_regression page none (Record.generations records page)
  change _ = Policy.generationAware.notes page none _ at own
  rw [← own, Option.toList_none, List.nil_append, List.isChain_iff_pairwise] at noted
  rw [← noted]
  simp [Anomaly.Regresses, and_assoc]

theorem iterationOf_enterAll (policy : Policy) (page : Nat) :
    (empty.enterAll policy records).iterationOf page =
      (Record.generations records page).getLast? := by
  unfold iterationOf
  rw [enterAll_pages]
  exact Option.or_none

end Index

namespace Record

def notLater (one two : Record) : Bool := one.header.iteration ≤ two.header.iteration

theorem notLater_iff {one two : Record} :
    notLater one two = true ↔ one.header.iteration ≤ two.header.iteration := decide_eq_true_iff

theorem notLater_trans (one two three : Record) :
    notLater one two = true → notLater two three = true → notLater one three = true := by
  simp only [notLater_iff]
  exact Nat.le_trans

theorem notLater_total (one two : Record) : (notLater one two || notLater two one) = true := by
  simp only [Bool.or_eq_true, notLater_iff]
  exact Nat.le_total _ _

-- The records sorted by their iterations, in order of arrival where these are the same: painted
-- so, the latest iteration wins.
def byGeneration (records : List Record) : List Record := records.mergeSort notLater

variable {records : List Record} {page : Nat}

theorem byGeneration_perm (records : List Record) : (byGeneration records).Perm records :=
  records.mergeSort_perm notLater

theorem byGeneration_ascending (records : List Record) :
    (byGeneration records).Pairwise (·.header.iteration ≤ ·.header.iteration) := by
  apply List.Pairwise.imp notLater_iff.mp
  exact List.pairwise_mergeSort notLater_trans notLater_total records

theorem byGeneration_filter {chosen : Record → Bool}
    (ascending : (records.filter chosen).Pairwise (·.header.iteration ≤ ·.header.iteration)) :
    (byGeneration records).filter chosen = records.filter chosen := by
  have kept : (records.filter chosen).Sublist (byGeneration records) := by
    apply List.sublist_mergeSort notLater_trans notLater_total _ List.filter_sublist
    exact ascending.imp notLater_iff.mpr
  have inside := kept.filter chosen
  rw [List.filter_filter] at inside
  simp only [Bool.and_self] at inside
  exact (inside.eq_of_length ((byGeneration_perm records).filter chosen).length_eq.symm).symm

theorem generations_ascending :
    (generations records page).Pairwise (· ≤ ·) ↔
      (records.filter (·.header.page = page)).Pairwise
        (·.header.iteration ≤ ·.header.iteration) := List.pairwise_map

theorem generations_getLast (records : List Record) (page : Nat) :
    (generations records page).getLast? =
      (lastOf? records page).map (·.header.iteration) := List.getLast?_map

theorem byGeneration_last {record : Record}
    (last : lastOf? (byGeneration records) page = some record) :
    IsGreatest {iteration | iteration ∈ generations records page} record.header.iteration ∧
      lastOf? (records.filter (·.header.iteration = record.header.iteration)) page =
        some record := by
  obtain ⟨before, sorted⟩ := List.getLast?_eq_some_iff.mp last
  have ascending := (byGeneration_ascending records).filter (·.header.page = page)
  rw [sorted, List.pairwise_append] at ascending
  have members : ∀ other, other ∈ records ∧ other.header.page = page ↔
      other ∈ before ++ [record] := by
    intro other
    rw [← sorted, List.mem_filter, (byGeneration_perm records).mem_iff, decide_eq_true_eq]
  refine ⟨⟨?_, ?_⟩, ?_⟩
  · obtain ⟨member, here⟩ := (members record).mpr (by simp)
    exact mem_generations.mpr ⟨record, member, here, rfl⟩
  · rintro iteration listed
    obtain ⟨other, member, here, rfl⟩ := mem_generations.mp listed
    rcases List.mem_append.mp ((members other).mp ⟨member, here⟩) with earlier | final
    · exact ascending.2.2 other earlier record (List.mem_singleton.mpr rfl)
    · rw [List.mem_singleton.mp final]
  · have level : (records.filter fun other =>
        decide (other.header.iteration = record.header.iteration) &&
          decide (other.header.page = page)).Pairwise
            (·.header.iteration ≤ ·.header.iteration) := by
      apply List.pairwise_of_forall_mem_list
      intro one first two second
      simp only [List.mem_filter, Bool.and_eq_true, decide_eq_true_eq] at first second
      omega
    rw [lastOf?, List.filter_comm, List.filter_filter, ← byGeneration_filter level,
      ← List.filter_filter, sorted]
    simp

theorem lastOf_latest (ascending : (generations records page).Pairwise (· ≤ ·)) {record : Record}
    (last : lastOf? records page = some record) :
    IsGreatest {iteration | iteration ∈ generations records page} record.header.iteration ∧
      lastOf? (records.filter (·.header.iteration = record.header.iteration)) page =
        some record := by
  apply byGeneration_last
  rw [lastOf?, byGeneration_filter (generations_ascending.mp ascending)]
  exact last

theorem byGeneration_reordered
    (ascending : ∀ page, (generations records page).Pairwise (· ≤ ·)) :
    Reordered records (byGeneration records) where
  perm := (byGeneration_perm records).symm
  pages := fun page => (byGeneration_filter (generations_ascending.mp (ascending page))).symm

end Record

structure Index.Dates (index : Index) (records : List Record) : Prop where
  regresses : ∀ page, Anomaly.Regresses index.anomalies page ↔
    ¬ (Record.generations records page).Pairwise (· ≤ ·)
  latest : ∀ page ∈ records.map (·.header.page), ¬ Anomaly.Regresses index.anomalies page →
    ∃ iteration, index.iterationOf page = some iteration ∧
      IsGreatest {generation | generation ∈ Record.generations records page} iteration
  behind : ∀ page last, index.iterationOf page = some last →
    ∀ generation ∈ Record.generations records page, last < generation →
      Anomaly.Regresses index.anomalies page

-- What an image shows of records that were applied to it: the last of each page, which is the last
-- of the page's latest iteration unless the index reports the page.
structure Index.Shows (index : Index) (records : List Record) (base : Nat) (before image : Bytes) :
    Prop where
  arrival : image = Record.paint base before records
  highest : (∀ page, ¬ Anomaly.Regresses index.anomalies page) →
    image = Record.paint base before (Record.byGeneration records)
  page : ∀ page iteration, ¬ Anomaly.Regresses index.anomalies page →
    index.iterationOf page = some iteration →
    ∃ record, Record.lastOf? (records.filter (·.header.iteration = iteration)) page = some record ∧
      (image.drop (base + page * pageSize)).take pageSize = record.payload

namespace Index

theorem enterAll_dates (records : List Record) :
    (empty.enterAll .generationAware records).Dates records := by
  have regresses := regresses_iff records
  have iterationOf := iterationOf_enterAll records .generationAware
  refine ⟨regresses, ?latest, ?behind⟩
  case latest =>
    intro page written steady
    obtain ⟨record, last⟩ := Record.lastOf?_isSome written
    rw [regresses, not_not] at steady
    refine ⟨record.header.iteration, ?_, (Record.lastOf_latest steady last).1⟩
    rw [iterationOf, Record.generations_getLast, last, Option.map_some]
  case behind =>
    intro page last known generation written below
    rw [iterationOf, Record.generations_getLast] at known
    obtain ⟨record, ends, rfl⟩ := Option.map_eq_some_iff.mp known
    rw [regresses]
    intro ascending
    exact Nat.not_le.mpr below ((Record.lastOf_latest ascending ends).1.2 written)

theorem enterAll_shows {records : List Record} (aligned : ∀ record ∈ records, record.aligned = true)
    (base : Nat) (before : Bytes) :
    (empty.enterAll .generationAware records).Shows records base before
      (Record.paint base before records) := by
  have regresses := regresses_iff records
  refine ⟨rfl, ?highest, ?page⟩
  case highest =>
    intro steady
    apply (Record.byGeneration_reordered _).paint aligned
    intro page
    exact not_not.mp (mt (regresses page).mpr (steady page))
  case page =>
    intro page iteration steady known
    rw [iterationOf_enterAll, Record.generations_getLast] at known
    obtain ⟨record, last, rfl⟩ := Option.map_eq_some_iff.mp known
    rw [regresses, not_not] at steady
    exact ⟨record, (Record.lastOf_latest steady last).2, Record.paint_page aligned last base before⟩

end Index

namespace Session

variable {σ : Type} [ImageSink σ]

-- The generation-aware policy reports the pages whose iterations do not ascend and no others, both
-- when records are applied to any image and in the report of a run. Without such a page the last
-- record to arrive and the latest iteration come to the same image.
theorem applied_regressions (sink : σ) (journal : Journal) :
    (∀ base records count,
      (applyAll (.start sink .generationAware base journal) 0 records).1 = .ok count →
      (applyAll (.start sink .generationAware base journal) 0 records).2.index.Dates records ∧
        ∀ view, Holding sink view →
          (applyAll (.start sink .generationAware base journal) 0 records).2.index.Shows records base
            (view sink)
            (view (applyAll (.start sink .generationAware base journal) 0 records).2.sink)) ∧
    ∀ (session : Session) (feed : Feed) outcome, session.settings.policy = .generationAware →
      (session.run feed sink journal).2.result = .ok outcome →
      ∃ header front word kept records,
        Grammar session.settings feed.bytes header front word outcome.declared records ∧
        Whole.kept session.settings.layout header = .ok kept ∧
        outcome.report.anomalies = outcome.index.anomalies ∧
        outcome.index.Dates records ∧
        ∀ view, Holding sink view → outcome.index.Shows records outcome.base
          (grow (overwrite (view sink) 0 kept) (outcome.base + outcome.declared.bytes))
          (view (session.run feed sink journal).2.sink) := by
  refine ⟨?records, ?run⟩
  case records =>
    intro base records count applied
    obtain ⟨aligned, index, accepts, left⟩ := applyAll_ok applied
    rw [index, left]
    refine ⟨Index.enterAll_dates records, ?_⟩
    intro view holding
    have pages := holding.pages base accepts
    exact pages ▸ Index.enterAll_shows aligned base (view sink)
  case run =>
    intro session feed outcome aware accepted
    obtain ⟨opened, last, opens, good, rfl, kind, accepts, left⟩ := run_accepted accepted
    have aligned := (Opened.objection_none.mp good).1
    have index : (opened.outcome session.settings.policy).index =
        Index.empty.enterAll .generationAware opened.records := by
      rw [aware]
      rfl
    refine ⟨_, _, _, opened.kept, opened.records, Grammar.of_opening opens good,
      (Whole.opening_ok.mp opens).2.2.1, rfl, ?_, ?_⟩
    · exact index ▸ Index.enterAll_dates opened.records
    · intro view holding
      have image := holding.painted opened kind accepts
      rw [Opened.applied, Record.sound_all aligned] at image
      rw [left, image, index]
      exact Index.enterAll_shows aligned opened.base (opened.announced (view sink))

-- A page of the second iteration, and then the same page of the first.
theorem applied_regressions_late :
    let late := Record.filled ⟨0, 1, by decide, by decide⟩ 1
    let early := Record.filled ⟨0, 0, by decide, by decide⟩ 2
    let session : Session := ⟨{ container := .absent }, .init, none⟩
    let feed : Feed :=
      [.piece [0, 16, 0, 0, 0], .piece ([0, 0, 0] ++ Record.join [late, early]), .ended]
    Anomaly.Regresses (applyAll (.start (MemoryImage.mk []) .generationAware 0 .empty) 0
        [late, early]).2.index.anomalies 0 ∧
      ∃ outcome, (session.run feed (MemoryImage.mk []) .empty).2.result = .ok outcome ∧
        Anomaly.Regresses outcome.report.anomalies 0 := by
  intro late early session feed
  have sound := ImageSink.memory_faultless ⟨[]⟩
  have told := applied_regressions (MemoryImage.mk []) .empty
  have zero : ∀ record ∈ [late, early], record.aligned = true := by
    simp [late, early, Record.aligned]
  have falling : ¬ (Record.generations [late, early] 0).Pairwise (· ≤ ·) := by
    simp [late, early, Record.generations, PageHeader.page, pageSize]
  refine ⟨?records, ?run⟩
  case records =>
    have applied := (applyAll_bench (.start (MemoryImage.mk []) .generationAware 0 .empty) 0
      [late, early]).1.trans (Bench.applyAll_faultless sound zero .generationAware 0 0)
    exact ((told.1 0 [late, early] 2 applied).1.regresses 0).mpr falling
  case run =>
    have grammar : Grammar session.settings feed.bytes none [] [0, 16, 0, 0, 0, 0, 0, 0]
        ⟨pageSize, rfl⟩ [late, early] :=
      .of_absent rfl (by simp [feed, Feed.bytes]) rfl (by decide) zero
    have undisturbed := undisturbed_of_faultless sound session feed .empty
    obtain ⟨kept, -, accepted⟩ := run_grammar rfl rfl undisturbed grammar (by decide)
    obtain ⟨_, _, _, _, records, found, -, reported, dates, -⟩  :=
      told.2 session feed _ rfl accepted
    cases grammar.same_records found
    exact ⟨_, accepted, reported ▸ (dates.regresses 0).mpr falling⟩

end Session

end PageStream
