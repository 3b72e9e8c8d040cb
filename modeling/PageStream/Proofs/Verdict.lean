import PageStream.Proofs.Indexing
import PageStream.Proofs.LastWrite

namespace PageStream

-- What a report says of the pages of all records, `count` of them being expected.
structure Report.Judges (report : Report) (policy : Policy) (count : Nat) (pages : List Nat) :
    Prop where
  passed : report.passed = true ↔
    (∀ page, page ∈ pages ↔ page < count) ∧ (policy = .strict → pages.Nodup)
  missing : ∀ page, report.firstMissing = some page ↔
    IsLeast {page | page < count ∧ page ∉ pages} page
  complete : report.firstMissing = none ↔ ∀ page < count, page ∈ pages
  outOfRange : ∀ page, report.firstOutOfRange = some page ↔
    IsLeast {page | count ≤ page ∧ page ∈ pages} page
  inRange : report.firstOutOfRange = none ↔ ∀ page ∈ pages, page < count

namespace Report

theorem countedDuplicates_none {policy : Policy} {index : Index} :
    countedDuplicates policy index = 0 ↔ (policy = .strict → index.duplicates = 0) := by
  cases policy <;> simp [countedDuplicates]

theorem ofIndex_judges {index : Index} {pages : List Nat}
    (known : ∀ page, index.contains page = true ↔ page ∈ pages)
    (once : index.duplicates = 0 ↔ pages.Nodup) (declared : DeclaredSize) (policy : Policy) :
    (ofIndex index declared policy).Judges policy declared.pages pages := by
  have lists : ∀ page, index.pages.Lists page ↔ page ∈ pages := by
    intro page
    rw [Ledger.lists_iff, ← known]
    rfl
  have missing := Ledger.firstMissing_finds index.pages declared.pages
  have beyond := Ledger.firstAtOrBeyond_finds index.pages declared.pages
  simp only [lists] at missing beyond
  have complete : index.firstMissing declared.pages = none ↔
      ∀ page < declared.pages, page ∈ pages := by
    refine missing.none_iff.trans ⟨fun nowhere page below => ?_, fun all page => ?_⟩
    · by_contra lacking
      exact nowhere page ⟨below, lacking⟩
    · rintro ⟨below, lacking⟩
      exact lacking (all page below)
  have inRange : index.firstAtOrBeyond declared.pages = none ↔
      ∀ page ∈ pages, page < declared.pages := by
    refine beyond.none_iff.trans ⟨fun nowhere page member => ?_, fun all page => ?_⟩
    · by_contra outside
      exact nowhere page ⟨Nat.le_of_not_lt outside, member⟩
    · rintro ⟨outside, member⟩
      exact Nat.not_le.mpr (all page member) outside
  refine ⟨?_, fun page => missing.some_iff, complete, fun page => beyond.some_iff, inRange⟩
  simp only [ofIndex, Bool.and_eq_true, Option.isNone_iff_eq_none, beq_iff_eq, complete, inRange,
    countedDuplicates_none, once]
  constructor
  · rintro ⟨⟨all, inside⟩, single⟩
    exact ⟨fun page => ⟨inside page, all page⟩, single⟩
  · rintro ⟨exactly, single⟩
    exact ⟨⟨fun page => (exactly page).mpr, fun page => (exactly page).mp⟩, single⟩

end Report

theorem Opened.judged (opened : Opened) (policy : Policy) :
    (opened.outcome policy).report.Judges policy opened.declared.pages
      (opened.records.map (·.header.page)) := by
  refine Report.ofIndex_judges (fun page => ?_) ?_ opened.declared policy
  · rw [Opened.index, Index.contains_enterAll]
    simp only [Index.empty_contains, Bool.false_eq_true, or_false]
  · have once := Index.duplicates_same policy .empty opened.records
    simp only [Index.empty_contains, implies_true, true_and] at once
    exact once

theorem Opened.zeros_passed (kept : Bytes) :
    (Opened.outcome .generationAware
      ⟨none, ⟨pageSize, rfl⟩, kept, Record.join [Record.zeros]⟩).report.passed = true := by
  refine (Opened.judged _ _).passed.mpr ?_
  have page : Record.zeros.header.page = 0 := by decide
  have count : DeclaredSize.pages ⟨pageSize, rfl⟩ = 1 := rfl
  simp only [Opened.records, Record.split_joins, List.map_cons, List.map_nil, page, count,
    List.mem_singleton, Nat.lt_one_iff, implies_true, reduceCtorEq, false_implies, and_self]

theorem Opened.clean_of_objection {opened : Opened} {fault? : Option DeviceFault}
    (good : opened.objection fault? = none) : fault? = none := by
  cases fault? with
  | none => rfl
  | some fault =>
    cases refused : Record.refusal 0 opened.records with
    | none =>
      rw [Opened.objection_read refused] at good
      cases good
    | some failure =>
      rw [Opened.objection_refused refused] at good
      cases good

namespace Record

def lastOf? (records : List Record) (page : Nat) : Option Record :=
  (records.filter (·.header.page = page)).getLast?

theorem page_iff {record : Record} (aligned : record.aligned = true) (page : Nat) :
    record.header.page = page ↔ record.header.offset = page * pageSize := by
  simp only [Record.aligned, beq_iff_eq, PageHeader.page, pageSize] at *
  omega

theorem lastOf?_eq {records : List Record} (aligned : ∀ record ∈ records, record.aligned = true)
    (page : Nat) : lastOf? records page = lastAt? records (page * pageSize) := by
  rw [lastOf?, lastAt?]
  congr 1
  refine List.filter_congr fun record member => ?_
  exact decide_eq_decide.mpr (page_iff (aligned record member) page)

theorem lastOf?_isSome {records : List Record} {page : Nat}
    (member : page ∈ records.map (·.header.page)) :
    ∃ record, lastOf? records page = some record := by
  obtain ⟨record, listed, same⟩ := List.mem_map.mp member
  have filled : records.filter (·.header.page = page) ≠ [] :=
    List.ne_nil_of_mem (List.mem_filter.mpr ⟨listed, by simpa using same⟩)
  exact ⟨_, List.getLast?_eq_some_getLast filled⟩

theorem reach_within {base length : Nat} {records : List Record}
    (within : ∀ record ∈ records, base + record.header.offset + pageSize ≤ length) :
    reach base length records = length := by
  induction records with
  | nil => rfl
  | cons record rest ih =>
    obtain ⟨here, later⟩ := List.forall_mem_cons.mp within
    rw [reach, List.map_cons, List.foldl_cons, Nat.max_eq_left here]
    exact ih later

end Record

-- When the pages are those of the declared size, the image ends with it and no page is filler.
theorem LastWrites.certified {image kept : Bytes} {declared : DeclaredSize} {records : List Record}
    (holds : LastWrites image kept declared records)
    (aligned : ∀ record ∈ records, record.aligned = true)
    (exactly : ∀ page, page ∈ records.map (·.header.page) ↔ page < declared.pages) :
    image.length = kept.length + declared.bytes ∧
      ∀ page < declared.pages, ∃ record, Record.lastOf? records page = some record ∧
        (image.drop (kept.length + page * pageSize)).take pageSize = record.payload := by
  have within : ∀ record ∈ records,
      kept.length + record.header.offset + pageSize ≤ kept.length + declared.bytes := by
    intro record member
    have below := (exactly record.header.page).mp (List.mem_map.mpr ⟨record, member, rfl⟩)
    have place := (Record.page_iff (aligned record member) _).mp rfl
    have fits : (record.header.page + 1) * pageSize ≤ declared.pages * pageSize :=
      Nat.mul_le_mul_right pageSize below
    rw [declared.pages_mul, Nat.succ_mul, ← place] at fits
    omega
  refine ⟨by rw [holds.length, Record.reach_within within], fun page below => ?_⟩
  obtain ⟨record, last⟩ := Record.lastOf?_isSome ((exactly page).mpr below)
  refine ⟨record, last, holds.page _ _ ?_⟩
  rw [← Record.lastOf?_eq aligned, last]

namespace Session

variable {σ : Type} [ImageSink σ]

-- A run that succeeds was a fresh session's, read a stream of the grammar and made all its calls.
theorem run_accepted {session : Session} {feed : Feed} {sink : σ} {journal : Journal}
    {outcome : Outcome} (accepted : (session.run feed sink journal).2.result = .ok outcome) :
    ∃ opened last, Whole.opening session.settings feed.bytes none = .ok opened ∧
      opened.objection none = none ∧ opened.outcome session.settings.policy = outcome ∧
      (last = [] ∨ last = [.flush]) ∧ ImageSink.Accepts sink (opened.calls ++ last) ∧
      (session.run feed sink journal).2.sink = ImageSink.after sink (opened.calls ++ last) := by
  by_cases fresh : session.stage = .init
  · have ended := (run_fresh fresh feed sink journal).1
    rw [Run.ended, accepted] at ended
    obtain ⟨result, accepts, left⟩ := Plan.carryOut_ok ended.symm
    obtain ⟨opened, opens, fits, good, told⟩ := Whole.plan_ok.mp result
    obtain ⟨last, calls, kind⟩ := Whole.plan_calls opens fits
    rw [calls] at accepts left
    rw [Opened.clean_of_objection good] at opens good
    exact ⟨opened, last, opens, good, told, kind, accepts, left⟩
  · rw [run_used fresh] at accepted
    cases accepted

theorem run_verdict {session : Session} {feed : Feed} {sink : σ} {journal : Journal}
    {outcome : Outcome} (accepted : (session.run feed sink journal).2.result = .ok outcome) :
    ∃ header front word records,
      Grammar session.settings feed.bytes header front word outcome.declared records ∧
      outcome.report.Judges session.settings.policy outcome.declared.pages
        (records.map (·.header.page)) ∧
      ∀ view : σ → Bytes, Blank sink view → outcome.report.passed = true →
        (view (session.run feed sink journal).2.sink).length =
            outcome.base + outcome.declared.bytes ∧
          ∀ page < outcome.declared.pages, ∃ record, Record.lastOf? records page = some record ∧
            ((view (session.run feed sink journal).2.sink).drop
              (outcome.base + page * pageSize)).take pageSize = record.payload := by
  obtain ⟨opened, last, opens, good, rfl, kind, accepts, left⟩ := run_accepted accepted
  have grammar := Grammar.of_opening opens good
  have aligned := (Opened.objection_none.mp good).1
  have judged := opened.judged session.settings.policy
  refine ⟨_, _, _, opened.records, grammar, judged, fun view blank passed => ?_⟩
  have holds := blank.last_writes opened kind accepts
  rw [← left, Opened.applied, Record.sound_all aligned] at holds
  exact holds.certified aligned (judged.passed.mp passed).1

-- A stream of one page full of zeros passes, and its image is that page.
theorem run_verdict_zeros :
    let session : Session := ⟨{}, .init, none⟩
    let feed : Feed := [.piece [0, 16, 0, 0, 0, 0, 0, 0], .piece Record.zeros.bytes, .ended]
    ∃ outcome, (session.run feed (MemoryImage.mk []) .empty).2.result = .ok outcome ∧
      outcome.report.passed = true ∧
      (session.run feed (MemoryImage.mk []) .empty).2.sink.bytes.length =
        outcome.base + outcome.declared.bytes := by
  intro session feed
  have fresh : session.stage = .init := rfl
  have clean : feed.fault? = none := rfl
  have bytes : feed.bytes = [0, 16, 0, 0, 0, 0, 0, 0] ++ Record.zeros.bytes := by
    simp [feed, Feed.bytes]
  have zeros : Grammar session.settings feed.bytes none [] [0, 16, 0, 0, 0, 0, 0, 0]
      ⟨pageSize, rfl⟩ [Record.zeros] := by
    rw [bytes]
    exact Grammar.of_zeros
  have undisturbed := memory_undisturbed ⟨[]⟩ session feed .empty
  obtain ⟨kept, -, accepted⟩ := run_grammar fresh clean undisturbed zeros (by decide)
  obtain ⟨_, _, _, _, -, -, certified⟩ := run_verdict accepted
  have passed := Opened.zeros_passed kept
  exact ⟨_, accepted, passed, (certified (·.bytes) Blank.memory passed).1⟩

end Session

end PageStream
