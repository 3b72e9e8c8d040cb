import PageStream.Proofs.Counting
import PageStream.Proofs.Grammar
import PageStream.Proofs.History

namespace PageStream

section

variable {σ : Type} [ImageSink σ]

-- The records whose pages an image takes. A misaligned one is not offered to it, and a fault does not
-- keep the next one from being offered.
def Record.taken (base : Nat) (sink : σ) : List Record → List Record
  | [] => []
  | record :: rest =>
    if record.aligned then
      match ImageSink.perform sink (record.step base).call with
      | (sink, some _) => taken base sink rest
      | (sink, none) => record :: taken base sink rest
    else taken base sink rest

theorem Record.taken_misaligned (base : Nat) (sink : σ) {record : Record}
    (bad : record.aligned = false) (rest : List Record) :
    taken base sink (record :: rest) = taken base sink rest := by
  simp only [taken, bad, Bool.false_eq_true, if_false]

theorem Record.taken_faulted {base : Nat} {sink next : σ} {record : Record} {fault : DeviceFault}
    (good : record.aligned = true)
    (made : ImageSink.perform sink (record.step base).call = (next, some fault))
    (rest : List Record) : taken base sink (record :: rest) = taken base next rest := by
  simp only [taken, good, if_true, made]

theorem Record.taken_next {base : Nat} {sink next : σ} {record : Record}
    (good : record.aligned = true)
    (made : ImageSink.perform sink (record.step base).call = (next, none)) (rest : List Record) :
    taken base sink (record :: rest) = record :: taken base next rest := by
  simp only [taken, good, if_true, made]

theorem Record.taken_aligned {base : Nat} {sink : σ} {records : List Record} {record : Record}
    (member : record ∈ taken base sink records) : record.aligned = true := by
  induction records generalizing sink with
  | nil => cases member
  | cons first rest ih =>
    cases good : first.aligned with
    | false =>
      rw [taken_misaligned base sink good] at member
      exact ih member
    | true =>
      rcases made : ImageSink.perform sink (first.step base).call with ⟨next, _ | fault⟩
      · rw [taken_next good made] at member
        cases member with
        | head => exact good
        | tail _ later => exact ih later
      · rw [taken_faulted good made] at member
        exact ih member

theorem Record.taken_faultless {sink : σ} (sound : ImageSink.Faultless sink) (base : Nat)
    {records : List Record} (aligned : ∀ record ∈ records, record.aligned = true) :
    taken base sink records = records := by
  induction records generalizing sink with
  | nil => rfl
  | cons record rest ih =>
    have good := aligned record List.mem_cons_self
    have tail : ∀ record ∈ rest, record.aligned = true :=
      fun record member => aligned record (List.mem_cons_of_mem _ member)
    rw [taken_next good (sound.performs _), ih (sound.next _) tail]

end

def Index.observations (policy : Policy) (index : Index) :
    List Record → List (PageHeader × Observation)
  | [] => []
  | record :: rest => (record.header, index.observation record.header) ::
      observations policy (index.enter policy record.header) rest

theorem Index.observations_length (policy : Policy) (index : Index) (records : List Record) :
    (index.observations policy records).length = records.length := by
  induction records generalizing index with
  | nil => rfl
  | cons record rest ih => exact congrArg (· + 1) (ih (index.enter policy record.header))

def Observation.written (observation : Observation) : Counts :=
  (Counts.ofTally .pageWritten).add observation.counts

namespace Reconstructor

variable {σ : Type}

-- Two states that differ in the image, the iteration followed and the notices at most.
structure Unmarked (before after : Reconstructor σ) : Prop where
  index : after.index = before.index
  policy : after.policy = before.policy
  base : after.base = before.base
  metrics : after.journal.metrics = before.journal.metrics

theorem enter_unmarked (r : Reconstructor σ) (iteration : Nat) :
    r.Unmarked (r.enter iteration) ∧ (r.enter iteration).sink = r.sink := by
  obtain ⟨bench, policy, base⟩ := r.enter_keeps iteration
  obtain ⟨sink, index⟩ := Bench.mk.inj bench
  exact ⟨⟨index, policy, base, r.enter_metrics iteration⟩, sink⟩

variable [ImageSink σ]

def applies (r : Reconstructor σ) :
    List Record → List (Except Failure (PageHeader × Observation)) × Reconstructor σ
  | [] => ([], r)
  | record :: rest =>
    let (result, r) := r.apply record
    let (results, r) := r.applies rest
    (result :: results, r)

theorem applies_length (r : Reconstructor σ) (records : List Record) :
    (r.applies records).1.length = records.length := by
  induction records generalizing r with
  | nil => rfl
  | cons record rest ih => exact congrArg (· + 1) (ih (r.apply record).2)

theorem apply_misaligned (r : Reconstructor σ) {record : Record} (bad : record.aligned = false) :
    r.apply record = (.error (.malformed (.pageMisaligned record.word)), r) := by
  simp only [apply, Record.decode_header, bad, Bool.false_eq_true, if_false]

theorem apply_faulted {r : Reconstructor σ} {record : Record} {sink : σ} {fault : DeviceFault}
    (good : record.aligned = true)
    (made : ImageSink.perform r.sink (record.step r.base).call = (sink, some fault)) :
    ∃ after, r.apply record = (.error (.write (record.step r.base).place fault), after) ∧
      after.sink = sink ∧ r.Unmarked after := by
  obtain ⟨unmarked, same⟩ := r.enter_unmarked record.header.iteration
  rw [← same, ← unmarked.base] at made
  rw [← unmarked.base, apply, Record.decode_header, good]
  simp only [if_true, applyPage]
  generalize r.enter record.header.iteration = middle at unmarked made ⊢
  change ImageSink.perform middle.sink
    (.write (middle.base + record.header.offset) record.payload) = _ at made
  simp only [made]
  exact ⟨_, rfl, rfl, ⟨unmarked.index, unmarked.policy, unmarked.base, unmarked.metrics⟩⟩

theorem apply_taken {r : Reconstructor σ} {record : Record} {sink : σ}
    (good : record.aligned = true)
    (made : ImageSink.perform r.sink (record.step r.base).call = (sink, none)) :
    ∃ after, r.apply record = (.ok (record.header, r.index.observation record.header), after) ∧
      after.sink = sink ∧ after.index = r.index.enter r.policy record.header ∧
      after.policy = r.policy ∧ after.base = r.base ∧
      r.journal.Adds after.journal (r.index.observation record.header).written := by
  obtain ⟨unmarked, same⟩ := r.enter_unmarked record.header.iteration
  rw [← same, ← unmarked.base] at made
  rw [apply, Record.decode_header, good]
  simp only [if_true, applyPage]
  generalize r.enter record.header.iteration = middle at unmarked made ⊢
  change ImageSink.perform middle.sink
    (.write (middle.base + record.header.offset) record.payload) = _ at made
  have adds := accept_counted { middle with sink } record.header
    (middle.base + record.header.offset)
  simp only [made]
  rw [← unmarked.index, ← unmarked.policy, ← unmarked.base]
  refine ⟨_, rfl, rfl, rfl, rfl, rfl, ?_⟩
  rw [Journal.Adds, ← unmarked.metrics]
  exact adds

def succeeded (records : List Record)
    (results : List (Except Failure (PageHeader × Observation))) : List Record :=
  ((records.zip results).filter (·.2.isOk)).map (·.1)

-- All that a sequence of attempts comes to, told by the records that were taken.
theorem applies_exact (r : Reconstructor σ) (records : List Record) :
    let kept := Record.taken r.base r.sink records
    let learnt := r.index.observations r.policy kept
    succeeded records (r.applies records).1 = kept ∧
      (r.applies records).1.filter (·.isOk) = learnt.map .ok ∧
      (r.applies records).2.index = r.index.enterAll r.policy kept ∧
      r.journal.Adds (r.applies records).2.journal (.total (learnt.map (·.2.written))) := by
  induction records generalizing r with
  | nil => exact ⟨rfl, rfl, rfl, .refl r.journal⟩
  | cons record rest ih =>
    cases good : record.aligned with
    | false =>
      rw [Record.taken_misaligned r.base r.sink good]
      simp only [applies, r.apply_misaligned good]
      exact ih r
    | true =>
      rcases made : ImageSink.perform r.sink (record.step r.base).call with ⟨sink, _ | fault⟩
      · obtain ⟨after, done, rfl, index, policy, base, adds⟩ := apply_taken good made
        have later := ih after
        rw [index, policy, base] at later
        rw [Record.taken_next good made]
        simp only [applies, done]
        obtain ⟨calls, answers, entered, more⟩ := later
        exact ⟨congrArg (record :: ·) calls, congrArg (_ :: ·) answers, entered, adds.trans more⟩
      · obtain ⟨after, stopped, rfl, unmarked⟩ := apply_faulted good made
        have later := ih after
        rw [unmarked.index, unmarked.policy, unmarked.base] at later
        rw [Record.taken_faulted good made]
        simp only [applies, stopped]
        obtain ⟨calls, answers, entered, more⟩ := later
        refine ⟨calls, answers, entered, ?_⟩
        rw [Journal.Adds, ← unmarked.metrics]
        exact more

-- Failed attempts leave no trace: an image without faults that is given the other records alone
-- answers them alike and ends with the same index and the same counters. A page is listed just if it
-- was written, with the iteration that wrote it last.
theorem applies_traceless {τ : Type} [ImageSink τ] (sink : σ) {image : τ}
    (sound : ImageSink.Faultless image) (policy : Policy) (base : Nat) (journal : Journal)
    (records : List Record) :
    let calls := (start sink policy base journal).applies records
    let kept := Record.taken base sink records
    let alone := (start image policy base journal).applies kept
    succeeded records calls.1 = kept ∧
      alone.1 = calls.1.filter (·.isOk) ∧
      alone.2.index = calls.2.index ∧
      alone.2.journal.metrics = calls.2.journal.metrics ∧
      ∀ page, (calls.2.index.contains page = true ↔ ∃ record ∈ kept, record.header.page = page) ∧
        calls.2.index.iterationOf page = (Record.generations kept page).getLast? := by
  intro calls kept alone
  obtain ⟨succeeds, answers, index, adds⟩ := applies_exact (start sink policy base journal) records
  have replay := applies_exact (start image policy base journal) kept
  have all : Record.taken base image kept = kept :=
    Record.taken_faultless sound base fun record member => Record.taken_aligned member
  simp only [start, all] at replay
  obtain ⟨-, answers', index', adds'⟩ := replay
  have every : alone.1.filter (·.isOk) = alone.1 := by
    apply List.filter_sublist.eq_of_length
    have count := congrArg List.length answers'
    simp only [List.length_map, Index.observations_length] at count
    exact count.trans (applies_length _ kept).symm
  refine ⟨succeeds, ?_, index'.trans index.symm, Eq.trans adds' (Eq.symm adds), ?_⟩
  · exact every.symm.trans (answers'.trans answers.symm)
  · intro page
    have listed : calls.2.index = Index.empty.enterAll policy kept := index
    constructor
    · rw [listed, Index.contains_enterAll, Index.empty_contains]
      simp only [List.mem_map, Bool.false_eq_true, or_false]
    · have written := Index.enterAll_pages policy .empty kept page
      rw [Index.iterationOf, listed, written]
      exact Option.or_none

-- A fault at the second write, a misaligned record behind it, and a page that an earlier iteration
-- writes again.
theorem applies_traceless_faulted :
    let later := Record.filled ⟨0, 2, by decide, by decide⟩ 1
    let lost := Record.filled ⟨4096, 2, by decide, by decide⟩ 2
    let crooked := Record.filled ⟨100, 3, by decide, by decide⟩ 3
    let earlier := Record.filled ⟨0, 1, by decide, by decide⟩ 4
    let records := [later, lost, crooked, earlier]
    let sink : FaultyImage := ⟨some 2, false, false, 0⟩
    let calls := (start sink .generationAware 0 .empty).applies records
    let alone := (start (MemoryImage.mk []) .generationAware 0 .empty).applies [later, earlier]
    ImageSink.Faultless (MemoryImage.mk []) ∧ Record.taken 0 sink records = [later, earlier] ∧
      succeeded records calls.1 = [later, earlier] ∧ alone.2.index = calls.2.index ∧
      alone.2.journal.metrics = calls.2.journal.metrics ∧
      calls.2.index.contains 1 = false ∧ calls.2.index.iterationOf 0 = some 1 := by
  intro later lost crooked earlier records sink calls alone
  have sound := ImageSink.memory_faultless ⟨[]⟩
  have first : later.aligned = true := by simp [later, Record.aligned]
  have second : lost.aligned = true := by simp [lost, Record.aligned, pageSize]
  have third : crooked.aligned = false := by simp [crooked, Record.aligned, pageSize]
  have fourth : earlier.aligned = true := by simp [earlier, Record.aligned]
  have kept : Record.taken 0 sink records = [later, earlier] := by
    rw [Record.taken_next first rfl, Record.taken_faulted second rfl,
      Record.taken_misaligned _ _ third, Record.taken_next fourth rfl, Record.taken]
  obtain ⟨succeeds, -, index, metrics, pages⟩ :=
    applies_traceless sink sound .generationAware 0 .empty records
  rw [kept] at succeeds index metrics
  simp only [kept] at pages
  refine ⟨sound, kept, succeeds, index, metrics, ?missing, ?last⟩
  case missing =>
    apply Bool.eq_false_iff.mpr
    intro listed
    obtain ⟨record, member, page⟩ := (pages 1).1.mp listed
    simp only [List.mem_cons, List.not_mem_nil, or_false] at member
    cases member with
    | inl same => simp [same, later, PageHeader.page] at page
    | inr same => simp [same, earlier, PageHeader.page] at page
  case last =>
    apply (pages 0).2.trans
    simp [Record.generations, later, earlier, PageHeader.page, pageSize]

end Reconstructor

end PageStream
