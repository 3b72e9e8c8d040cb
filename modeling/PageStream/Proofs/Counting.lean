import PageStream.Proofs.Streaming

namespace PageStream

-- What is counted, in numbers that never start again.
structure Counts where
  deliveries : Nat := 0
  bytesIn : Nat := 0
  framed : Nat := 0
  written : Nat := 0
  overwrites : Nat := 0
  sameIteration : Nat := 0
  regressions : Nat := 0
  passed : Nat := 0
  failed : Nat := 0
  aborted : Nat := 0
  deriving DecidableEq

namespace Counts

def add (one two : Counts) : Counts where
  deliveries := one.deliveries + two.deliveries
  bytesIn := one.bytesIn + two.bytesIn
  framed := one.framed + two.framed
  written := one.written + two.written
  overwrites := one.overwrites + two.overwrites
  sameIteration := one.sameIteration + two.sameIteration
  regressions := one.regressions + two.regressions
  passed := one.passed + two.passed
  failed := one.failed + two.failed
  aborted := one.aborted + two.aborted

def none : Counts := {}

def pulled (deliveries bytesIn : Nat) : Counts := { deliveries, bytesIn }

def ofTally : Tally → Counts
  | .delivery bytes => pulled 1 bytes
  | .framed records => { framed := records }
  | .pageWritten => { written := 1 }
  | .overwrite => { overwrites := 1 }
  | .sameIteration => { sameIteration := 1 }
  | .regression => { regressions := 1 }
  | .sessionPassed => { passed := 1 }
  | .sessionFailed => { failed := 1 }
  | .sessionAborted => { aborted := 1 }

def total : List Counts → Counts
  | [] => none
  | counts :: rest => counts.add (total rest)

-- What counters of 64 bits show of it.
def wrapped (counts : Counts) : Counts where
  deliveries := counts.deliveries % 2 ^ 64
  bytesIn := counts.bytesIn % 2 ^ 64
  framed := counts.framed % 2 ^ 64
  written := counts.written % 2 ^ 64
  overwrites := counts.overwrites % 2 ^ 64
  sameIteration := counts.sameIteration % 2 ^ 64
  regressions := counts.regressions % 2 ^ 64
  passed := counts.passed % 2 ^ 64
  failed := counts.failed % 2 ^ 64
  aborted := counts.aborted % 2 ^ 64

end Counts

namespace Metrics

def counts (metrics : Metrics) : Counts where
  deliveries := metrics.deliveries.toNat
  bytesIn := metrics.bytesIn.toNat
  framed := metrics.recordsFramed.toNat
  written := metrics.pagesWritten.toNat
  overwrites := metrics.pageOverwrites.toNat
  sameIteration := metrics.sameIterationDuplicates.toNat
  regressions := metrics.regressions.toNat
  passed := metrics.sessionsPassed.toNat
  failed := metrics.sessionsFailed.toNat
  aborted := metrics.sessionsAborted.toNat

def plus (metrics : Metrics) (counts : Counts) : Metrics where
  deliveries := metrics.deliveries + .ofNat counts.deliveries
  bytesIn := metrics.bytesIn + .ofNat counts.bytesIn
  recordsFramed := metrics.recordsFramed + .ofNat counts.framed
  pagesWritten := metrics.pagesWritten + .ofNat counts.written
  pageOverwrites := metrics.pageOverwrites + .ofNat counts.overwrites
  sameIterationDuplicates := metrics.sameIterationDuplicates + .ofNat counts.sameIteration
  regressions := metrics.regressions + .ofNat counts.regressions
  sessionsPassed := metrics.sessionsPassed + .ofNat counts.passed
  sessionsFailed := metrics.sessionsFailed + .ofNat counts.failed
  sessionsAborted := metrics.sessionsAborted + .ofNat counts.aborted

theorem plus_none (metrics : Metrics) : metrics.plus .none = metrics := by
  have nothing : UInt64.ofNat 0 = 0 := rfl
  simp only [plus, Counts.none, nothing, UInt64.add_zero]

theorem plus_plus (metrics : Metrics) (one two : Counts) :
    (metrics.plus one).plus two = metrics.plus (one.add two) := by
  simp only [plus, Counts.add, UInt64.ofNat_add, UInt64.add_assoc]

theorem count_eq (metrics : Metrics) (tally : Tally) :
    metrics.count tally = metrics.plus (.ofTally tally) := by
  have nothing : UInt64.ofNat 0 = 0 := rfl
  have one : UInt64.ofNat 1 = 1 := rfl
  cases tally <;>
    simp only [count, plus, Counts.ofTally, Counts.pulled, nothing, one, UInt64.add_zero]

theorem counts_plus (counts : Counts) : (Metrics.plus {} counts).counts = counts.wrapped := by
  simp only [Metrics.counts, plus, Counts.wrapped, UInt64.zero_add, UInt64.toNat_ofNat']

end Metrics

namespace Journal

-- One account is another with some more counted.
def Adds (before after : Journal) (counts : Counts) : Prop :=
  after.metrics = before.metrics.plus counts

theorem Adds.refl (journal : Journal) : journal.Adds journal .none :=
  journal.metrics.plus_none.symm

theorem Adds.silent {before after : Journal} (same : after.metrics = before.metrics) :
    before.Adds after .none := same.trans before.metrics.plus_none.symm

theorem Adds.trans {before middle after : Journal} {one two : Counts}
    (first : before.Adds middle one) (second : middle.Adds after two) :
    before.Adds after (one.add two) := by
  rw [Adds, second, first, Metrics.plus_plus]

theorem adds_count (journal : Journal) (tally : Tally) :
    journal.Adds (journal.count tally) (.ofTally tally) := journal.metrics.count_eq tally

theorem noteAll_metrics (journal : Journal) (notices : List Notice) :
    (journal.noteAll notices).metrics = journal.metrics := by
  induction notices generalizing journal with
  | nil => rfl
  | cons notice rest ih => exact ih (journal.note notice)

end Journal

def Observation.counts : Observation → Counts
  | .first => .none
  | .overwrite _ => { overwrites := 1 }
  | .sameIteration => { sameIteration := 1 }
  | .regression _ => { overwrites := 1, regressions := 1 }

theorem Observation.adds_tallies (observation : Observation) (journal : Journal) :
    journal.Adds (observation.tallies.foldl Journal.count journal) observation.counts := by
  cases observation with
  | first => exact .refl journal
  | overwrite previous => exact journal.adds_count .overwrite
  | sameIteration => exact journal.adds_count .sameIteration
  | regression previous =>
    exact (journal.adds_count .overwrite).trans (Journal.adds_count _ .regression)

theorem Observation.counts_duplicates (observation : Observation) :
    observation.isDuplicate.toNat =
        observation.counts.overwrites + observation.counts.sameIteration ∧
      observation.counts.regressions ≤ observation.counts.overwrites := by
  cases observation with
  | first => exact ⟨rfl, Nat.le_refl 0⟩
  | overwrite previous => exact ⟨rfl, Nat.zero_le 1⟩
  | sameIteration => exact ⟨rfl, Nat.le_refl 0⟩
  | regression previous => exact ⟨rfl, Nat.le_refl 1⟩

-- An anomaly that is about one iteration: it wrote a page again that it had written last.
def Anomaly.repeated (anomaly : Anomaly) : Bool := anomaly.iteration = anomaly.previous

def Index.repeats (index : Index) : Nat := index.anomalies.countP Anomaly.repeated

-- What is counted besides records and pages while an index grows and so many bytes are pulled.
structure Counts.Grows (counts : Counts) (bytes : Nat) (before after : Index) : Prop where
  bytesIn : counts.bytesIn = bytes
  passed : counts.passed = 0
  failed : counts.failed = 0
  aborted : counts.aborted = 0
  duplicates : after.duplicates = before.duplicates + counts.overwrites + counts.sameIteration
  repeats : after.repeats = before.repeats + counts.sameIteration
  regressions : counts.regressions ≤ counts.overwrites

theorem Counts.Grows.trans {one two : Counts} {bytes more : Nat} {before middle after : Index}
    (first : one.Grows bytes before middle) (second : two.Grows more middle after) :
    (one.add two).Grows (bytes + more) before after := by
  obtain ⟨bytesIn, passed, failed, aborted, duplicates, repeats, regressions⟩ := first
  obtain ⟨bytesIn', passed', failed', aborted', duplicates', repeats', regressions'⟩ := second
  constructor <;> simp only [Counts.add] <;> omega

theorem Counts.Grows.none (index : Index) : Counts.none.Grows 0 index index :=
  ⟨rfl, rfl, rfl, rfl, rfl, rfl, Nat.le_refl 0⟩

theorem Counts.Grows.framed {counts : Counts} {bytes : Nat} {before after : Index}
    (grows : counts.Grows bytes before after) (records : Nat) :
    ((ofTally (.framed records)).add counts).Grows bytes before after := by
  obtain ⟨bytesIn, passed, failed, aborted, duplicates, repeats, regressions⟩ := grows
  constructor <;> simp only [add, ofTally] <;> omega

theorem Counts.Grows.pulled {counts : Counts} {before after : Index}
    (grows : counts.Grows 0 before after) (bytes : Nat) :
    ((ofTally (.delivery bytes)).add counts).Grows bytes before after := by
  obtain ⟨bytesIn, passed, failed, aborted, duplicates, repeats, regressions⟩ := grows
  constructor <;> simp only [add, ofTally, Counts.pulled] <;> omega

-- A failure in the middle of a record, after these calls: the record is misaligned, or its page was
-- written last.
inductive Failure.AtRecord : Failure → List ImageCall → Prop where
  | misaligned (number word : Nat) (calls : List ImageCall) :
      AtRecord (.malformed (.inRecord number (.pageMisaligned word))) calls
  | unwritten {calls : List ImageCall} {offset : Nat} {data : Bytes} (fault : DeviceFault)
      (last : calls.getLast? = some (.write offset data)) : AtRecord (.write offset fault) calls

namespace Index

def observation (index : Index) (header : PageHeader) : Observation :=
  (index.observe header.page header.iteration).1

theorem judge_duplicates (index : Index) (policy : Policy) (page iteration : Nat)
    (observation : Observation) :
    (index.judge policy page iteration observation).duplicates = index.duplicates := by
  rw [judge]
  cases policy.objection iteration observation <;> rfl

-- A policy objects to a rewrite within one iteration, whichever it is, and tells the two iterations.
theorem judge_repeats (index : Index) (policy : Policy) (page : Nat) (previous : Option Nat)
    (iteration : Nat) :
    (index.judge policy page iteration (classify previous iteration)).repeats =
      index.repeats + (classify previous iteration).counts.sameIteration := by
  have noted (anomaly : Anomaly) : (index.noteAnomaly anomaly).repeats =
      index.repeats + if anomaly.iteration = anomaly.previous then 1 else 0 := by
    simp [repeats, Anomaly.repeated, noteAnomaly, List.countP_append, List.countP_singleton]
  cases previous with
  | none => rfl
  | some previous =>
    simp only [classify]
    split
    · rename_i same
      subst same
      cases policy <;> exact (noted _).trans (by rw [if_pos rfl]; rfl)
    · rename_i other
      have apart : ¬ iteration = previous := Ne.symm other
      split
      · cases policy with
        | generationAware => rfl
        | strict => exact (noted _).trans (by rw [if_neg apart]; rfl)
      · cases policy <;> exact (noted _).trans (by rw [if_neg apart]; rfl)

theorem enter_repeats (policy : Policy) (index : Index) (header : PageHeader) :
    (index.enter policy header).repeats =
      index.repeats + (index.observation header).counts.sameIteration :=
  judge_repeats _ policy header.page (index.pages.get? header.page) header.iteration

end Index

namespace Reconstructor

variable {σ : Type}

theorem enter_metrics (r : Reconstructor σ) (iteration : Nat) :
    (r.enter iteration).journal.metrics = r.journal.metrics := by
  unfold enter
  split
  · rfl
  · split <;> rfl

theorem accept_counted (r : Reconstructor σ) (header : PageHeader) (offset : Nat) :
    r.journal.Adds (r.accept header offset).2.journal
      ((Counts.ofTally .pageWritten).add (r.index.observation header).counts) := by
  have counted := (r.journal.adds_count .pageWritten).trans
    ((r.index.observation header).adds_tallies (r.journal.count .pageWritten))
  have metrics : (r.accept header offset).2.journal.metrics =
      ((r.index.observation header).tallies.foldl Journal.count
        (r.journal.count .pageWritten)).metrics := Journal.noteAll_metrics _ _
  exact metrics.trans counted

theorem accept_adds (r : Reconstructor σ) (header : PageHeader) (offset : Nat) :
    ∃ counts, r.journal.Adds (r.accept header offset).2.journal counts ∧
      counts.framed = 0 ∧ counts.written = 1 ∧
      counts.Grows 0 r.index (r.accept header offset).2.index := by
  have adds := r.accept_counted header offset
  have entered : (r.accept header offset).2.index.duplicates =
      r.index.duplicates + (r.index.observation header).isDuplicate.toNat :=
    Index.judge_duplicates _ _ _ _ _
  have repeated : (r.accept header offset).2.index.repeats =
      r.index.repeats + (r.index.observation header).counts.sameIteration :=
    r.index.enter_repeats r.policy header
  generalize r.index.observation header = observation at adds entered repeated
  obtain ⟨duplicates, regressions⟩ := observation.counts_duplicates
  refine ⟨_, adds, ?_, ?_, ?_⟩
  · cases observation <;> rfl
  · cases observation <;> rfl
  · constructor
    case duplicates =>
      rw [entered, duplicates, ← Nat.add_assoc]
      simp only [Counts.add, Counts.ofTally, Nat.zero_add]
    case repeats =>
      rw [repeated]
      simp only [Counts.add, Counts.ofTally, Nat.zero_add]
    case regressions =>
      simp only [Counts.add, Counts.ofTally, Nat.zero_add]
      exact regressions
    all_goals cases observation <;> rfl

variable [ImageSink σ]

-- A record is counted as a page once the image has taken it; otherwise it is what a run is stopped
-- at.
theorem apply_adds (r : Reconstructor (Recorder σ)) (record : Record) :
    match r.apply record with
    | (.error failure, after) => r.journal.Adds after.journal .none ∧ after.index = r.index ∧
        ∀ number, (failure.inRecord number).AtRecord after.sink.calls
    | (.ok _, after) => ∃ counts, r.journal.Adds after.journal counts ∧
        counts.framed = 0 ∧ counts.written = 1 ∧ counts.Grows 0 r.index after.index := by
  rw [apply, Record.decode_header]
  cases good : record.aligned with
  | false => exact ⟨.refl _, rfl, fun number => .misaligned number _ _⟩
  | true =>
    have index := congrArg Bench.index (r.enter_keeps record.header.iteration).1
    have metrics := r.enter_metrics record.header.iteration
    simp only [if_true, applyPage]
    generalize r.enter record.header.iteration = middle at index metrics ⊢
    have recorded : (ImageSink.perform middle.sink
        (.write (middle.base + record.header.offset) record.payload)).1.calls =
      middle.sink.calls ++ [.write (middle.base + record.header.offset) record.payload] := rfl
    rcases made : ImageSink.perform middle.sink
        (.write (middle.base + record.header.offset) record.payload) with ⟨next, _ | fault⟩
    · obtain ⟨counts, adds, framed, pages, grows⟩ := accept_adds { middle with sink := next }
        record.header (middle.base + record.header.offset)
      refine ⟨counts, ?_, framed, pages, ?_⟩
      · rw [Journal.Adds, ← metrics]
        exact adds
      · change middle.index = r.index at index
        rw [← index]
        exact grows
    · rw [made] at recorded
      have last : next.calls.getLast? = some (.write (middle.base + record.header.offset)
          record.payload) := by
        rw [recorded]
        exact List.getLast?_concat
      refine ⟨?_, index, fun number => .unwritten fault last⟩
      rw [Journal.Adds, Metrics.plus_none]
      exact metrics

end Reconstructor

namespace Session

variable {σ : Type} [ImageSink σ]

-- Every record that is pulled becomes a page, or the run is stopped at it.
theorem applyAll_adds (r : Reconstructor (Recorder σ)) (number : Nat) (records : List Record) :
    ∃ counts, r.journal.Adds (applyAll r number records).2.journal counts ∧
      counts.Grows 0 r.index (applyAll r number records).2.index ∧
      match (applyAll r number records).1 with
      | .ok applied => counts.framed = counts.written ∧ applied = number + counts.framed
      | .error failure => counts.framed = counts.written + 1 ∧
          failure.AtRecord (applyAll r number records).2.sink.calls := by
  induction records generalizing r number with
  | nil => exact ⟨.none, .refl _, .none _, rfl, rfl⟩
  | cons record rest ih =>
    have pulled := r.journal.adds_count (.framed 1)
    have one := r.pull.apply_adds record
    rcases ran : r.pull.apply record with ⟨failure | done, next⟩
    · rw [ran] at one
      obtain ⟨adds, index, stopped⟩ := one
      simp only [applyAll, ran]
      refine ⟨_, pulled.trans adds, ?_, rfl, stopped number⟩
      rw [index]
      exact (Counts.Grows.none r.index).framed 1
    · rw [ran] at one
      obtain ⟨counts, adds, framed, written, grows⟩ := one
      obtain ⟨later, more, grows', ended⟩ := ih next (number + 1)
      simp only [applyAll, ran]
      refine ⟨_, (pulled.trans adds).trans more, ?_, ?_⟩
      · exact (grows.framed 1).trans grows'
      · cases result : (applyAll next (number + 1) rest).1 with
        | ok applied =>
          rw [result] at ended
          simp only [Counts.add, Counts.ofTally]
          omega
        | error failure =>
          rw [result] at ended
          refine ⟨?_, ended.2⟩
          simp only [Counts.add, Counts.ofTally]
          omega

theorem absorb_adds {d : Decoder (Recorder σ)} (level : d.Level) (piece : Bytes) :
    ∃ counts, d.reconstructor.journal.Adds (absorb d piece).2.reconstructor.journal counts ∧
      counts.Grows 0 d.reconstructor.index (absorb d piece).2.reconstructor.index ∧
      match (absorb d piece).1 with
      | .ok _ => counts.framed = counts.written ∧
          (absorb d piece).2.applied = d.applied + counts.framed ∧ (absorb d piece).2.Level ∧
          (absorb d piece).2.framer.bytesIn = d.framer.bytesIn + piece.length
      | .error failure => counts.framed = counts.written + 1 ∧
          failure.AtRecord (absorb d piece).2.reconstructor.sink.calls := by
  obtain ⟨counts, adds, grows, ended⟩ :=
    applyAll_adds d.reconstructor d.applied (d.framer.feed piece).drain.1
  have follows := absorb_exact level piece
  rcases applied : applyAll d.reconstructor d.applied (d.framer.feed piece).drain.1
    with ⟨failure | count, r⟩
  · rw [applied] at adds grows ended
    refine ⟨counts, ?_⟩
    simp only [absorb, applied]
    exact ⟨adds, grows, ended⟩
  · have absorbed : absorb d piece = (.ok (), ⟨(d.framer.feed piece).drain.2, r, count⟩) := by
      simp only [absorb, applied]
    rw [applied] at adds grows ended
    rw [absorbed] at follows ⊢
    refine ⟨counts, adds, grows, ended.1, ended.2, ?_⟩
    rcases ran : d.ran piece with ⟨failure | number, bench⟩
    · rw [ran] at follows
      obtain ⟨_, impossible, -⟩ := follows
      cases impossible
    · rw [ran] at follows
      obtain ⟨_, ⟨⟩, -, follows⟩ := follows
      exact ⟨follows.toLevel, follows.bytesIn⟩

-- The pieces of a feed: a failure is one in the middle of a record, or the feed's own.
theorem absorbAll_adds {d : Decoder (Recorder σ)} (level : d.Level) (feed : Feed) :
    ∃ counts bytes,
      d.reconstructor.journal.Adds (absorbAll d feed).2.1.reconstructor.journal counts ∧
      counts.Grows bytes d.reconstructor.index (absorbAll d feed).2.1.reconstructor.index ∧
      match (absorbAll d feed).1 with
      | .ok _ => counts.framed = counts.written ∧
          (absorbAll d feed).2.1.applied = d.applied + counts.framed ∧
          (absorbAll d feed).2.1.Level ∧
          (absorbAll d feed).2.1.framer.bytesIn = d.framer.bytesIn + bytes
      | .error failure =>
          counts.framed = counts.written + 1 ∧
              failure.AtRecord (absorbAll d feed).2.1.reconstructor.sink.calls ∨
            counts.framed = counts.written ∧ ∃ fault, failure = .read fault := by
  induction feed generalizing d with
  | nil => exact ⟨.none, 0, .refl _, .none _, rfl, rfl, level, rfl⟩
  | cons answer rest ih =>
    cases answer with
    | ended => exact ⟨.none, 0, .refl _, .none _, rfl, rfl, level, rfl⟩
    | failed fault => exact ⟨.none, 0, .refl _, .none _, .inr ⟨rfl, fault, rfl⟩⟩
    | piece bytes =>
      have delivered := d.reconstructor.journal.adds_count (.delivery bytes.length)
      have counted : (countDelivery d bytes.length).Level := ⟨level.idle, level.counted⟩
      obtain ⟨counts, adds, grows, ended⟩ := absorb_adds counted bytes
      have pulled : ((Counts.ofTally (.delivery bytes.length)).add counts).Grows bytes.length
          d.reconstructor.index
          (absorb (countDelivery d bytes.length) bytes).2.reconstructor.index := grows.pulled _
      rcases absorbed : absorb (countDelivery d bytes.length) bytes with ⟨failure | done, middle⟩
      · rw [absorbed] at adds ended pulled
        simp only [absorbAll, absorbed]
        refine ⟨_, _, delivered.trans adds, pulled, .inl ⟨?_, ended.2⟩⟩
        simp only [Counts.add, Counts.ofTally, Counts.pulled]
        omega
      · rw [absorbed] at adds ended pulled
        obtain ⟨balanced, applied, level, bytesIn⟩ : counts.framed = counts.written ∧
          middle.applied = d.applied + counts.framed ∧ middle.Level ∧
            middle.framer.bytesIn = d.framer.bytesIn + bytes.length := ended
        obtain ⟨later, more, adds', grows', ended⟩ := ih level
        simp only [absorbAll, absorbed]
        refine ⟨_, _, (delivered.trans adds).trans adds', pulled.trans grows', ?_⟩
        cases result : (absorbAll middle rest).1 with
        | ok done =>
          rw [result] at ended
          obtain ⟨balanced', applied', level, bytesIn'⟩ := ended
          refine ⟨?_, ?_, level, ?_⟩
          · simp only [Counts.add, Counts.ofTally, Counts.pulled]
            omega
          · simp only [Counts.add, Counts.ofTally, Counts.pulled]
            omega
          · omega
        | error failure =>
          rw [result] at ended
          rcases ended with ⟨stuck, stopped⟩ | ⟨balanced', fault⟩
          · refine .inl ⟨?_, stopped⟩
            simp only [Counts.add, Counts.ofTally, Counts.pulled]
            omega
          · refine .inr ⟨?_, fault⟩
            simp only [Counts.add, Counts.ofTally, Counts.pulled]
            omega

end Session

end PageStream
