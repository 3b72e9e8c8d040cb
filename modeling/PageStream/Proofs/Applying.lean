import Mathlib.Data.List.TakeWhile
import PageStream.Proofs.Calls
import PageStream.Proofs.Framing
import PageStream.Session

namespace PageStream

namespace Record

def word (record : Record) : Nat := ofLe record.headerBytes

-- The two fields of the record's word, whether or not they are accepted.
def header (record : Record) : PageHeader := .split record.word

def aligned (record : Record) : Bool := record.header.offset % pageSize == 0

def step (base : Nat) (record : Record) : Step where
  call := .write (base + record.header.offset) record.payload
  stage := .streamingRecords
  place := base + record.header.offset

-- The records before the first misaligned one.
def sound (records : List Record) : List Record := records.takeWhile (·.aligned)

-- The failure of the first misaligned record, if there is one, the records being counted on.
def refusal (number : Nat) : List Record → Option Failure
  | [] => none
  | record :: rest =>
    if record.aligned then refusal (number + 1) rest
    else some (.malformed (.inRecord number (.pageMisaligned record.word)))

theorem payload_length (record : Record) : record.payload.length = pageSize := by
  simp only [payload, List.length_drop, record.length_eq, recordSize]
  omega

theorem headerBytes_length (record : Record) : record.headerBytes.length = pageHeaderLength := by
  simp only [headerBytes, List.length_take, record.length_eq, recordSize]
  omega

theorem decode_header (record : Record) : PageHeader.decode record.headerBytes =
    if record.aligned then .ok record.header
    else .error (.malformed (.pageMisaligned record.word)) := by
  have long := record.headerBytes_length
  have word : wordAt record.headerBytes 0 pageHeaderLength = record.word := by
    rw [wordAt, List.drop_zero, List.take_of_length_le (Nat.le_of_eq long), Record.word]
  simp only [PageHeader.decode, long, Nat.lt_irrefl, if_false, word, PageHeader.ofWord, aligned,
    header, beq_iff_eq]

theorem sound_cons {record : Record} (good : record.aligned = true) (rest : List Record) :
    sound (record :: rest) = record :: sound rest := List.takeWhile_cons_of_pos good

theorem sound_stop {record : Record} (bad : record.aligned = false) (rest : List Record) :
    sound (record :: rest) = [] := List.takeWhile_cons_of_neg (by simp [bad])

theorem aligned_of_sound {records : List Record} {record : Record}
    (member : record ∈ sound records) : record.aligned = true := List.mem_takeWhile_imp member

theorem refusal_none {number : Nat} {records : List Record} :
    refusal number records = none ↔ ∀ record ∈ records, record.aligned = true := by
  induction records generalizing number with
  | nil => simp [refusal]
  | cons record rest ih => cases good : record.aligned <;> simp [refusal, good, ih]

theorem sound_all {records : List Record} (all : ∀ record ∈ records, record.aligned = true) :
    sound records = records := List.takeWhile_eq_self_iff.mpr all

end Record

namespace Index

def enter (policy : Policy) (index : Index) (header : PageHeader) : Index :=
  let (observation, index) := index.observe header.page header.iteration
  index.judge policy header.page header.iteration observation

def enterAll (policy : Policy) (index : Index) (records : List Record) : Index :=
  records.foldl (fun index record => index.enter policy record.header) index

end Index

structure Bench (σ : Type) where
  sink : σ
  index : Index

namespace Bench

variable {σ : Type} [ImageSink σ]

def apply (policy : Policy) (base : Nat) (bench : Bench σ) (record : Record) :
    Except Failure Unit × Bench σ :=
  if record.aligned then
    match ImageSink.perform bench.sink (record.step base).call with
    | (sink, some fault) => (.error (.write (record.step base).place fault), { bench with sink })
    | (sink, none) => (.ok (), ⟨sink, bench.index.enter policy record.header⟩)
  else (.error (.malformed (.pageMisaligned record.word)), bench)

def applyAll (policy : Policy) (base : Nat) (bench : Bench σ) (number : Nat) :
    List Record → Except Failure Nat × Bench σ
  | [] => (.ok number, bench)
  | record :: rest =>
    match bench.apply policy base record with
    | (.error failure, bench) => (.error (failure.inRecord number), bench)
    | (.ok _, bench) => applyAll policy base bench (number + 1) rest

theorem applyAll_append (policy : Policy) (base : Nat) (bench : Bench σ) (number : Nat)
    (first second : List Record) : applyAll policy base bench number (first ++ second) =
      match applyAll policy base bench number first with
      | (.error failure, bench) => (.error failure, bench)
      | (.ok number, bench) => applyAll policy base bench number second := by
  induction first generalizing bench number with
  | nil => rfl
  | cons record rest ih =>
    rw [List.cons_append, applyAll, applyAll]
    split
    · rfl
    · exact ih _ _

theorem apply_done {bench : Bench σ} {policy : Policy} {base : Nat} {record : Record} {sink : σ}
    (good : record.aligned = true)
    (made : ImageSink.perform bench.sink (record.step base).call = (sink, none)) :
    bench.apply policy base record = (.ok (), ⟨sink, bench.index.enter policy record.header⟩) := by
  simp only [apply, good, if_true, made]

theorem apply_stopped {bench : Bench σ} {policy : Policy} {base : Nat} {record : Record} {sink : σ}
    {fault : DeviceFault} (good : record.aligned = true)
    (made : ImageSink.perform bench.sink (record.step base).call = (sink, some fault)) :
    bench.apply policy base record =
      (.error (.write (record.step base).place fault), { bench with sink }) := by
  simp only [apply, good, if_true, made]

theorem apply_refused (policy : Policy) (base : Nat) (bench : Bench σ) {record : Record}
    (bad : record.aligned = false) :
    bench.apply policy base record =
      (.error (.malformed (.pageMisaligned record.word)), bench) := by
  simp only [apply, bad, Bool.false_eq_true, if_false]

-- Applying records is writing the pages of those before the first misaligned one. A write that
-- fails comes before the misaligned record is seen.
theorem applyAll_performs (policy : Policy) (base : Nat) (bench : Bench σ) (number : Nat)
    (records : List Record) :
    match ImageSink.performAll bench.sink ((Record.sound records).map (·.step base)) with
    | (sink, some (step, fault)) =>
      (bench.applyAll policy base number records).1 = .error (.write step.place fault) ∧
        (bench.applyAll policy base number records).2.sink = sink
    | (sink, none) =>
      (bench.applyAll policy base number records).2.sink = sink ∧
        match Record.refusal number records with
        | some failure => (bench.applyAll policy base number records).1 = .error failure
        | none => (bench.applyAll policy base number records).1 = .ok (number + records.length) ∧
          (bench.applyAll policy base number records).2.index =
            bench.index.enterAll policy records := by
  induction records generalizing bench number with
  | nil => exact ⟨rfl, rfl, rfl⟩
  | cons record rest ih =>
    cases good : record.aligned with
    | false =>
      have refused := apply_refused policy base bench good
      simp only [Record.sound_stop good, List.map_nil, ImageSink.performAll, Record.refusal, good,
        applyAll, refused, Failure.inRecord, Bool.false_eq_true, if_false, and_self]
    | true =>
      rw [Record.sound_cons good, List.map_cons]
      rcases made : ImageSink.perform bench.sink (record.step base).call with ⟨sink, _ | fault⟩
      · rw [ImageSink.performAll_done _ made, applyAll, apply_done good made]
        have rest := ih ⟨sink, bench.index.enter policy record.header⟩ (number + 1)
        simp only [Record.refusal, good, if_true, List.length_cons, Index.enterAll, List.foldl_cons,
          Nat.add_comm _ 1, ← Nat.add_assoc] at rest ⊢
        exact rest
      · rw [ImageSink.performAll_stopped _ made, applyAll, apply_stopped good made]
        exact ⟨rfl, rfl⟩

theorem applyAll_ok {bench after : Bench σ} {policy : Policy} {base number count : Nat}
    {records : List Record} (applied : bench.applyAll policy base number records = (.ok count, after)) :
    (∀ record ∈ records, record.aligned = true) ∧
      after.index = bench.index.enterAll policy records ∧
      ImageSink.Accepts bench.sink (records.map fun record => (record.step base).call) ∧
      after.sink =
        ImageSink.after bench.sink (records.map fun record => (record.step base).call) := by
  have performs := applyAll_performs policy base bench number records
  rw [applied] at performs
  rcases performed : ImageSink.performAll bench.sink ((Record.sound records).map (·.step base))
    with ⟨sink, _ | stopped⟩
  · rw [performed] at performs
    obtain ⟨left, ended⟩ := performs
    cases refused : Record.refusal number records with
    | some failure =>
      rw [refused] at ended
      cases ended
    | none =>
      rw [refused] at ended
      have aligned := Record.refusal_none.mp refused
      obtain ⟨accepts, made⟩ := ImageSink.performAll_made performed
      rw [Record.sound_all aligned, List.map_map] at accepts made
      exact ⟨aligned, ended.2, accepts, left.trans made⟩
  · rw [performed] at performs
    cases performs.1

theorem applyAll_faultless {bench : Bench σ} (sound : ImageSink.Faultless bench.sink)
    {records : List Record} (aligned : ∀ record ∈ records, record.aligned = true)
    (policy : Policy) (base number : Nat) :
    (bench.applyAll policy base number records).1 = .ok (number + records.length) := by
  have performs := applyAll_performs policy base bench number records
  rw [(sound.accepts _).performAll, Record.refusal_none.mpr aligned] at performs
  exact performs.2.1

end Bench

namespace Reconstructor

variable {σ : Type} [ImageSink σ]

def bench (r : Reconstructor σ) : Bench σ := ⟨r.sink, r.index⟩

omit [ImageSink σ] in
theorem enter_keeps (r : Reconstructor σ) (iteration : Nat) : (r.enter iteration).bench = r.bench ∧
    (r.enter iteration).policy = r.policy ∧ (r.enter iteration).base = r.base := by
  unfold enter
  split
  · exact ⟨rfl, rfl, rfl⟩
  · split <;> exact ⟨rfl, rfl, rfl⟩

-- The account and the iteration followed decide nothing.
theorem applyPage_bench (r : Reconstructor σ) (record : Record) :
    match ImageSink.perform r.sink (record.step r.base).call with
    | (sink, some fault) => ∃ after, r.applyPage record.header record.payload =
        (.error (.write (record.step r.base).place fault), after) ∧
          after.bench = ⟨sink, r.index⟩ ∧ after.policy = r.policy ∧ after.base = r.base
    | (sink, none) => ∃ observation after, r.applyPage record.header record.payload =
        (.ok observation, after) ∧ after.bench = ⟨sink, r.index.enter r.policy record.header⟩ ∧
          after.policy = r.policy ∧ after.base = r.base := by
  obtain ⟨bench, policy, base⟩ := r.enter_keeps record.header.iteration
  obtain ⟨sink, index⟩ := Bench.mk.inj bench
  simp only [applyPage, Record.step, sink, base]
  rcases made : ImageSink.perform r.sink (.write (r.base + record.header.offset) record.payload)
    with ⟨next, _ | fault⟩
  · exact ⟨_, _, rfl, by simp only [Reconstructor.bench, accept, index, policy, Index.enter],
      policy, rfl⟩
  · exact ⟨_, rfl, by simp only [Reconstructor.bench, index], policy, rfl⟩

theorem apply_bench (r : Reconstructor σ) (record : Record) :
    ((r.apply record).1.map fun _ => ()) = (r.bench.apply r.policy r.base record).1 ∧
      (r.apply record).2.bench = (r.bench.apply r.policy r.base record).2 ∧
      (r.apply record).2.policy = r.policy ∧ (r.apply record).2.base = r.base := by
  rw [apply, Record.decode_header]
  cases good : record.aligned with
  | false =>
    rw [Bench.apply_refused r.policy r.base r.bench good]
    exact ⟨rfl, rfl, rfl, rfl⟩
  | true =>
    have page := r.applyPage_bench record
    rcases made : ImageSink.perform r.sink (record.step r.base).call with ⟨sink, _ | fault⟩
    · rw [made] at page
      obtain ⟨observation, after, done, bench, policy, base⟩ := page
      rw [Bench.apply_done good made]
      simp only [if_true, done]
      exact ⟨rfl, bench, policy, base⟩
    · rw [made] at page
      obtain ⟨after, stopped, bench, policy, base⟩ := page
      rw [Bench.apply_stopped good made]
      simp only [if_true, stopped]
      exact ⟨rfl, bench, policy, base⟩

end Reconstructor

namespace Session

variable {σ : Type} [ImageSink σ]

theorem applyAll_bench (r : Reconstructor σ) (number : Nat) (records : List Record) :
    (applyAll r number records).1 = (r.bench.applyAll r.policy r.base number records).1 ∧
      (applyAll r number records).2.bench =
        (r.bench.applyAll r.policy r.base number records).2 ∧
      (applyAll r number records).2.policy = r.policy ∧
      (applyAll r number records).2.base = r.base := by
  induction records generalizing r number with
  | nil => exact ⟨rfl, rfl, rfl, rfl⟩
  | cons record rest ih =>
    obtain ⟨result, bench, policy, base⟩ := r.pull.apply_bench record
    rcases ran : r.pull.apply record with ⟨failure | done, next⟩
    · rw [ran] at result bench policy base
      rw [applyAll, ran, Bench.applyAll]
      rcases page : r.bench.apply r.policy r.base record with ⟨answer, after⟩
      change Except.error failure = (r.bench.apply r.policy r.base record).1 at result
      change next.bench = (r.bench.apply r.policy r.base record).2 at bench
      rw [page] at result bench
      subst result
      exact ⟨rfl, bench, policy, base⟩
    · rw [ran] at result bench policy base
      rw [applyAll, ran, Bench.applyAll]
      rcases page : r.bench.apply r.policy r.base record with ⟨answer, after⟩
      change Except.ok () = (r.bench.apply r.policy r.base record).1 at result
      change next.bench = (r.bench.apply r.policy r.base record).2 at bench
      change next.policy = r.policy at policy
      change next.base = r.base at base
      rw [page] at result bench
      subst result
      have rest := ih next (number + 1)
      rw [bench, policy, base] at rest
      exact rest

theorem applyAll_ok {r : Reconstructor σ} {number count : Nat} {records : List Record}
    (applied : (applyAll r number records).1 = .ok count) :
    (∀ record ∈ records, record.aligned = true) ∧
      (applyAll r number records).2.index = r.index.enterAll r.policy records ∧
      ImageSink.Accepts r.sink (records.map fun record => (record.step r.base).call) ∧
      (applyAll r number records).2.sink =
        ImageSink.after r.sink (records.map fun record => (record.step r.base).call) := by
  obtain ⟨result, bench, -, -⟩ := applyAll_bench r number records
  rw [applied] at result
  obtain ⟨sink, index⟩ := Bench.mk.inj bench
  obtain ⟨aligned, entered, accepts, written⟩ := Bench.applyAll_ok (Prod.ext result.symm rfl)
  exact ⟨aligned, index.trans entered, accepts, sink.trans written⟩

end Session

end PageStream
