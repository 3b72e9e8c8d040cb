import PageStream.Proofs.Opening

namespace PageStream

structure Plan where
  steps : List Step
  stage : Stage
  result : Except Failure Outcome

namespace Plan

variable {σ : Type} [ImageSink σ]

-- What a run comes to, without what is left of the feed and without the journal.
def carryOut (plan : Plan) (sink : σ) : Stage × Except Failure Outcome × σ :=
  match ImageSink.performAll sink plan.steps with
  | (sink, some (step, fault)) => (step.stage, .error (.write step.place fault), sink)
  | (sink, none) => (plan.stage, plan.result, sink)

def after (steps : List Step) (plan : Plan) : Plan := { plan with steps := steps ++ plan.steps }

theorem carryOut_after {sink next : σ} {steps : List Step} (plan : Plan)
    (done : ImageSink.performAll sink steps = (next, none)) :
    (plan.after steps).carryOut sink = plan.carryOut next := by
  simp only [carryOut, after, ImageSink.performAll_append, done]

theorem carryOut_stopped {sink next : σ} {steps : List Step} {step : Step} {fault : DeviceFault}
    (plan : Plan) (stopped : ImageSink.performAll sink steps = (next, some (step, fault))) :
    (plan.after steps).carryOut sink = (step.stage, .error (.write step.place fault), next) := by
  simp only [carryOut, after, ImageSink.performAll_append, stopped]

end Plan

namespace Container.Header

theorem encodeAligned_length {header : Header} {boundary : Nat} {bytes : Bytes}
    (encoded : header.encodeAligned boundary = .ok bytes) : bytes.length = boundary := by
  unfold encodeAligned at encoded
  split at encoded
  · cases encoded
  · cases encoded
    simp only [encode_length, payloadOffset, List.length_append, List.length_replicate] at *
    omega

end Container.Header

-- What a session knows once it is past the size header.
structure Opened where
  header : Option Container.Header
  declared : DeclaredSize
  -- The container header as the image keeps it; nothing if none is kept.
  kept : Bytes
  payload : Bytes

namespace Whole

-- A kept header is filled up to where the pages start.
def kept (layout : Layout) (header : Option Container.Header) : Except Failure Bytes :=
  match layout, header with
  | .withHeader, some header => header.finalized.encodeAligned alignedLength
  | _, _ => .ok []

def opening (settings : Settings) (bytes : Bytes) (fault? : Option DeviceFault) :
    Except (Stage × Failure) Opened :=
  match Whole.header settings bytes fault? with
  | .error failure => .error (.readingContainerHeader, failure)
  | .ok header =>
    match Whole.size (bytes.drop (frontLength header)) fault? with
    | .error failure => .error (.readingSizeHeader, failure)
    | .ok declared =>
      match kept settings.layout header with
      | .error failure => .error (.readingSizeHeader, failure)
      | .ok kept => .ok
        ⟨header, declared, kept, (bytes.drop (frontLength header)).drop sizeHeaderLength⟩

theorem opening_ok {settings : Settings} {bytes : Bytes} {fault? : Option DeviceFault}
    {opened : Opened} :
    opening settings bytes fault? = .ok opened ↔
      Whole.header settings bytes fault? = .ok opened.header ∧
      size (bytes.drop (frontLength opened.header)) fault? = .ok opened.declared ∧
      kept settings.layout opened.header = .ok opened.kept ∧
      (bytes.drop (frontLength opened.header)).drop sizeHeaderLength = opened.payload := by
  constructor
  · intro opens
    unfold opening at opens
    split at opens
    · cases opens
    · rename_i header found
      split at opens
      · cases opens
      · rename_i declared sized
        split at opens
        · cases opens
        · rename_i kept keeps
          cases opens
          exact ⟨found, sized, keeps, rfl⟩
  · rintro ⟨found, sized, keeps, behind⟩
    simp only [opening, found, sized, keeps, behind]

end Whole

namespace Opened

def base (opened : Opened) : Nat := opened.kept.length

def records (opened : Opened) : List Record := (Record.split opened.payload).1

def tail (opened : Opened) : Bytes := (Record.split opened.payload).2

theorem records_joined {header : Option Container.Header} {declared : DeclaredSize} {kept : Bytes}
    (records : List Record) :
    Opened.records ⟨header, declared, kept, Record.join records⟩ = records :=
  congrArg (·.1) (Record.split_joins records)

theorem tail_joined {header : Option Container.Header} {declared : DeclaredSize} {kept : Bytes}
    (records : List Record) : Opened.tail ⟨header, declared, kept, Record.join records⟩ = [] :=
  congrArg (·.2) (Record.split_joins records)

-- The length to be announced is a word.
def Fits (opened : Opened) : Prop := opened.base + opened.declared.bytes < 2 ^ 64

instance (opened : Opened) : Decidable opened.Fits := inferInstanceAs (Decidable (_ < _))

-- The kept header, which is written before the length is summed up.
def keeping (opened : Opened) : List Step :=
  if opened.kept = [] then [] else [⟨.write 0 opened.kept, .readingSizeHeader, 0⟩]

def announcing (opened : Opened) : List Step :=
  opened.keeping ++ [⟨.resize (opened.base + opened.declared.bytes), .readingSizeHeader,
    opened.base + opened.declared.bytes⟩]

theorem keeping_bare {opened : Opened} (bare : opened.kept = []) : opened.keeping = [] :=
  if_pos bare

theorem keeping_kept {opened : Opened} (aligned : opened.kept.length = alignedLength) :
    opened.keeping = [⟨.write 0 opened.kept, .readingSizeHeader, 0⟩] := by
  refine if_neg fun bare => ?_
  rw [bare] at aligned
  cases aligned

theorem announcing_bare {opened : Opened} (bare : opened.kept = []) :
    opened.announcing =
      [⟨.resize (0 + opened.declared.bytes), .readingSizeHeader, 0 + opened.declared.bytes⟩] := by
  simp only [announcing, keeping_bare bare, base, bare, List.nil_append, List.length_nil]

theorem announcing_kept {opened : Opened} (aligned : opened.kept.length = alignedLength) :
    opened.announcing = [⟨.write 0 opened.kept, .readingSizeHeader, 0⟩,
      ⟨.resize (alignedLength + opened.declared.bytes), .readingSizeHeader,
        alignedLength + opened.declared.bytes⟩] := by
  simp only [announcing, keeping_kept aligned, base, aligned, List.cons_append, List.nil_append]

theorem keeping_stage {opened : Opened} {step : Step} (member : step ∈ opened.keeping) :
    step.stage = .readingSizeHeader := by
  unfold keeping at member
  split at member
  · cases member
  · rw [List.mem_singleton.mp member]

theorem announcing_stage {opened : Opened} {step : Step} (member : step ∈ opened.announcing) :
    step.stage = .readingSizeHeader := by
  rcases List.mem_append.mp member with first | last
  · exact keeping_stage first
  · rw [List.mem_singleton.mp last]

-- The records that are applied: all of them, or those before the first misaligned one.
def applied (opened : Opened) : List Record := Record.sound opened.records

def writes (opened : Opened) : List Step := opened.applied.map (·.step opened.base)

def flush (opened : Opened) : Step := ⟨.flush, .streamingRecords, opened.base⟩

-- Why the records are not taken to a good end. A misaligned record comes before the way the stream
-- stops, and a read failure before an incomplete record.
def objection (fault? : Option DeviceFault) (opened : Opened) : Option Failure :=
  match Record.refusal 0 opened.records with
  | some failure => some failure
  | none =>
    match fault? with
    | some fault => some (.read fault)
    | none => if opened.tail = [] then none else some (.truncated opened.tail.length)

def index (policy : Policy) (opened : Opened) : Index :=
  Index.empty.enterAll policy opened.records

def outcome (policy : Policy) (opened : Opened) : Outcome where
  header := opened.header
  declared := opened.declared
  base := opened.base
  records := opened.records.length
  bytesIn := opened.payload.length
  index := opened.index policy
  report := .ofIndex (opened.index policy) opened.declared policy

def closing (policy : Policy) (fault? : Option DeviceFault) (opened : Opened) : Plan :=
  match opened.objection fault? with
  | some failure => ⟨[], .streamingRecords, .error failure⟩
  | none => ⟨[opened.flush], .validating, .ok (opened.outcome policy)⟩

theorem closing_stopped (policy : Policy) {fault? : Option DeviceFault} {opened : Opened}
    {failure : Failure} (stop : opened.objection fault? = some failure) :
    opened.closing policy fault? = ⟨[], .streamingRecords, .error failure⟩ := by
  simp only [closing, stop]

theorem closing_whole (policy : Policy) {fault? : Option DeviceFault} {opened : Opened}
    (good : opened.objection fault? = none) :
    opened.closing policy fault? =
      ⟨[opened.flush], .validating, .ok (opened.outcome policy)⟩ := by
  simp only [closing, good]

theorem objection_refused {opened : Opened} {failure : Failure}
    (refused : Record.refusal 0 opened.records = some failure) (fault? : Option DeviceFault) :
    opened.objection fault? = some failure := by
  simp only [objection, refused]

theorem objection_read {opened : Opened} (accepted : Record.refusal 0 opened.records = none)
    (fault : DeviceFault) : opened.objection (some fault) = some (.read fault) := by
  simp only [objection, accepted]

theorem objection_clean {opened : Opened} (accepted : Record.refusal 0 opened.records = none) :
    opened.objection none =
      if opened.tail = [] then none else some (.truncated opened.tail.length) := by
  simp only [objection, accepted]

def streaming (policy : Policy) (fault? : Option DeviceFault) (opened : Opened) : Plan :=
  (opened.closing policy fault?).after opened.writes

def decoding (policy : Policy) (fault? : Option DeviceFault) (opened : Opened) : Plan :=
  if opened.Fits then (opened.streaming policy fault?).after opened.announcing
  else ⟨opened.keeping, .readingSizeHeader, .error .brokeDown⟩

theorem decoding_fits {opened : Opened} (fits : opened.Fits) (policy : Policy)
    (fault? : Option DeviceFault) : opened.decoding policy fault? =
      (opened.streaming policy fault?).after opened.announcing := if_pos fits

theorem decoding_overruns {opened : Opened} (overruns : ¬ opened.Fits) (policy : Policy)
    (fault? : Option DeviceFault) : opened.decoding policy fault? =
      ⟨opened.keeping, .readingSizeHeader, .error .brokeDown⟩ := if_neg overruns

end Opened

namespace Whole

def plan (settings : Settings) (bytes : Bytes) (fault? : Option DeviceFault) : Plan :=
  match opening settings bytes fault? with
  | .error (stage, failure) => ⟨[], stage, .error failure⟩
  | .ok opened => opened.decoding settings.policy fault?

theorem plan_opened {settings : Settings} {bytes : Bytes} {fault? : Option DeviceFault}
    {opened : Opened} (opens : opening settings bytes fault? = .ok opened) :
    plan settings bytes fault? = opened.decoding settings.policy fault? := by rw [plan, opens]

end Whole

namespace Session

variable {σ : Type} [ImageSink σ]

def Run.ended (run : Run σ) : Stage × Except Failure Outcome × σ :=
  (run.stage, run.result, run.sink)

def concluded (policy : Policy) (header : Option Container.Header) (declared : DeclaredSize)
    (base : Nat) : Except Failure Unit × Decoder σ → Stage × Except Failure Outcome × σ
  | (.error failure, d) => (.streamingRecords, .error failure, d.reconstructor.sink)
  | (.ok _, d) =>
    match conclude d with
    | (.error failure, r) => (.streamingRecords, .error failure, r.sink)
    | (.ok (records, index), r) =>
      (.validating, .ok ⟨header, declared, base, records, d.framer.bytesIn, index,
        .ofIndex index declared policy⟩, r.sink)

theorem stream_concluded (policy : Policy) (header : Option Container.Header)
    (declared : DeclaredSize) (base : Nat) (inlet : Inlet) (sink : σ) (journal : Journal) :
    (stream policy header declared base inlet sink journal).ended =
      concluded policy header declared base (absorbFrom
        ⟨.empty, .start sink policy base journal, 0⟩ inlet.buffer inlet.remainder) := by
  rw [stream, absorbFrom]
  rcases absorb ⟨.empty, .start sink policy base journal, 0⟩ inlet.buffer
    with ⟨failure | done, d⟩
  · rfl
  · have rest : (if inlet.ended then (.ok (), d, inlet.feed) else absorbAll d inlet.feed) =
        ((absorbAll d inlet.remainder).1, (absorbAll d inlet.remainder).2.1,
          if inlet.ended then inlet.feed else (absorbAll d inlet.feed).2.2) := by
      cases ended : inlet.ended <;> simp [Inlet.remainder, ended, absorbAll]
    simp only [rest]
    rcases absorbAll d inlet.remainder with ⟨failure | finished, d, feed⟩
    · rfl
    · simp only [concluded]
      rcases conclude d with ⟨failure | ⟨records, index⟩, r⟩ <;> rfl

theorem conclude_cut {d : Decoder σ} (cut : d.framer.carry ≠ []) :
    conclude d = (.error (.truncated d.framer.carry.length), d.reconstructor) := by
  simp only [conclude, Framer.finish, if_neg cut, Framer.pending]

theorem conclude_whole {d : Decoder σ} (whole : d.framer.carry = []) :
    match ImageSink.perform d.reconstructor.sink .flush with
    | (sink, some fault) => ∃ r, conclude d = (.error (.write d.reconstructor.base fault), r) ∧
        r.sink = sink
    | (sink, none) => ∃ r, conclude d = (.ok (d.framer.emitted, d.reconstructor.index), r) ∧
        r.sink = sink := by
  rcases flushed : ImageSink.perform d.reconstructor.sink .flush with ⟨sink, _ | fault⟩ <;>
    simp [conclude, Framer.finish, whole, Reconstructor.finish, flushed]

theorem concluded_exact {policy : Policy} {opened : Opened} {d : Decoder σ}
    (fault? : Option DeviceFault) (accepted : Record.refusal 0 opened.records = none)
    (base : d.reconstructor.base = opened.base) (carry : d.framer.carry = opened.tail)
    (emitted : d.framer.emitted = opened.records.length)
    (bytesIn : d.framer.bytesIn = opened.payload.length)
    (index : d.reconstructor.index = opened.index policy) :
    concluded policy opened.header opened.declared opened.base
        (match fault? with | some fault => .error (.read fault) | none => .ok (), d) =
      (opened.closing policy fault?).carryOut d.reconstructor.sink := by
  cases fault? with
  | some fault =>
    rw [Opened.closing_stopped policy (Opened.objection_read accepted fault)]
    rfl
  | none =>
    by_cases whole : opened.tail = []
    · have good : opened.objection none = none := by
        rw [Opened.objection_clean accepted, if_pos whole]
      have made := conclude_whole (carry.trans whole)
      rw [Opened.closing_whole policy good]
      rcases flushed : ImageSink.perform d.reconstructor.sink .flush with ⟨sink, _ | fault⟩
      · rw [flushed] at made
        obtain ⟨r, concluded, left⟩ := made
        rw [Plan.carryOut, ImageSink.performAll_done [] flushed]
        simp only [Session.concluded, concluded, left, emitted, bytesIn, index]
        rfl
      · rw [flushed] at made
        obtain ⟨r, concluded, left⟩ := made
        rw [Plan.carryOut, ImageSink.performAll_stopped [] flushed]
        simp only [Session.concluded, concluded, left, base]
        rfl
    · have cut : opened.objection none = some (.truncated opened.tail.length) := by
        rw [Opened.objection_clean accepted, if_neg whole]
      rw [Opened.closing_stopped policy cut, concluded, conclude_cut (carry ▸ whole), carry]
      rfl

theorem stream_exact {policy : Policy} {opened : Opened} {inlet : Inlet}
    {fault? : Option DeviceFault} (holds : inlet.Holds opened.payload fault?) (sink : σ)
    (journal : Journal) :
    (stream policy opened.header opened.declared opened.base inlet sink journal).ended =
      (opened.streaming policy fault?).carryOut sink := by
  let d : Decoder σ := ⟨.empty, .start sink policy opened.base journal, 0⟩
  have absorbed := absorbFrom_exact (d := d) ⟨rfl, rfl⟩ inlet.buffer inlet.remainder
  have all : inlet.buffer ++ inlet.remainder.bytes = opened.payload := holds.content
  have written := Bench.applyAll_performs policy opened.base ⟨sink, .empty⟩ 0 opened.records
  have ran : d.ran opened.payload =
      Bench.applyAll policy opened.base ⟨sink, .empty⟩ 0 opened.records := rfl
  have writes : (Record.sound opened.records).map (·.step opened.base) = opened.writes := rfl
  rw [stream_concluded, Opened.streaming]
  rw [all, ran, Feed.verdict, holds.fault] at absorbed
  rw [writes] at written
  rcases result : Bench.applyAll policy opened.base ⟨sink, .empty⟩ 0 opened.records
    with ⟨answer, bench⟩
  rw [result] at absorbed written
  rcases performed : ImageSink.performAll sink opened.writes with ⟨next, _ | ⟨step, fault⟩⟩
  · rw [performed] at written
    obtain ⟨left, written⟩ := written
    rw [Plan.carryOut_after _ performed]
    cases refused : Record.refusal 0 opened.records with
    | some failure =>
      rw [refused] at written
      subst written
      obtain ⟨after, stopped, bench⟩ := absorbed
      rw [stopped, Opened.closing_stopped policy (Opened.objection_refused refused fault?)]
      subst bench left
      rfl
    | none =>
      rw [refused] at written
      obtain ⟨count, index⟩ := written
      subst count
      obtain ⟨after, stopped, bench, follows⟩ := absorbed
      subst bench left
      rw [stopped]
      exact concluded_exact fault? refused follows.base follows.carry
        (follows.emitted.trans (Nat.zero_add _)) (follows.bytesIn.trans (Nat.zero_add _)) index
  · rw [performed] at written
    obtain ⟨stopped, left⟩ := written
    subst stopped
    obtain ⟨after, stopped, bench⟩ := absorbed
    obtain ⟨record, -, rfl⟩ := List.mem_map.mp (ImageSink.performAll_stopped_at performed).1
    rw [Plan.carryOut_stopped _ performed, stopped]
    subst bench left
    rfl

theorem announce_word {declared : DeclaredSize} {base : Nat}
    (word : base + declared.bytes < 2 ^ 64) (sink : σ) (journal : Journal) :
    announce declared base sink journal =
      match ImageSink.perform sink (.resize (base + declared.bytes)) with
      | (sink, some fault) => (.error (.write (base + declared.bytes) fault), sink, journal)
      | (sink, none) => (.ok base, sink, journal) := if_neg (Nat.not_le.mpr word)

theorem announce_overruns {declared : DeclaredSize} {base : Nat}
    (high : ¬ base + declared.bytes < 2 ^ 64) (sink : σ) (journal : Journal) :
    announce declared base sink journal = (.error .brokeDown, sink, journal) :=
  if_pos (Nat.le_of_not_lt high)

theorem prepare_exact {layout : Layout} {opened : Opened}
    (kept : Whole.kept layout opened.header = .ok opened.kept) (fits : opened.Fits) (sink : σ)
    (journal : Journal) :
    match ImageSink.performAll sink opened.announcing with
    | (next, some (step, fault)) => ∃ told,
        prepare layout opened.header opened.declared sink journal =
          (.error (.write step.place fault), next, told)
    | (next, none) => ∃ told,
        prepare layout opened.header opened.declared sink journal =
          (.ok opened.base, next, told) := by
  obtain ⟨header, declared, bytes, payload⟩ := opened
  rcases layout with _ | _
  · cases kept
    have word : 0 + declared.bytes < 2 ^ 64 := fits
    rw [Opened.announcing_bare rfl]
    rcases made : ImageSink.perform sink (.resize (0 + declared.bytes)) with ⟨next, _ | fault⟩ <;>
      simp only [ImageSink.performAll, prepare, announce_word word, made] <;>
      exact ⟨_, rfl⟩
  · rcases header with _ | header
    · cases kept
      have word : 0 + declared.bytes < 2 ^ 64 := fits
      rw [Opened.announcing_bare rfl]
      rcases made : ImageSink.perform sink (.resize (0 + declared.bytes)) with ⟨next, _ | fault⟩ <;>
        simp only [ImageSink.performAll, prepare, announce_word word, made] <;>
        exact ⟨_, rfl⟩
    · have encoded : header.finalized.encodeAligned alignedLength = .ok bytes := kept
      have aligned : bytes.length = alignedLength :=
        Container.Header.encodeAligned_length encoded
      have word : alignedLength + declared.bytes < 2 ^ 64 := aligned ▸ fits
      rw [Opened.announcing_kept aligned]
      rcases made : ImageSink.perform sink (.write 0 bytes) with ⟨next, _ | fault⟩
      · rcases sized : ImageSink.perform next (.resize (alignedLength + declared.bytes))
          with ⟨last, _ | fault⟩ <;>
          simp [ImageSink.performAll, prepare, announce_word word, encoded, made, sized,
            Opened.base, aligned]
      · simp [ImageSink.performAll, prepare, encoded, made]

-- The kept header is written all the same.
theorem prepare_overruns {layout : Layout} {opened : Opened}
    (kept : Whole.kept layout opened.header = .ok opened.kept) (overruns : ¬ opened.Fits) (sink : σ)
    (journal : Journal) :
    match ImageSink.performAll sink opened.keeping with
    | (next, some (step, fault)) => ∃ told,
        prepare layout opened.header opened.declared sink journal =
          (.error (.write step.place fault), next, told)
    | (next, none) => ∃ told,
        prepare layout opened.header opened.declared sink journal =
          (.error .brokeDown, next, told) := by
  obtain ⟨header, declared, bytes, payload⟩ := opened
  rcases layout with _ | _
  · cases kept
    rw [Opened.keeping_bare rfl]
    exact ⟨_, announce_overruns overruns sink journal⟩
  · rcases header with _ | header
    · cases kept
      rw [Opened.keeping_bare rfl]
      exact ⟨_, announce_overruns overruns sink _⟩
    · have encoded : header.finalized.encodeAligned alignedLength = .ok bytes := kept
      have aligned : bytes.length = alignedLength :=
        Container.Header.encodeAligned_length encoded
      have high : ¬ alignedLength + declared.bytes < 2 ^ 64 := aligned ▸ overruns
      rw [Opened.keeping_kept aligned]
      rcases made : ImageSink.perform sink (.write 0 bytes) with ⟨next, _ | fault⟩ <;>
        simp [ImageSink.performAll, prepare, announce_overruns high, encoded, made]

theorem prepare_failed {layout : Layout} {header : Option Container.Header} {failure : Failure}
    (failed : Whole.kept layout header = .error failure) (declared : DeclaredSize) (sink : σ)
    (journal : Journal) : ∃ journal',
      prepare layout header declared sink journal = (.error failure, sink, journal') := by
  cases layout with
  | flat => cases failed
  | withHeader =>
    cases header with
    | none => cases failed
    | some header =>
      rw [Whole.kept] at failed
      simp only [prepare, failed]
      exact ⟨_, rfl⟩

-- What a session does once the headers are read.
def proceed (settings : Settings) (header : Option Container.Header) (declared : DeclaredSize)
    (inlet : Inlet) (sink : σ) : Run σ :=
  match prepare settings.layout header declared sink inlet.journal with
  | (.error failure, sink, journal) =>
    ⟨.readingSizeHeader, .error failure, inlet.feed, sink, journal⟩
  | (.ok base, sink, journal) => stream settings.policy header declared base inlet sink journal

theorem proceed_fits {settings : Settings} {opened : Opened} {inlet : Inlet}
    {fault? : Option DeviceFault}
    (kept : Whole.kept settings.layout opened.header = .ok opened.kept) (fits : opened.Fits)
    (holds : inlet.Holds opened.payload fault?) (sink : σ) :
    (proceed settings opened.header opened.declared inlet sink).ended =
      ((opened.streaming settings.policy fault?).after opened.announcing).carryOut sink := by
  have prepared := prepare_exact kept fits sink inlet.journal
  rcases performed : ImageSink.performAll sink opened.announcing with ⟨next, _ | ⟨step, fault⟩⟩
  · rw [performed] at prepared
    obtain ⟨told, done⟩ := prepared
    rw [proceed, done, Plan.carryOut_after _ performed]
    exact stream_exact holds next told
  · rw [performed] at prepared
    obtain ⟨told, failed⟩ := prepared
    have early : step.stage = .readingSizeHeader :=
      Opened.announcing_stage (ImageSink.performAll_stopped_at performed).1
    rw [proceed, failed, Plan.carryOut_stopped _ performed, early]
    rfl

theorem proceed_overruns {settings : Settings} {opened : Opened}
    (kept : Whole.kept settings.layout opened.header = .ok opened.kept) (overruns : ¬ opened.Fits)
    (inlet : Inlet) (sink : σ) :
    (proceed settings opened.header opened.declared inlet sink).ended =
      (Plan.mk opened.keeping .readingSizeHeader (.error .brokeDown)).carryOut sink := by
  have prepared := prepare_overruns kept overruns sink inlet.journal
  rcases performed : ImageSink.performAll sink opened.keeping with ⟨next, _ | ⟨step, fault⟩⟩
  · rw [performed] at prepared
    obtain ⟨told, broken⟩ := prepared
    rw [proceed, broken, Plan.carryOut, performed]
    rfl
  · rw [performed] at prepared
    obtain ⟨told, failed⟩ := prepared
    have early : step.stage = .readingSizeHeader :=
      Opened.keeping_stage (ImageSink.performAll_stopped_at performed).1
    simp only [proceed, failed, Plan.carryOut, performed, early, Run.ended]

theorem proceed_exact {settings : Settings} {opened : Opened} {inlet : Inlet}
    {fault? : Option DeviceFault}
    (kept : Whole.kept settings.layout opened.header = .ok opened.kept)
    (holds : inlet.Holds opened.payload fault?) (sink : σ) :
    (proceed settings opened.header opened.declared inlet sink).ended =
      (opened.decoding settings.policy fault?).carryOut sink := by
  by_cases fits : opened.Fits
  · rw [Opened.decoding_fits fits]
    exact proceed_fits kept fits holds sink
  · rw [Opened.decoding_overruns fits]
    exact proceed_overruns kept fits inlet sink

theorem decode_exact (settings : Settings) (feed : Feed) (sink : σ) (journal : Journal) :
    (decode settings feed sink journal).ended =
      (Whole.plan settings feed.bytes feed.fault?).carryOut sink := by
  obtain ⟨headerEq, behind⟩ := readHeader_exact settings feed journal
  rw [decode, Whole.plan, Whole.opening, ← headerEq]
  rcases found : readHeader settings feed journal with ⟨failure | header, inlet⟩
  · rfl
  · rw [found] at behind
    have holds := behind header rfl
    obtain ⟨sizeEq, behind⟩ := takeSize_exact inlet.buffer inlet.ended inlet.feed inlet.journal
    rw [holds.content, holds.fault] at sizeEq behind
    simp only [← sizeEq]
    rcases sized : takeSize inlet.buffer inlet.ended inlet.feed inlet.journal
      with ⟨failure | declared, inlet⟩
    · rfl
    · rw [sized] at behind
      rcases keeps : Whole.kept settings.layout header with failure | kept
      · obtain ⟨told, failed⟩ := prepare_failed keeps declared sink inlet.journal
        simp only [failed]
        rfl
      · let opened : Opened := ⟨header, declared, kept,
          (feed.bytes.drop (Whole.frontLength header)).drop sizeHeaderLength⟩
        have keeps : Whole.kept settings.layout opened.header = .ok opened.kept := keeps
        exact proceed_exact keeps (behind declared rfl) sink

end Session

end PageStream
