import PageStream.Proofs.Checked
import PageStream.Proofs.Indexing

namespace PageStream

namespace Checked

-- A framer that carries other bytes, if these are less than a record.
def carrying (framer : Framer) (carry : Bytes) : Option Framer :=
  if small : carry.length < recordSize then some { framer with carry, carry_lt := small } else none

def whole (bytes : Bytes) : Option Record :=
  if length_eq : bytes.length = recordSize then some ⟨bytes, length_eq⟩ else none

def cut (frames : Frames) : Option (Option Record × Frames) := do
  let need ← minus recordSize frames.framer.carry.length
  if frames.input.length < need then
    let framer ← carrying frames.framer (frames.framer.carry ++ frames.input)
    return (none, ⟨framer, []⟩)
  else
    let (head, tail) ← splitAt frames.input need
    let record ← whole (frames.framer.carry ++ head)
    let framer ← carrying frames.framer []
    return (some record, ⟨framer, tail⟩)

theorem cut_eq (frames : Frames) : cut frames = some frames.cut := by
  have small := frames.framer.carry_lt
  rw [cut, Frames.cut, minus_eq (Nat.le_of_lt small)]
  simp only [Option.bind_eq_bind, Option.bind_some]
  by_cases short : frames.input.length < recordSize - frames.framer.carry.length
  · have carried : (frames.framer.carry ++ frames.input).length < recordSize := by
      rw [List.length_append]
      omega
    rw [if_pos short, dif_pos short, carrying, dif_pos carried]
    rfl
  · have enough : recordSize - frames.framer.carry.length ≤ frames.input.length := by omega
    have length : (frames.framer.carry ++
        frames.input.take (recordSize - frames.framer.carry.length)).length = recordSize := by
      rw [List.length_append, List.length_take]
      omega
    rw [if_neg short, dif_neg short, splitAt_eq enough]
    simp only [Option.bind_some]
    rw [whole, dif_pos length, carrying, dif_pos (by decide)]
    rfl

def next (frames : Frames) : Option (Option Record × Frames) :=
  match frames.framer.ready with
  | record :: ready =>
    some (some record, { frames with framer := { frames.framer with ready } }.emit)
  | [] =>
    match cut frames with
    | none => none
    | some (none, after) => some (none, after)
    | some (some record, after) => some (some record, after.emit)

theorem next_eq (frames : Frames) : next frames = some frames.next := by
  rw [next, Frames.next, cut_eq]
  cases frames.framer.ready with
  | nil => rcases frames.cut with ⟨_ | record, after⟩ <;> rfl
  | cons record ready => rfl

def close (frames : Frames) : Option Framer :=
  match _made : cut frames with
  | none => none
  | some (none, after) => some after.framer
  | some (some record, after) => close (after.keep record)
termination_by frames.input.length
decreasing_by
  have shorter := Frames.cut_shorter (Option.some.inj ((cut_eq frames).symm.trans _made))
  exact shorter

theorem close_eq (frames : Frames) : close frames = some frames.close := by
  induction frames using Frames.close.induct with
  | case1 frames after made =>
    rw [close, Frames.close_none made]
    split <;> rename_i again <;> rw [cut_eq, made] at again <;> cases again
    rfl
  | case2 frames record after made ih =>
    rw [close, Frames.close_some made, ← ih]
    split <;> rename_i again <;> rw [cut_eq, made] at again <;> cases again
    rfl

def drain (frames : Frames) : Option (List Record × Framer) :=
  match _pulled : next frames with
  | none => none
  | some (none, after) => (close after).map ([], ·)
  | some (some record, after) =>
    (drain after).map fun (records, framer) => (record :: records, framer)
termination_by frames.weight
decreasing_by
  exact Frames.next_lighter (Option.some.inj ((next_eq frames).symm.trans _pulled))

theorem drain_eq (frames : Frames) : drain frames = some frames.drain := by
  induction frames using Frames.drain.induct with
  | case1 frames after ended =>
    rw [drain, Frames.drain_none ended]
    split <;> rename_i again <;> rw [next_eq, ended] at again <;> cases again
    rw [close_eq]
    rfl
  | case2 frames record after pulled records framer rest ih =>
    rw [drain, Frames.drain_some pulled]
    split <;> rename_i again <;> rw [next_eq, pulled] at again <;> cases again
    rw [ih]
    rfl

def decodePage (bytes : Bytes) : Option (Except Failure PageHeader) :=
  if bytes.length < pageHeaderLength then
    some (.error (.malformed (.pageHeaderCut bytes.length)))
  else (word bytes 0 pageHeaderLength).map PageHeader.ofWord

theorem decodePage_eq (bytes : Bytes) : decodePage bytes = some (PageHeader.decode bytes) := by
  rw [decodePage, PageHeader.decode]
  split
  · rfl
  · have long : pageHeaderLength ≤ bytes.length := by omega
    rw [word_eq (by rwa [Nat.zero_add]), Option.map_some]

end Checked

-- The pages lie behind a container header at most, and no page lies farther than an offset reaches.
structure Reconstructor.Ranged {σ : Type} (r : Reconstructor σ) : Prop where
  base : r.base ≤ alignedLength
  pages : ∀ page, r.index.contains page = true → page * pageSize < 2 ^ offsetBits

theorem PageHeader.page_lt (header : PageHeader) : header.page * pageSize < 2 ^ offsetBits :=
  Nat.lt_of_le_of_lt (Nat.div_mul_le_self header.offset pageSize) header.offset_lt

namespace Reconstructor

variable {σ : Type} [ImageSink σ]

omit [ImageSink σ] in
theorem start_ranged (sink : σ) (policy : Policy) {base : Nat} (low : base ≤ alignedLength)
    (journal : Journal) : (start sink policy base journal).Ranged := by
  refine ⟨low, fun page listed => ?_⟩
  rw [start, Index.empty_contains] at listed
  cases listed

omit [ImageSink σ] in
theorem Ranged.pull {r : Reconstructor σ} (ranged : r.Ranged) : r.pull.Ranged :=
  ⟨ranged.base, ranged.pages⟩

theorem Ranged.apply {r : Reconstructor σ} (ranged : r.Ranged) (record : Record) :
    (r.apply record).2.Ranged := by
  obtain ⟨-, bench, -, base⟩ := r.apply_bench record
  have index : (r.apply record).2.index = (r.bench.apply r.policy r.base record).2.index :=
    congrArg Bench.index bench
  refine ⟨base ▸ ranged.base, fun page listed => ?_⟩
  rw [index, Bench.apply] at listed
  split at listed
  · split at listed
    · exact ranged.pages page listed
    · rcases (Index.contains_enter _ _ _ _).mp listed with rfl | before
      · exact record.header.page_lt
      · exact ranged.pages page before
  · exact ranged.pages page listed

theorem Ranged.applyAll {r : Reconstructor σ} (ranged : r.Ranged) (number : Nat)
    (records : List Record) : (Session.applyAll r number records).2.Ranged := by
  induction records generalizing r number with
  | nil => exact ranged
  | cons record rest ih =>
    have next := ranged.pull.apply record
    rw [Session.applyAll]
    rcases applied : r.pull.apply record with ⟨failure | done, after⟩
    · rwa [applied] at next
    · rw [applied] at next
      exact ih next (number + 1)

end Reconstructor

namespace Checked

variable {σ : Type} [ImageSink σ]

def applyPage (checked : ImageSink.Checked σ) (r : Reconstructor σ) (header : PageHeader)
    (payload : Bytes) : Option (Except Failure Observation × Reconstructor σ) := do
  let r := r.enter header.iteration
  let offset ← plus r.base header.offset
  match ← checked.perform r.sink (.write offset payload) with
  | (sink, some fault) => return (.error (.write offset fault), { r with sink })
  | (sink, none) =>
    let (observation, r) := { r with sink }.accept header offset
    return (.ok observation, r)

def apply (checked : ImageSink.Checked σ) (r : Reconstructor σ) (record : Record) :
    Option (Except Failure (PageHeader × Observation) × Reconstructor σ) := do
  let front ← slice record.bytes 0 pageHeaderLength
  match ← decodePage front with
  | .error failure => return (.error failure, r)
  | .ok header =>
    let payload ← behind record.bytes pageHeaderLength
    match ← applyPage checked r header payload with
    | (.error failure, r) => return (.error failure, r)
    | (.ok observation, r) => return (.ok (header, observation), r)

theorem applyPage_eq (checked : ImageSink.Checked σ) {r : Reconstructor σ} (ranged : r.Ranged)
    (header : PageHeader) {payload : Bytes} (page : payload.length = pageSize) :
    applyPage checked r header payload = some (r.applyPage header payload) := by
  have base := (r.enter_keeps header.iteration).2.2
  have low : r.base ≤ 2 * 4096 := ranged.base
  have offset : header.offset < 2 ^ 48 := header.offset_lt
  have inside : r.base + header.offset < 2 ^ 64 := by omega
  have fits : (ImageCall.write (r.base + header.offset) payload).InRange := by
    rw [ImageCall.InRange, page, pageSize]
    omega
  simp only [applyPage, Reconstructor.applyPage, base, plus_eq inside, Option.bind_eq_bind,
    Option.bind_some, checked.sound _ _ fits]
  rcases ImageSink.perform (r.enter header.iteration).sink
    (.write (r.base + header.offset) payload) with ⟨sink, _ | fault⟩ <;> rfl

theorem apply_eq (checked : ImageSink.Checked σ) {r : Reconstructor σ} (ranged : r.Ranged)
    (record : Record) : apply checked r record = some (r.apply record) := by
  have long : pageHeaderLength ≤ record.bytes.length := by
    rw [record.length_eq]
    decide
  have front : slice record.bytes 0 pageHeaderLength = some record.headerBytes := slice_front long
  have back : behind record.bytes pageHeaderLength = some record.payload := behind_eq long
  simp only [apply, Reconstructor.apply, front, back, Option.bind_eq_bind, Option.bind_some,
    decodePage_eq]
  cases PageHeader.decode record.headerBytes with
  | error failure => rfl
  | ok header =>
    simp only [applyPage_eq checked ranged header record.payload_length, Option.bind_some]
    rcases r.applyPage header record.payload with ⟨failure | observation, r⟩ <;> rfl

def applyAll (checked : ImageSink.Checked σ) (r : Reconstructor σ) (applied : Nat) :
    List Record → Option (Except Failure Nat × Reconstructor σ)
  | [] => some (.ok applied, r)
  | record :: rest => do
    match ← apply checked r.pull record with
    | (.error failure, r) => return (.error (failure.inRecord applied), r)
    | (.ok _, r) => applyAll checked r (applied + 1) rest

theorem applyAll_eq (checked : ImageSink.Checked σ) {r : Reconstructor σ} (ranged : r.Ranged)
    (number : Nat) (records : List Record) :
    applyAll checked r number records = some (Session.applyAll r number records) := by
  induction records generalizing r number with
  | nil => rfl
  | cons record rest ih =>
    have next := ranged.pull.apply record
    rw [applyAll, Session.applyAll, apply_eq checked ranged.pull, Option.bind_eq_bind,
      Option.bind_some]
    rcases applied : r.pull.apply record with ⟨failure | done, after⟩
    · rfl
    · rw [applied] at next
      exact ih next (number + 1)

def absorb (checked : ImageSink.Checked σ) (d : Session.Decoder σ) (piece : Bytes) :
    Option (Except Failure Unit × Session.Decoder σ) := do
  let (records, framer) ← drain (d.framer.feed piece)
  match ← applyAll checked d.reconstructor d.applied records with
  | (.error failure, reconstructor) => return (.error failure, { d with framer, reconstructor })
  | (.ok applied, reconstructor) => return (.ok (), ⟨framer, reconstructor, applied⟩)

def absorbAll (checked : ImageSink.Checked σ) (d : Session.Decoder σ) :
    Feed → Option (Except Failure Unit × Session.Decoder σ × Feed)
  | [] => some (.ok (), d, [])
  | .ended :: rest => some (.ok (), d, rest)
  | .failed fault :: rest => some (.error (.read fault), d, rest)
  | .piece bytes :: rest => do
    match ← absorb checked (Session.countDelivery d bytes.length) bytes with
    | (.error failure, d) => return (.error failure, d, rest)
    | (.ok _, d) => absorbAll checked d rest

-- A piece goes in without a step out of range, and the next one can.
theorem absorb_eq (checked : ImageSink.Checked σ) {d : Session.Decoder σ}
    (ranged : d.reconstructor.Ranged) (piece : Bytes) :
    absorb checked d piece = some (Session.absorb d piece) ∧
      (Session.absorb d piece).2.reconstructor.Ranged := by
  have next := ranged.applyAll d.applied (d.framer.feed piece).drain.1
  simp only [absorb, Session.absorb, drain_eq, Option.bind_eq_bind, Option.bind_some,
    applyAll_eq checked ranged]
  rcases applied : Session.applyAll d.reconstructor d.applied (d.framer.feed piece).drain.1
    with ⟨failure | count, r⟩
  · rw [applied] at next
    exact ⟨rfl, next⟩
  · rw [applied] at next
    exact ⟨rfl, next⟩

theorem absorbAll_eq (checked : ImageSink.Checked σ) {d : Session.Decoder σ}
    (ranged : d.reconstructor.Ranged) (feed : Feed) :
    absorbAll checked d feed = some (Session.absorbAll d feed) ∧
      (Session.absorbAll d feed).2.1.reconstructor.Ranged := by
  induction feed generalizing d with
  | nil => exact ⟨rfl, ranged⟩
  | cons answer rest ih =>
    cases answer with
    | ended => exact ⟨rfl, ranged⟩
    | failed fault => exact ⟨rfl, ranged⟩
    | piece bytes =>
      have counted : (Session.countDelivery d bytes.length).reconstructor.Ranged :=
        ⟨ranged.base, ranged.pages⟩
      obtain ⟨same, next⟩ := absorb_eq checked counted bytes
      rw [absorbAll, Session.absorbAll, same, Option.bind_eq_bind, Option.bind_some]
      rcases absorbed : Session.absorb (Session.countDelivery d bytes.length) bytes
        with ⟨failure | done, after⟩
      · rw [absorbed] at next
        exact ⟨rfl, next⟩
      · rw [absorbed] at next
        exact ih next

def finish (checked : ImageSink.Checked σ) (r : Reconstructor σ) :
    Option (Except Failure Index × Reconstructor σ) := do
  match ← checked.perform r.sink .flush with
  | (sink, some fault) => return (.error (.write r.base fault), { r with sink })
  | (sink, none) => return (.ok r.index, { r with sink })

def conclude (checked : ImageSink.Checked σ) (d : Session.Decoder σ) :
    Option (Except Failure (Nat × Index) × Reconstructor σ) :=
  match d.framer.finish with
  | .error failure => some (.error failure, d.reconstructor)
  | .ok records => do
    let r := { d.reconstructor with
      journal := d.reconstructor.journal.noteAll d.framer.endNotices }
    match ← finish checked r with
    | (.error failure, r) => return (.error failure, r)
    | (.ok index, r) =>
      return (.ok (records, index),
        { r with journal := r.journal.note (.streamDone records d.framer.bytesIn) })

theorem conclude_eq (checked : ImageSink.Checked σ) (d : Session.Decoder σ) :
    conclude checked d = some (Session.conclude d) := by
  rw [conclude, Session.conclude]
  cases d.framer.finish with
  | error failure => rfl
  | ok records =>
    simp only [finish, Reconstructor.finish, checked.sound _ .flush trivial, Option.bind_eq_bind,
      Option.bind_some]
    rcases ImageSink.perform d.reconstructor.sink .flush with ⟨sink, _ | fault⟩ <;> rfl

-- What is said of a missing page and of one beyond the size names the place of that page.
def notices (report : Report) : Option (List Notice) := do
  let _ ← report.firstMissing.mapM (times · pageSize)
  let _ ← report.firstOutOfRange.mapM (times · pageSize)
  return report.notices

theorem notices_eq {index : Index}
    (pages : ∀ page, index.contains page = true → page * pageSize < 2 ^ offsetBits)
    {declared : DeclaredSize} (small : declared.bytes < 2 ^ 64) (policy : Policy) :
    notices (.ofIndex index declared policy) =
      some (Report.ofIndex index declared policy).notices := by
  have missing : ∀ page, (Report.ofIndex index declared policy).firstMissing = some page →
      times page pageSize = some (page * pageSize) := by
    intro page found
    obtain ⟨below, -⟩ :=
      ((Ledger.firstMissing_finds index.pages declared.pages).some_iff.mp found).1
    apply times_eq
    calc page * pageSize ≤ declared.pages * pageSize :=
          Nat.mul_le_mul_right pageSize (Nat.le_of_lt below)
      _ = declared.bytes := declared.pages_mul
      _ < 2 ^ 64 := small
  have beyond : ∀ page, (Report.ofIndex index declared policy).firstOutOfRange = some page →
      times page pageSize = some (page * pageSize) := by
    intro page found
    obtain ⟨-, listed⟩ :=
      ((Ledger.firstAtOrBeyond_finds index.pages declared.pages).some_iff.mp found).1
    apply times_eq
    calc page * pageSize < 2 ^ offsetBits := pages page (Ledger.lists_iff.mp listed)
      _ ≤ 2 ^ 64 := by decide
  rw [notices]
  cases gap : (Report.ofIndex index declared policy).firstMissing with
  | none =>
    cases far : (Report.ofIndex index declared policy).firstOutOfRange with
    | none => rfl
    | some page => simp [beyond page far]
  | some gone =>
    cases far : (Report.ofIndex index declared policy).firstOutOfRange with
    | none => simp [missing gone gap]
    | some page => simp [missing gone gap, beyond page far]

def completed (checked : ImageSink.Checked σ) (policy : Policy)
    (header : Option Container.Header) (declared : DeclaredSize) (base : Nat) :
    Except Failure Unit × Session.Decoder σ × Feed → Option (Session.Run σ)
  | (.error failure, d, feed) => some
    ⟨.streamingRecords, .error failure, feed, d.reconstructor.sink, d.reconstructor.journal⟩
  | (.ok _, d, feed) => do
    match ← conclude checked d with
    | (.error failure, r) =>
      return ⟨.streamingRecords, .error failure, feed, r.sink, r.journal⟩
    | (.ok (records, index), r) =>
      let report := Report.ofIndex index declared policy
      let told ← notices report
      return ⟨.validating, .ok ⟨header, declared, base, records, d.framer.bytesIn, index, report⟩,
        feed, r.sink, r.journal.noteAll told⟩

theorem completed_eq (checked : ImageSink.Checked σ) (policy : Policy)
    (header : Option Container.Header) {declared : DeclaredSize} (small : declared.bytes < 2 ^ 64)
    (base : Nat) (answer : Except Failure Unit) {d : Session.Decoder σ}
    (ranged : d.reconstructor.Ranged) (feed : Feed) :
    completed checked policy header declared base (answer, d, feed) =
      some (Session.completed policy header declared base (answer, d, feed)) := by
  cases answer with
  | error failure => rfl
  | ok done =>
    simp only [completed, Session.completed, conclude_eq, Option.bind_eq_bind, Option.bind_some]
    by_cases whole : d.framer.carry = []
    · have concluded := Session.conclude_whole whole
      rcases flushed : ImageSink.perform d.reconstructor.sink .flush with ⟨sink, _ | fault⟩
      · rw [flushed] at concluded
        obtain ⟨r, done, -⟩ := concluded
        simp only [done, notices_eq ranged.pages small policy, Option.bind_some]
        rfl
      · rw [flushed] at concluded
        obtain ⟨r, stopped, -⟩ := concluded
        simp only [stopped]
        rfl
    · simp only [Session.conclude_cut whole]
      rfl

def stream (checked : ImageSink.Checked σ) (policy : Policy) (header : Option Container.Header)
    (declared : DeclaredSize) (base : Nat) (inlet : Inlet) (sink : σ) (journal : Journal) :
    Option (Session.Run σ) := do
  match ← absorb checked ⟨.empty, .start sink policy base journal, 0⟩ inlet.buffer with
  | (.error failure, d) =>
    completed checked policy header declared base (.error failure, d, inlet.feed)
  | (.ok _, d) =>
    let absorbed ← if inlet.ended then some (.ok (), d, inlet.feed)
      else absorbAll checked d inlet.feed
    completed checked policy header declared base absorbed

theorem stream_eq (checked : ImageSink.Checked σ) (policy : Policy)
    (header : Option Container.Header) {declared : DeclaredSize} (small : declared.bytes < 2 ^ 64)
    {base : Nat} (low : base ≤ alignedLength) (inlet : Inlet) (sink : σ) (journal : Journal) :
    stream checked policy header declared base inlet sink journal =
      some (Session.stream policy header declared base inlet sink journal) := by
  obtain ⟨same, ranged⟩ := absorb_eq checked
    (d := ⟨.empty, .start sink policy base journal, 0⟩)
    (Reconstructor.start_ranged sink policy low journal) inlet.buffer
  rw [Session.stream_completed, stream, same, Option.bind_eq_bind, Option.bind_some]
  rcases absorbed : Session.absorb ⟨.empty, .start sink policy base journal, 0⟩ inlet.buffer
    with ⟨failure | done, d⟩
  · rfl
  · rw [absorbed] at ranged
    cases inlet.ended with
    | true => exact completed_eq checked policy header small base (.ok ()) ranged inlet.feed
    | false =>
      obtain ⟨same, ranged⟩ := absorbAll_eq checked ranged inlet.feed
      simp only [Bool.false_eq_true, if_false, same, Option.bind_eq_bind, Option.bind_some]
      exact completed_eq checked policy header small base _ ranged _

end Checked

namespace Session

variable {σ : Type} [ImageSink σ]

theorem headers_read {settings : Settings} {feed : Feed} {journal : Journal}
    {header : Option Container.Header} {declared : DeclaredSize} {inlet : Inlet}
    (read : headers settings feed journal = (.ok (header, declared), inlet)) :
    Whole.header settings feed.bytes feed.fault? = .ok header ∧
      Whole.size (feed.bytes.drop (Whole.frontLength header)) feed.fault? = .ok declared := by
  obtain ⟨found, behind⟩ := readHeader_exact settings feed journal
  rw [headers] at read
  rcases looked : readHeader settings feed journal with ⟨failure | header', middle⟩
  · rw [looked] at read
    cases read
  · obtain ⟨sized, -⟩ := takeSize_exact middle.buffer middle.ended middle.feed middle.journal
    rcases took : takeSize middle.buffer middle.ended middle.feed middle.journal
      with ⟨failure | declared', last⟩
    · simp only [looked, took] at read
      cases read
    · simp only [looked, took] at read
      cases read
      rw [looked] at found behind
      rw [took] at sized
      have holds := behind header rfl
      rw [holds.content, holds.fault] at sized
      exact ⟨found.symm, sized.symm⟩

theorem header_reads {settings : Settings} {bytes : Bytes} {fault? : Option DeviceFault}
    {header : Container.Header}
    (found : Whole.header settings bytes fault? = .ok (some header)) :
    settings.parser.Reads bytes header := by
  rw [Whole.header] at found
  cases mode : settings.container with
  | absent =>
    rw [mode] at found
    cases found
  | auto =>
    rw [mode] at found
    exact Whole.scan_some.mp found
  | required =>
    rw [mode] at found
    exact Whole.scan_some.mp found

theorem prepare_kept {layout : Layout} {header : Option Container.Header}
    {declared : DeclaredSize} {sink next : σ} {journal told : Journal} {base : Nat}
    (prepared : prepare layout header declared sink journal = (.ok base, next, told)) :
    ∃ kept, Whole.kept layout header = .ok kept ∧ kept.length = base := by
  cases keeps : Whole.kept layout header with
  | error failure =>
    obtain ⟨told', stopped⟩ := prepare_failed keeps declared sink journal
    rw [prepared] at stopped
    cases stopped
  | ok kept =>
    let opened : Opened := ⟨header, declared, kept, []⟩
    have keeps : Whole.kept layout opened.header = .ok opened.kept := keeps
    have announced := prepare_exact keeps (prepare_word keeps prepared) sink journal
    rcases performed : ImageSink.performAll sink opened.announcing with ⟨after, _ | ⟨step, fault⟩⟩
    · rw [performed] at announced
      obtain ⟨told', same⟩ := announced
      rw [prepared] at same
      cases same
      exact ⟨kept, rfl, rfl⟩
    · rw [performed] at announced
      obtain ⟨told', same⟩ := announced
      rw [prepared] at same
      cases same

end Session

namespace Checked

variable {σ : Type} [ImageSink σ]

def proceed (checked : ImageSink.Checked σ) (settings : Settings)
    (header : Option Container.Header) (declared : DeclaredSize) (inlet : Inlet) (sink : σ) :
    Option (Session.Run σ) := do
  match ← prepare checked settings.layout header declared sink inlet.journal with
  | (.error failure, sink, journal) =>
    return ⟨.readingSizeHeader, .error failure, inlet.feed, sink, journal⟩
  | (.ok base, sink, journal) =>
    stream checked settings.policy header declared base inlet sink journal

theorem proceed_eq (checked : ImageSink.Checked σ) {settings : Settings}
    {header : Option Container.Header} {declared : DeclaredSize}
    (fits : ∀ found, header = some found → found.payloadOffset < 2 ^ 64)
    (room : ∀ kept, Whole.kept settings.layout header = .ok kept →
      kept.length + declared.bytes < 2 ^ 64) (inlet : Inlet) (sink : σ) :
    proceed checked settings header declared inlet sink =
      some (Session.proceed settings header declared inlet sink) := by
  rw [proceed, Session.proceed, prepare_eq checked fits room, Option.bind_eq_bind,
    Option.bind_some]
  rcases prepared : Session.prepare settings.layout header declared sink inlet.journal
    with ⟨failure | base, next, told⟩
  · rfl
  · obtain ⟨kept, keeps, length⟩ := Session.prepare_kept prepared
    have small : declared.bytes < 2 ^ 64 :=
      Nat.lt_of_le_of_lt (Nat.le_add_left _ _) (room kept keeps)
    have low : base ≤ alignedLength := by
      rw [← length, Whole.kept_length keeps]
      split
      · exact Nat.le_refl _
      · exact Nat.zero_le _
    exact stream_eq checked settings.policy header small low inlet next told

def decode (checked : ImageSink.Checked σ) (settings : Settings) (feed : Feed) (sink : σ)
    (journal : Journal) : Option (Session.Run σ) := do
  match ← headers settings feed journal with
  | (.error (stage, failure), inlet) =>
    return ⟨stage, .error failure, inlet.feed, sink, inlet.journal⟩
  | (.ok (header, declared), inlet) => proceed checked settings header declared inlet sink

theorem decode_eq (checked : ImageSink.Checked σ) {settings : Settings} {feed : Feed}
    (room : ∀ opened, Whole.opening settings feed.bytes feed.fault? = .ok opened →
      opened.base + opened.declared.bytes < 2 ^ 64) (sink : σ) (journal : Journal) :
    decode checked settings feed sink journal =
      some (Session.decode settings feed sink journal) := by
  rw [decode, headers_eq, Session.decode_headers, Option.bind_eq_bind, Option.bind_some]
  rcases read : Session.headers settings feed journal
    with ⟨⟨stage, failure⟩ | ⟨header, declared⟩, inlet⟩
  · rfl
  · obtain ⟨found, sized⟩ := Session.headers_read read
    refine proceed_eq checked ?_ ?_ inlet sink
    · rintro given rfl
      exact payloadOffset_lt (Session.header_reads found)
    · intro kept keeps
      let opened : Opened := ⟨header, declared, kept,
        (feed.bytes.drop (Whole.frontLength header)).drop sizeHeaderLength⟩
      exact room opened (Whole.opening_ok.mpr ⟨found, sized, keeps, rfl⟩)

def run (checked : ImageSink.Checked σ) (session : Session) (feed : Feed) (sink : σ)
    (journal : Journal) : Option (Session × Session.Run σ) :=
  if session.stage ≠ .init then
    some (session,
      ⟨session.stage, .error (.malformed (.sessionUsed session.stage)), feed, sink, journal⟩)
  else (decode checked session.settings feed sink journal).map session.settle

end Checked

-- No step of a run goes out of range, whatever the stream holds and however it is cut, as long as
-- the image's length fits in 64 bits.
theorem Session.run_checked {σ : Type} [ImageSink σ] (checked : ImageSink.Checked σ)
    (session : Session) (feed : Feed) (sink : σ) (journal : Journal)
    (room : ∀ opened, Whole.opening session.settings feed.bytes feed.fault? = .ok opened →
      opened.base + opened.declared.bytes < 2 ^ 64) :
    Checked.run checked session feed sink journal = some (session.run feed sink journal) := by
  by_cases fresh : session.stage = .init
  · rw [Checked.run, if_neg (not_not.mpr fresh), run_settle fresh,
      Checked.decode_eq checked room, Option.map_some]
  · rw [Checked.run, if_pos fresh, run_used fresh]

-- A page that comes together with its size, into an image in memory.
theorem Session.run_checked_memory :
    let session : Session := { settings := { container := .absent } }
    let feed : Feed := [.piece ([0, 16, 0, 0, 0, 0, 0, 0] ++ Record.zeros.bytes), .ended]
    (∃ outcome, (session.run feed (MemoryImage.mk []) .empty).2.result = .ok outcome) ∧
      Checked.run MemoryImage.checked session feed ⟨[]⟩ .empty =
        some (session.run feed ⟨[]⟩ .empty) := by
  intro session feed
  have bytes : feed.bytes = [0, 16, 0, 0, 0, 0, 0, 0] ++ Record.join [Record.zeros] := by
    simp [feed, Feed.bytes]
  have zeros : Grammar session.settings feed.bytes none [] [0, 16, 0, 0, 0, 0, 0, 0]
      ⟨pageSize, rfl⟩ [Record.zeros] := .of_absent rfl bytes rfl (by decide) (by decide +kernel)
  obtain ⟨kept, -, accepted⟩ :=
    run_grammar rfl rfl (memory_undisturbed ⟨[]⟩ session feed .empty) zeros (by decide)
  refine ⟨⟨_, accepted⟩, run_checked MemoryImage.checked session feed ⟨[]⟩ .empty ?_⟩
  rintro ⟨header, declared, kept, payload⟩ opens
  obtain ⟨found, sized, keeps, -⟩ := Whole.opening_ok.mp opens
  cases found
  cases keeps
  have length : ofLe [0, 16, 0, 0, 0, 0, 0, 0] = declared.bytes := by
    rw [bytes] at sized
    exact (Whole.size_ok.mp sized).2
  change 0 + declared.bytes < 2 ^ 64
  rw [← length]
  decide

end PageStream
