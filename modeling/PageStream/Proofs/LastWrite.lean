import PageStream.Proofs.Directories
import PageStream.Proofs.Stages

namespace PageStream

namespace Record

def lastAt? (records : List Record) (offset : Nat) : Option Record :=
  (records.filter (·.header.offset = offset)).getLast?

-- The length that an image of a given length comes to when the pages of records are written to it.
def reach (base length : Nat) (records : List Record) : Nat :=
  (records.map fun record => base + record.header.offset + pageSize).foldl max length

theorem lastAt?_append_same (records : List Record) (record : Record) :
    lastAt? (records ++ [record]) record.header.offset = some record := by
  simp [lastAt?]

theorem lastAt?_append_other {record : Record} {offset : Nat}
    (other : record.header.offset ≠ offset) (records : List Record) :
    lastAt? (records ++ [record]) offset = lastAt? records offset := by
  simp [lastAt?, other]

theorem lastAt?_some {records : List Record} {offset : Nat} {record : Record}
    (last : lastAt? records offset = some record) :
    record ∈ records ∧ record.header.offset = offset := by
  have member := List.mem_of_getLast? last
  simpa using member

theorem reach_append (base length : Nat) (records : List Record) (record : Record) :
    reach base length (records ++ [record]) =
      max (reach base length records) (base + record.header.offset + pageSize) := by
  simp [reach]

theorem length_le_reach (base length : Nat) (records : List Record) :
    length ≤ reach base length records := by
  induction records generalizing length with
  | nil => exact Nat.le_refl _
  | cons record rest ih =>
    exact Nat.le_trans (Nat.le_max_left _ _)
      (ih (max length (base + record.header.offset + pageSize)))

theorem page_le_reach {records : List Record} {record : Record} (member : record ∈ records)
    (base length : Nat) : base + record.header.offset + pageSize ≤ reach base length records := by
  induction records generalizing length with
  | nil => cases member
  | cons first rest ih =>
    rcases List.mem_cons.mp member with rfl | later
    · exact Nat.le_trans (Nat.le_max_right _ _)
        (length_le_reach base (max length (base + record.header.offset + pageSize)) rest)
    · exact ih later (max length (base + first.header.offset + pageSize))

theorem step_solid (base : Nat) (record : Record) : (record.step base).call.Solid := by
  intro bare
  have size := record.payload_length
  rw [bare] at size
  cases size

theorem apart {one two : Record} (first : one.aligned = true) (second : two.aligned = true)
    (other : one.header.offset ≠ two.header.offset) :
    one.header.offset + pageSize ≤ two.header.offset ∨
      two.header.offset + pageSize ≤ one.header.offset := by
  simp only [aligned, beq_iff_eq, pageSize] at *
  omega

end Record

-- An image with a header kept in front, room for a declared size, and the pages of records.
structure LastWrites (image kept : Bytes) (declared : DeclaredSize) (records : List Record) :
    Prop where
  length : image.length = Record.reach kept.length (kept.length + declared.bytes) records
  starts : image.take kept.length = kept
  page : ∀ offset record, Record.lastAt? records offset = some record →
    (image.drop (kept.length + offset)).take pageSize = record.payload
  zero : ∀ position, kept.length ≤ position → position < image.length →
    (∀ record ∈ records, position < kept.length + record.header.offset ∨
      kept.length + record.header.offset + pageSize ≤ position) →
    image[position]? = some 0

namespace LastWrites

variable {image kept : Bytes} {declared : DeclaredSize} {records : List Record}

theorem announced (kept : Bytes) (declared : DeclaredSize) :
    LastWrites (kept ++ List.replicate declared.bytes 0) kept declared [] where
  length := by simp [Record.reach]
  starts := List.take_left
  page := nofun
  zero := by
    intro position behind inside _
    simp only [List.length_append, List.length_replicate] at inside
    rw [List.getElem?_append_right behind, List.getElem?_replicate, if_pos (by omega)]

theorem write (holds : LastWrites image kept declared records) {record : Record}
    (aligned : ∀ other ∈ records, other.aligned = true) (good : record.aligned = true) :
    LastWrites (overwrite image (kept.length + record.header.offset) record.payload) kept declared
      (records ++ [record]) := by
  have size := record.payload_length
  have inside : kept.length ≤ image.length := by
    have whole := congrArg List.length holds.starts
    rw [List.length_take] at whole
    omega
  refine ⟨?length, ?starts, ?page, ?zero⟩
  case length => rw [overwrite_length, size, holds.length, Record.reach_append]
  case starts =>
    have front : ((overwrite image (kept.length + record.header.offset) record.payload).drop 0).take
        kept.length = (image.drop 0).take kept.length :=
      overwrite_apart (by omega) (.inl (by omega))
    rw [List.drop_zero, List.drop_zero, holds.starts] at front
    exact front
  case page =>
    intro offset last found
    by_cases same : record.header.offset = offset
    · subst same
      rw [Record.lastAt?_append_same] at found
      cases found
      rw [← size]
      exact overwrite_inside _ _ _
    · rw [Record.lastAt?_append_other same] at found
      obtain ⟨member, rfl⟩ := Record.lastAt?_some found
      have held : kept.length + last.header.offset + pageSize ≤ image.length :=
        holds.length ▸ Record.page_le_reach member _ _
      have untouched : kept.length + last.header.offset + pageSize ≤
            kept.length + record.header.offset ∨
          kept.length + record.header.offset + record.payload.length ≤
            kept.length + last.header.offset := by
        have other := Record.apart good (aligned last member) same
        rw [size]
        omega
      rw [overwrite_apart held untouched]
      exact holds.page _ _ found
  case zero =>
    intro position behind within clear
    have past := clear record (List.mem_append_right _ List.mem_cons_self)
    have old : ∀ other ∈ records, position < kept.length + other.header.offset ∨
        kept.length + other.header.offset + pageSize ≤ position :=
      fun other member => clear other (List.mem_append_left _ member)
    rw [overwrite_length, size] at within
    rw [overwrite_getElem?, grow_getElem?, size]
    by_cases before : position < image.length
    · rw [if_pos before, holds.zero position behind before old]
      split
      · rfl
      · rw [if_neg (by omega)]
    · rw [if_pos (by omega), if_neg before, if_pos (by omega)]

theorem writeAll (holds : LastWrites image kept declared records) {more : List Record}
    (aligned : ∀ record ∈ records ++ more, record.aligned = true) :
    LastWrites
      (ImageSink.after (MemoryImage.mk image) (more.map fun record =>
        (record.step kept.length).call)).bytes
      kept declared (records ++ more) := by
  induction more generalizing image records with
  | nil =>
    rw [List.append_nil]
    exact holds
  | cons record rest ih =>
    have good := aligned record (List.mem_append_right _ List.mem_cons_self)
    have before : ∀ other ∈ records, other.aligned = true :=
      fun other member => aligned other (List.mem_append_left _ member)
    have next := ih (holds.write before good) (by simpa using aligned)
    rw [List.append_assoc, List.singleton_append] at next
    exact next

end LastWrites

namespace Opened

def calls (opened : Opened) : List ImageCall :=
  (opened.announcing ++ opened.writes).map (·.call)

theorem aligned_of_applied {opened : Opened} {record : Record} (member : record ∈ opened.applied) :
    record.aligned = true := Record.aligned_of_sound member

theorem calls_solid (opened : Opened) : ∀ call ∈ opened.calls, call.Solid := by
  intro call member
  obtain ⟨step, made, rfl⟩ := List.mem_map.mp member
  rcases List.mem_append.mp made with announced | written
  · unfold announcing keeping at announced
    rcases List.mem_append.mp announced with first | sized
    · split at first
      · cases first
      · rename_i filled
        rw [List.mem_singleton.mp first]
        exact filled
    · rw [List.mem_singleton.mp sized]
      trivial
  · obtain ⟨record, -, rfl⟩ := List.mem_map.mp written
    exact record.step_solid opened.base

theorem all_solid (opened : Opened) {last : List ImageCall} (kind : last = [] ∨ last = [.flush]) :
    ∀ call ∈ opened.calls ++ last, call.Solid := by
  intro call member
  rcases List.mem_append.mp member with early | late
  · exact opened.calls_solid call early
  · rcases kind with rfl | rfl
    · cases late
    · rw [List.mem_singleton.mp late]
      trivial

-- An image after the announcement, what is kept having been written before it.
def announced (opened : Opened) (image : Bytes) : Bytes :=
  grow (overwrite image 0 opened.kept) (opened.base + opened.declared.bytes)

theorem memory_announcing (opened : Opened) (image : Bytes) :
    ImageSink.after (MemoryImage.mk image) (opened.announcing.map (·.call)) =
      ⟨opened.announced image⟩ := by
  obtain ⟨header, declared, kept, payload⟩ := opened
  by_cases bare : kept = []
  · subst bare
    simp [announcing, keeping, announced, base, ImageSink.perform, overwrite]
  · simp [announcing, keeping, announced, base, bare, ImageSink.perform]

theorem announced_blank (opened : Opened) :
    opened.announced [] = opened.kept ++ List.replicate opened.declared.bytes 0 := by
  simp [announced, grow, overwrite, base]

theorem memory_calls (opened : Opened) :
    LastWrites (ImageSink.after (MemoryImage.mk []) opened.calls).bytes opened.kept opened.declared
      opened.applied := by
  have sound : ∀ record ∈ [] ++ opened.applied, record.aligned = true :=
    fun record member => aligned_of_applied member
  rw [calls, List.map_append, ImageSink.after_append, memory_announcing, announced_blank, writes,
    List.map_map]
  exact (LastWrites.announced opened.kept opened.declared).writeAll sound

theorem closing_calls (policy : Policy) (fault? : Option DeviceFault) (opened : Opened) :
    (opened.closing policy fault?).steps.map (·.call) = [] ∨
      (opened.closing policy fault?).steps.map (·.call) = [.flush] := by
  cases stop : opened.objection fault? with
  | some failure =>
    rw [closing_stopped policy stop]
    exact .inl rfl
  | none =>
    rw [closing_whole policy stop]
    exact .inr rfl

end Opened

namespace Whole

theorem plan_calls {settings : Settings} {bytes : Bytes} {fault? : Option DeviceFault}
    {opened : Opened} (opens : opening settings bytes fault? = .ok opened) (fits : opened.Fits) :
    ∃ last, (plan settings bytes fault?).steps.map (·.call) = opened.calls ++ last ∧
      (last = [] ∨ last = [.flush]) := by
  refine ⟨_, ?_, opened.closing_calls settings.policy fault?⟩
  simp only [plan_opened opens, Opened.decoding_fits fits, Opened.streaming, Plan.after,
    Opened.calls, List.map_append, List.append_assoc]

theorem plan_early {settings : Settings} {bytes : Bytes} {fault? : Option DeviceFault}
    (closed : ¬ ∃ opened, opening settings bytes fault? = .ok opened ∧ opened.Fits) :
    ((plan settings bytes fault?).stage = .readingContainerHeader ∨
        (plan settings bytes fault?).stage = .readingSizeHeader) ∧
      ∃ failure, (plan settings bytes fault?).result = .error failure := by
  rcases opens : opening settings bytes fault? with ⟨stage, failure⟩ | opened
  · rw [plan_closed opens]
    refine ⟨?_, failure, rfl⟩
    unfold opening at opens
    split at opens
    · cases opens
      exact .inl rfl
    · split at opens
      · cases opens
        exact .inr rfl
      · split at opens
        · cases opens
          exact .inr rfl
        · cases opens
  · rw [plan_opened opens, Opened.decoding_overruns fun fits => closed ⟨opened, opens, fits⟩]
    exact ⟨.inr rfl, _, rfl⟩

end Whole

theorem Blank.last_writes {σ : Type} [ImageSink σ] {sink : σ} {view : σ → Bytes}
    (blank : Blank sink view) (opened : Opened) {last : List ImageCall}
    (kind : last = [] ∨ last = [.flush])
    (accepts : ImageSink.Accepts sink (opened.calls ++ last)) :
    LastWrites (view (ImageSink.after sink (opened.calls ++ last))) opened.kept opened.declared
      opened.applied := by
  have still : ImageSink.after (MemoryImage.mk []) (opened.calls ++ last) =
      ImageSink.after (MemoryImage.mk []) opened.calls := by
    rw [ImageSink.after_append]
    rcases kind with rfl | rfl <;> rfl
  rw [blank.holds _ accepts (opened.all_solid kind), blank.empty, still]
  exact opened.memory_calls

namespace Session

variable {σ : Type} [ImageSink σ]

-- The session got past the declared size; it may have failed after that.
def Past (session : Session) : Prop :=
  session.stage = .done ∨ session.stage = .failed ∧ session.failedIn = some .streamingRecords

theorem past_late {session : Session} {stage : Stage} {failure : Failure}
    (early : stage = .readingContainerHeader ∨ stage = .readingSizeHeader) :
    ¬ (session.closed stage (.error failure)).Past := by
  by_cases broken : failure = .brokeDown
  · rw [closed, if_pos broken]
    rintro (done | ⟨failed, -⟩)
    · rcases early with rfl | rfl <;> cases done
    · rcases early with rfl | rfl <;> cases failed
  · rw [closed_failed session stage broken]
    rintro (done | ⟨-, failedIn⟩)
    · cases done
    · rcases early with rfl | rfl <;> cases failedIn

theorem undisturbed_of_small {session : Session} (fresh : session.stage = .init) {feed : Feed}
    {sink : σ} {view : σ → Bytes} (holding : Holding sink view) (journal : Journal)
    (small : ∀ length, .resize length ∈
      (Whole.plan session.settings feed.bytes feed.fault?).steps.map (·.call) →
        length < fileBound) : session.Undisturbed feed sink journal :=
  (undisturbed_iff fresh).mpr (holding.accepts (Whole.plan_fits small))

theorem past_undisturbed {session : Session} (fresh : session.stage = .init) {feed : Feed}
    {sink : σ} {view : σ → Bytes} (holding : Holding sink view) {journal : Journal}
    (past : (session.run feed sink journal).1.Past) :
    session.Undisturbed feed sink journal := by
  obtain ⟨ended, closed⟩ := run_fresh fresh feed sink journal
  rw [closed] at past
  rcases performed : ImageSink.performAll sink
    (Whole.plan session.settings feed.bytes feed.fault?).steps with ⟨next, _ | ⟨step, fault⟩⟩
  · exact (undisturbed_iff fresh).mpr (ImageSink.performAll_made performed).1
  · rw [Plan.carryOut, performed] at ended
    obtain ⟨stage, rest⟩ := Prod.mk.inj ended
    obtain ⟨result, -⟩ := Prod.mk.inj rest
    rw [stage, result] at past
    obtain ⟨member, before, failed⟩ := ImageSink.performAll_stopped_at performed
    rcases Whole.step_cases member with ⟨opened, -, announced⟩ | ⟨-, fits⟩
    · exact absurd past (past_late (.inr (Opened.announcing_stage announced)))
    · cases (holding.takes before step.call fits).symm.trans failed

-- An image that takes what fits is got past the declared size if it takes the length.
theorem past_iff {session : Session} (fresh : session.stage = .init) {feed : Feed} {sink : σ}
    {view : σ → Bytes} (holding : Holding sink view) {journal : Journal} :
    (session.run feed sink journal).1.Past ↔ session.Undisturbed feed sink journal ∧
      ∃ opened, Whole.opening session.settings feed.bytes feed.fault? = .ok opened ∧
        opened.Fits := by
  have closed := (run_fresh fresh feed sink journal).2
  constructor
  · intro past
    have undisturbed := past_undisturbed fresh holding past
    refine ⟨undisturbed, ?_⟩
    by_contra early
    obtain ⟨stage, failure, failed⟩ := Whole.plan_early early
    rw [closed, run_stage fresh undisturbed, run_result fresh undisturbed, failed] at past
    exact past_late stage past
  · rintro ⟨undisturbed, opened, opens, fits⟩
    rw [closed, run_stage fresh undisturbed, run_result fresh undisturbed,
      (Whole.plan_ended opens fits).1, (Whole.plan_ended opens fits).2]
    cases objects : opened.objection feed.fault? with
    | none =>
      rw [Opened.closing_whole session.settings.policy objects]
      exact .inl rfl
    | some failure =>
      have reported : failure ≠ .brokeDown := by
        rintro rfl
        cases Opened.objection_stages objects
      rw [Opened.closing_stopped session.settings.policy objects, closed_failed session _ reported]
      exact .inr ⟨rfl, rfl⟩

def Leaves (settings : Settings) (feed : Feed) (calls : List ImageCall) (image : Bytes) : Prop :=
  ∃ opened last, Whole.opening settings feed.bytes feed.fault? = .ok opened ∧
    calls = opened.calls ++ last ∧ (last = [] ∨ last = [.flush]) ∧
    LastWrites image opened.kept opened.declared opened.applied

theorem blank_leaves {session : Session} (fresh : session.stage = .init) {feed : Feed} {sink : σ}
    {view : σ → Bytes} (blank : Blank sink view) {journal : Journal}
    (past : (session.run feed sink journal).1.Past) :
    Leaves session.settings feed (session.run feed (Recorder.mk sink []) journal).2.sink.calls
      (view (session.run feed sink journal).2.sink) := by
  obtain ⟨undisturbed, opened, opens, fits⟩ := (past_iff fresh blank.toHolding).mp past
  obtain ⟨last, calls, kind⟩ := Whole.plan_calls opens fits
  have accepts := (undisturbed_iff fresh).mp undisturbed
  rw [calls] at accepts
  refine ⟨opened, last, opens, ?_, kind, ?_⟩
  · rw [run_sink fresh (undisturbed.recorded fresh), calls, ImageSink.recorder_after,
      List.nil_append]
  · rw [run_sink fresh undisturbed, calls]
    exact blank.last_writes opened kind accepts

-- The last write wins, in memory, in a file, and in a file that was just created over whatever was
-- there, in every run that gets past the declared size.
theorem run_leaves_last {session : Session} (fresh : session.stage = .init) (feed : Feed)
    (journal : Journal) :
    ((session.run feed (MemoryImage.mk []) journal).1.Past →
      Leaves session.settings feed
        (session.run feed (Recorder.mk (MemoryImage.mk []) []) journal).2.sink.calls
        (session.run feed (MemoryImage.mk []) journal).2.sink.bytes) ∧
    ((session.run feed (FileImage.mk []) journal).1.Past →
      Leaves session.settings feed
        (session.run feed (Recorder.mk (FileImage.mk []) []) journal).2.sink.calls
        (session.run feed (FileImage.mk []) journal).2.sink.content) ∧
    ∀ directory created path place, Directory.createImage directory path = .ok (place, created) →
      (session.run feed (PlacedImage.mk created place) journal).1.Past →
      Leaves session.settings feed
        (session.run feed (Recorder.mk (PlacedImage.mk created place) []) journal).2.sink.calls
        ((session.run feed (PlacedImage.mk created place) journal).2.sink.directory.contentAt
          place) := by
  refine ⟨?_, ?_, ?_⟩
  · exact fun past => blank_leaves fresh Blank.memory past
  · exact fun past => blank_leaves fresh Blank.file past
  · intro directory created path place made past
    exact blank_leaves fresh (Blank.placed made) past

-- A stream with a container header that is cut off behind three pages: one past the declared size,
-- and one that is there twice, its second version from an earlier iteration.
theorem run_leaves_last_again :
    let late := Record.filled ⟨pageSize, 0, by decide, by decide⟩ 1
    let first := Record.filled ⟨0, 1, by decide, by decide⟩ 2
    let again := Record.filled ⟨0, 0, by decide, by decide⟩ 3
    let session : Session := ⟨overrunSettings, .init, none⟩
    let feed : Feed := [.piece (Container.Header.brief.encode ++ [0, 16, 0, 0]),
      .piece ([0, 0, 0, 0] ++ Record.join [late, first, again]), .piece [7], .ended]
    let directory : Directory := ⟨[(["image.bin"], .file [7, 7, 7])], []⟩
    Leaves session.settings feed
        (session.run feed (Recorder.mk (MemoryImage.mk []) []) .empty).2.sink.calls
        (session.run feed (MemoryImage.mk []) .empty).2.sink.bytes ∧
      ∃ place created, directory.createImage "image.bin" = .ok (place, created) ∧
        Leaves session.settings feed
          (session.run feed (Recorder.mk (PlacedImage.mk created place) []) .empty).2.sink.calls
          ((session.run feed (PlacedImage.mk created place) .empty).2.sink.directory.contentAt
            place) := by
  intro late first again session feed directory
  have fresh : session.stage = .init := rfl
  have headed : Headed session.settings feed.bytes (some .brief) Container.Header.brief.encode
      [0, 16, 0, 0, 0, 0, 0, 0] ⟨pageSize, rfl⟩ (Record.join [late, first, again] ++ [7]) := by
    have length := Container.Header.brief.encode_length
    refine ⟨?_, .header (.inl rfl) Container.Header.brief_reads length, rfl, by decide, ?_⟩
    · simp [feed, Feed.bytes]
    · intro _
      rw [length]
      decide
  obtain ⟨kept, opens⟩ := headed.opens
  have clean : feed.fault? = none := rfl
  have low := Whole.kept_le (Whole.opening_ok.mp opens).2.2.1
  have small : kept.length + pageSize < fileBound := by
    simp only [alignedLength, pageSize, fileBound] at *
    omega
  have fits : kept.length + pageSize < 2 ^ 64 := Nat.lt_trans small (by decide)
  have past {σ : Type} [ImageSink σ] {sink : σ} {view : σ → Bytes} (holding : Holding sink view) :
      (session.run feed sink .empty).1.Past := by
    refine (past_iff fresh holding).mpr ⟨undisturbed_of_small fresh holding .empty ?_, ?_⟩
    · intro length planned
      obtain ⟨opened, opens', -, rfl⟩ := Whole.resize_planned.mp planned
      rw [clean, opens] at opens'
      cases opens'
      exact small
    · rw [clean]
      exact ⟨_, opens, fits⟩
  obtain ⟨memory, -, file⟩ := run_leaves_last fresh feed .empty
  have made : directory.createImage "image.bin" = _ := Directory.createImage_anew [7, 7, 7]
  refine ⟨memory (past (.memory _)), _, _, made, ?_⟩
  exact file directory _ _ _ made (past (Blank.placed made).toHolding)

end Session

end PageStream
