import PageStream.Proofs.Asking

namespace PageStream

namespace Checked

def slice (bytes : Bytes) (start stop : Nat) : Option Bytes :=
  if start ≤ stop ∧ stop ≤ bytes.length then some ((bytes.take stop).drop start) else none

def behind (bytes : Bytes) (count : Nat) : Option Bytes :=
  if count ≤ bytes.length then some (bytes.drop count) else none

def splitAt (bytes : Bytes) (count : Nat) : Option (Bytes × Bytes) :=
  if count ≤ bytes.length then some (bytes.take count, bytes.drop count) else none

def place (bytes : Bytes) (start stop : Nat) (data : Bytes) : Option Bytes :=
  if start ≤ stop ∧ stop ≤ bytes.length ∧ stop - start = data.length then
    some (bytes.take start ++ (data ++ bytes.drop stop))
  else none

def minus (one two : Nat) : Option Nat := if two ≤ one then some (one - two) else none

def plus (one two : Nat) : Option Nat := if one + two < 2 ^ 64 then some (one + two) else none

def times (one two : Nat) : Option Nat := if one * two < 2 ^ 64 then some (one * two) else none

def word (bytes : Bytes) (start width : Nat) : Option Nat :=
  (slice bytes start (start + width)).map ofLe

variable {bytes : Bytes}

theorem slice_eq {start stop : Nat} (order : start ≤ stop) (inside : stop ≤ bytes.length) :
    slice bytes start stop = some ((bytes.take stop).drop start) := if_pos ⟨order, inside⟩

theorem slice_front {stop : Nat} (inside : stop ≤ bytes.length) :
    slice bytes 0 stop = some (bytes.take stop) := slice_eq (Nat.zero_le stop) inside

theorem behind_eq {count : Nat} (inside : count ≤ bytes.length) :
    behind bytes count = some (bytes.drop count) := if_pos inside

theorem splitAt_eq {count : Nat} (inside : count ≤ bytes.length) :
    splitAt bytes count = some (bytes.take count, bytes.drop count) := if_pos inside

theorem minus_eq {one two : Nat} (order : two ≤ one) : minus one two = some (one - two) :=
  if_pos order

theorem plus_eq {one two : Nat} (room : one + two < 2 ^ 64) : plus one two = some (one + two) :=
  if_pos room

theorem times_eq {one two : Nat} (room : one * two < 2 ^ 64) : times one two = some (one * two) :=
  if_pos room

theorem word_eq {start width : Nat} (inside : start + width ≤ bytes.length) :
    word bytes start width = some (wordAt bytes start width) := by
  rw [word, slice_eq (Nat.le_add_right start width) inside, wordAt, List.drop_take,
    Nat.add_sub_cancel_left]
  rfl

end Checked

-- A call that leaves room for the place behind it.
def ImageCall.InRange : ImageCall → Prop
  | .resize length => length < 2 ^ 64
  | .write offset data => offset + data.length < 2 ^ 64
  | .flush => True

-- A sink whose own steps are checked. None of them goes out of range for a call that is in range.
structure ImageSink.Checked (σ : Type) [ImageSink σ] where
  perform : σ → ImageCall → Option (σ × Option DeviceFault)
  sound : ∀ sink call, call.InRange → perform sink call = some (ImageSink.perform sink call)

-- The image in memory copies into a range of its own bytes, which it makes room for.
def MemoryImage.perform (image : MemoryImage) :
    ImageCall → Option (MemoryImage × Option DeviceFault)
  | .resize length => some (⟨grow image.bytes length⟩, none)
  | .write offset data => do
    let stop ← Checked.plus offset data.length
    let bytes ← Checked.place (grow image.bytes stop) offset stop data
    return (⟨bytes⟩, none)
  | .flush => some (image, none)

theorem place_grown (bytes : Bytes) (offset : Nat) (data : Bytes) :
    Checked.place (grow bytes (offset + data.length)) offset (offset + data.length) data =
      some (overwrite bytes offset data) := by
  have room : offset + data.length ≤ (grow bytes (offset + data.length)).length := by
    rw [grow_length]
    exact Nat.le_max_right _ _
  rw [Checked.place, if_pos ⟨Nat.le_add_right _ _, room, Nat.add_sub_cancel_left _ _⟩, overwrite,
    grow]
  have front : (bytes ++ List.replicate (offset + data.length - bytes.length) 0).take offset =
      bytes.take offset ++ List.replicate (offset - bytes.length) 0 := by
    rw [List.take_append, List.take_replicate, Nat.min_eq_left (by omega)]
  have back : (bytes ++ List.replicate (offset + data.length - bytes.length) 0).drop
      (offset + data.length) = bytes.drop (offset + data.length) := by
    rw [List.drop_append, List.drop_replicate, Nat.sub_self, List.replicate_zero, List.append_nil]
  rw [front, back, List.append_assoc]

def MemoryImage.checked : ImageSink.Checked MemoryImage where
  perform := MemoryImage.perform
  sound image call fits := by
    cases call with
    | resize length => rfl
    | write offset data =>
      have stop : Checked.plus offset data.length = some (offset + data.length) :=
        Checked.plus_eq fits
      simp only [perform, stop, Option.bind_eq_bind, Option.bind_some, place_grown]
      rfl
    | flush => rfl

-- Any sink can be taken as one that has no such steps.
instance (σ : Type) [ImageSink σ] : Inhabited (ImageSink.Checked σ) where
  default := ⟨fun sink call => some (ImageSink.perform sink call), fun _ _ _ => rfl⟩

namespace Checked

open Container

def recognizes (parser : Parser) (buffer : Bytes) : Option Bool :=
  if magicLength ≤ buffer.length then
    (slice buffer 0 magicLength).map fun magic => (parser.match? magic).isSome
  else some false

theorem recognizes_eq (parser : Parser) (buffer : Bytes) :
    recognizes parser buffer = some (parser.recognizes buffer) := by
  by_cases long : magicLength ≤ buffer.length
  · simp only [recognizes, Parser.recognizes, long, if_true, slice_front long, Option.map_some,
      decide_true, Bool.true_and]
  · simp only [recognizes, Parser.recognizes, long, if_false, decide_false, Bool.false_and]

def firstReserved (fixed : Bytes) : List Nat → Option (Option (Nat × Nat))
  | [] => some none
  | index :: rest => do
    let reserved ← word fixed (reservedStart + 4 * index) 4
    if reserved != 0 then return some (index, reserved) else firstReserved fixed rest

def parseFixed (parser : Parser) (fixed : Bytes) : Option (Except Failure FixedPart) := do
  let magic ← slice fixed 0 magicLength
  match parser.match? magic with
  | none => return .error (.malformed (.unknownMagic magic))
  | some tag =>
    let version ← word fixed versionStart 4
    if version ≠ containerVersion then
      return .error (.malformed (.unsupportedVersion version))
    else
    match ← firstReserved fixed (List.range reservedWords) with
    | some (index, reserved) => return .error (.malformed (.reservedNotZero index reserved))
    | none =>
      let descriptorLength ← word fixed descriptorLengthStart 4
      let running ← word fixed runningStart 4
      let compression ← word fixed compressionStart 4
      return .ok ⟨tag, descriptorLength, running != 0, .ofCode compression⟩

theorem firstReserved_eq {fixed : Bytes} (long : fixedLength ≤ fixed.length) (indices : List Nat)
    (small : ∀ index ∈ indices, index < reservedWords) :
    firstReserved fixed indices =
      some ((indices.find? (Parser.reservedWord fixed · != 0)).map fun index =>
        (index, Parser.reservedWord fixed index)) := by
  induction indices with
  | nil => rfl
  | cons index rest ih =>
    obtain ⟨here, later⟩ := List.forall_mem_cons.mp small
    have inside : reservedStart + 4 * index + 4 ≤ fixed.length := by
      simp only [fixedLength] at long
      omega
    have read : word fixed (reservedStart + 4 * index) 4 =
      some (Parser.reservedWord fixed index) := word_eq inside
    rw [firstReserved, read]
    cases zero : Parser.reservedWord fixed index != 0 with
    | true =>
      rw [List.find?_cons_of_pos (by exact zero)]
      simp only [Option.bind_eq_bind, Option.bind_some, zero, if_true]
      rfl
    | false =>
      rw [List.find?_cons_of_neg (by simp [zero]), ← ih later]
      simp only [Option.bind_eq_bind, Option.bind_some, zero, Bool.false_eq_true, if_false]

theorem parseFixed_eq (parser : Parser) {fixed : Bytes} (long : fixedLength ≤ fixed.length) :
    parseFixed parser fixed = some (parser.parseFixed fixed) := by
  have field (start : Nat) (inside : start + 4 ≤ fixedLength) :
      word fixed start 4 = some (wordAt fixed start 4) := word_eq (Nat.le_trans inside long)
  have magic : slice fixed 0 magicLength = some (fixed.take magicLength) :=
    slice_front (Nat.le_trans (by decide) long)
  have reserved := firstReserved_eq long (List.range reservedWords)
    fun index member => List.mem_range.mp member
  simp only [parseFixed, Parser.parseFixed, magic, Option.bind_eq_bind, Option.bind_some,
    field versionStart (by decide), field descriptorLengthStart (by decide),
    field runningStart (by decide), field compressionStart (by decide),
    reserved]
  cases parser.match? (fixed.take magicLength) with
  | none => rfl
  | some tag =>
    dsimp only
    split
    · rfl
    · cases (List.range reservedWords).find? (Parser.reservedWord fixed · != 0) <;> rfl

def payloadOffset (header : Header) : Option Nat := plus fixedLength header.descriptor.length

def parse (parser : Parser) (buffer : Bytes) : Option (Except Failure (Option Header)) :=
  if buffer.length < fixedLength then some (.ok none) else do
  let front ← slice buffer 0 fixedLength
  match ← parseFixed parser front with
  | .error failure => return .error failure
  | .ok fixed =>
    let stop ← plus fixedLength fixed.descriptorLength
    if buffer.length < stop then return .ok none else
    let descriptor ← slice buffer fixedLength stop
    return (Parser.complete fixed descriptor).map some

theorem wordAt_lt (bytes : Bytes) (start : Nat) : wordAt bytes start 4 < 2 ^ 32 := by
  have short : ((bytes.drop start).take 4).length ≤ 4 := List.length_take_le _ _
  exact Nat.lt_of_lt_of_le (ofLe_lt _) (Nat.pow_le_pow_right (n := 256) (by decide) short)

-- The length of a descriptor comes from four bytes.
theorem fixedLength_room {length : Nat} (small : length < 2 ^ 32) :
    fixedLength + length < 2 ^ 64 := by
  have fixed : fixedLength = 92 := rfl
  omega

theorem parse_eq (parser : Parser) (buffer : Bytes) :
    parse parser buffer = some (parser.parse buffer) := by
  by_cases short : buffer.length < fixedLength
  · simp only [parse, Parser.parse, short, if_true]
  · have long : fixedLength ≤ buffer.length := Nat.le_of_not_lt short
    have whole : fixedLength ≤ (buffer.take fixedLength).length := by
      rw [List.length_take]
      omega
    simp only [parse, Parser.parse, if_neg short, slice_front long, Option.bind_eq_bind,
      Option.bind_some, parseFixed_eq parser whole]
    cases fixed : parser.parseFixed (buffer.take fixedLength) with
    | error failure => rfl
    | ok part =>
      have small : part.descriptorLength < 2 ^ 32 := by
        rw [(Parser.parseFixed_ok.mp fixed).2.2.2.1]
        exact wordAt_lt _ _
      simp only [plus_eq (fixedLength_room small), Option.bind_some]
      split
      · rfl
      · have cut := slice_eq (Nat.le_add_right fixedLength part.descriptorLength)
          (Nat.le_of_not_lt ‹¬buffer.length < fixedLength + part.descriptorLength›)
        rw [List.drop_take, Nat.add_sub_cancel_left] at cut
        simp only [cut, Option.bind_some]
        rfl

theorem payloadOffset_lt {parser : Parser} {buffer : Bytes} {header : Header}
    (reads : parser.Reads buffer header) : header.payloadOffset < 2 ^ 64 := by
  have small := wordAt_lt buffer descriptorLengthStart
  rw [reads.lengthWord] at small
  exact fixedLength_room small

theorem payloadOffset_eq {header : Header} (fits : header.payloadOffset < 2 ^ 64) :
    payloadOffset header = some header.payloadOffset := plus_eq fits

def resize (bytes : Bytes) (length : Nat) : Bytes :=
  bytes.take length ++ List.replicate (length - bytes.length) 0

def encodeAligned (header : Header) (boundary : Nat) : Option (Except Failure Bytes) := do
  let current ← payloadOffset header
  if boundary < current then
    return .error (.overflow (.longHeader current boundary))
  else
    let room ← minus boundary fixedLength
    return .ok { header with descriptor := resize header.descriptor room }.encode

theorem encodeAligned_eq {header : Header} (fits : header.payloadOffset < 2 ^ 64)
    (boundary : Nat) : encodeAligned header boundary = some (header.encodeAligned boundary) := by
  simp only [encodeAligned, Header.encodeAligned, payloadOffset_eq fits, Option.bind_eq_bind,
    Option.bind_some]
  split
  · rfl
  · rename_i fits
    simp only [Header.payloadOffset] at fits ⊢
    have room : minus boundary fixedLength = some (boundary - fixedLength) := minus_eq (by omega)
    have same : resize header.descriptor (boundary - fixedLength) = header.descriptor ++
        List.replicate (boundary - (fixedLength + header.descriptor.length)) 0 := by
      rw [resize, List.take_of_length_le (by omega), Nat.sub_sub]
    simp only [room, Option.bind_some, same]
    rfl

-- What is made of the bytes collected so far; nothing if it takes more of them.
def search (mode : ContainerMode) (parser : Parser) (buffer : Bytes) (journal : Journal) :
    Option (Option (Except Failure (Option Header) × Bytes × Journal)) := do
  let known ← recognizes parser buffer
  if magicLength ≤ buffer.length ∧ ¬ known then
    if mode = .required then
      let magic ← slice buffer 0 magicLength
      return some (.error (.malformed (.unknownMagic magic)), buffer, journal)
    else return some (.ok none, buffer, journal.note .headerAbsent)
  else
    match ← parse parser buffer with
    | .error failure => return some (.error failure, buffer, journal)
    | .ok (some header) =>
      let used ← payloadOffset header
      let left ← behind buffer used
      return some (.ok (some header), left,
        (journal.noteAll header.notices).note (.headerFound header))
    | .ok none => return none

def takeHeader (mode : ContainerMode) (parser : Parser) (buffer : Bytes) (feed : Feed)
    (journal : Journal) : Option (Except Failure (Option Header) × Inlet) :=
  match search mode parser buffer journal with
  | none => none
  | some (some (result, left, journal)) => some (result, ⟨left, feed, false, journal⟩)
  | some none =>
    match feed with
    | [] => some (Whole.undecided mode buffer.length none, ⟨buffer, [], true, journal⟩)
    | .ended :: rest =>
      some (Whole.undecided mode buffer.length none, ⟨buffer, rest, true, journal⟩)
    | .failed fault :: rest => some (.error (.read fault), ⟨buffer, rest, false, journal⟩)
    | .piece bytes :: rest =>
      takeHeader mode parser (buffer ++ bytes) rest (journal.count (.delivery bytes.length))

theorem search_unknown {mode : ContainerMode} {parser : Parser} {buffer : Bytes}
    (unknown : magicLength ≤ buffer.length ∧ ¬ parser.recognizes buffer = true)
    (journal : Journal) :
    search mode parser buffer journal =
      some (some (if mode = .required then
        (.error (.malformed (.unknownMagic (buffer.take magicLength))), buffer, journal)
      else (.ok none, buffer, journal.note .headerAbsent))) := by
  rw [search, recognizes_eq, Option.bind_eq_bind, Option.bind_some, if_pos unknown,
    slice_front unknown.1]
  split <;> rfl

theorem search_known {mode : ContainerMode} {parser : Parser} {buffer : Bytes}
    (known : ¬ (magicLength ≤ buffer.length ∧ ¬ parser.recognizes buffer = true))
    (journal : Journal) :
    search mode parser buffer journal = some (match parser.parse buffer with
      | .error failure => some (.error failure, buffer, journal)
      | .ok (some header) => some (.ok (some header), buffer.drop header.payloadOffset,
          (journal.noteAll header.notices).note (.headerFound header))
      | .ok none => none) := by
  simp only [search, recognizes_eq, parse_eq, Option.bind_eq_bind, Option.bind_some, if_neg known]
  cases parsed : parser.parse buffer with
  | error failure => rfl
  | ok header =>
    cases header with
    | none => rfl
    | some header =>
      have reads := Parser.parse_exact.mp parsed
      simp only [payloadOffset_eq (payloadOffset_lt reads), behind_eq reads.enough,
        Option.bind_some]
      rfl

theorem takeHeader_eq (mode : ContainerMode) (parser : Parser) (buffer : Bytes) (feed : Feed)
    (journal : Journal) : takeHeader mode parser buffer feed journal =
      some (Session.takeHeader mode parser buffer feed journal) := by
  induction buffer, feed, journal using Session.takeHeader.induct mode parser with
  | case1 feed buffer journal unknown wanted =>
    rw [takeHeader.eq_def, Session.takeHeader, search_unknown unknown, if_pos unknown,
      if_pos wanted, if_pos wanted]
  | case2 feed buffer journal unknown optional =>
    rw [takeHeader.eq_def, Session.takeHeader, search_unknown unknown, if_pos unknown,
      if_neg optional, if_neg optional]
  | case3 feed buffer journal known failure parsed =>
    rw [takeHeader.eq_def, Session.takeHeader, search_known known, if_neg known, parsed]
  | case4 feed buffer journal known header parsed =>
    rw [takeHeader.eq_def, Session.takeHeader, search_known known, if_neg known, parsed]
  | case5 buffer journal known waiting =>
    rw [(Session.takeHeader_ended mode known waiting journal).1, takeHeader,
      search_known known, waiting]
  | case6 buffer journal known waiting rest =>
    rw [(Session.takeHeader_ended mode known waiting journal).2, takeHeader,
      search_known known, waiting]
  | case7 buffer journal known waiting fault rest =>
    rw [takeHeader, Session.takeHeader, search_known known, if_neg known, waiting]
  | case8 buffer journal known waiting bytes rest ih =>
    rw [takeHeader, Session.takeHeader, search_known known, if_neg known, waiting]
    exact ih

def readHeader (settings : Settings) (feed : Feed) (journal : Journal) :
    Option (Except Failure (Option Header) × Inlet) :=
  match settings.container with
  | .absent => some (.ok none, ⟨[], feed, false, journal⟩)
  | mode => takeHeader mode settings.parser [] feed journal

theorem readHeader_eq (settings : Settings) (feed : Feed) (journal : Journal) :
    readHeader settings feed journal = some (Session.readHeader settings feed journal) := by
  rw [readHeader, Session.readHeader]
  cases settings.container with
  | absent => rfl
  | auto => exact takeHeader_eq .auto settings.parser [] feed journal
  | required => exact takeHeader_eq .required settings.parser [] feed journal

def parseSize (buffer : Bytes) : Option (Except Failure (Option DeclaredSize)) :=
  if buffer.length < sizeHeaderLength then some (.ok none)
  else (word buffer 0 sizeHeaderLength).map fun bytes => (DeclaredSize.ofBytes bytes).map some

theorem parseSize_eq (buffer : Bytes) : parseSize buffer = some (DeclaredSize.parse buffer) := by
  rw [parseSize, DeclaredSize.parse]
  split
  · rfl
  · have long : sizeHeaderLength ≤ buffer.length := by omega
    rw [word_eq (by rwa [Nat.zero_add]), Option.map_some]

def takeSize (buffer : Bytes) (ended : Bool) (feed : Feed) (journal : Journal) :
    Option (Except Failure DeclaredSize × Inlet) :=
  match parseSize buffer with
  | none => none
  | some (.error failure) => some (.error failure, ⟨buffer, feed, ended, journal⟩)
  | some (.ok (some size)) =>
    (behind buffer sizeHeaderLength).map fun left =>
      (.ok size, ⟨left, feed, ended, journal.note (.sizeDeclared size)⟩)
  | some (.ok none) =>
    let short (rest : Feed) : Option (Except Failure DeclaredSize × Inlet) :=
      some (.error (.malformed (.sizeCut buffer.length)), ⟨buffer, rest, true, journal⟩)
    if ended then short feed else
    match feed with
    | [] => short []
    | .ended :: rest => short rest
    | .failed fault :: rest => some (.error (.read fault), ⟨buffer, rest, false, journal⟩)
    | .piece bytes :: rest =>
      takeSize (buffer ++ bytes) false rest (journal.count (.delivery bytes.length))

theorem takeSize_eq (buffer : Bytes) (ended : Bool) (feed : Feed) (journal : Journal) :
    takeSize buffer ended feed journal = some (Session.takeSize buffer ended feed journal) := by
  induction buffer, ended, feed, journal using Session.takeSize.induct with
  | case1 feed buffer ended journal failure parsed =>
    rw [takeSize.eq_def, Session.takeSize.eq_def, parseSize_eq, parsed]
  | case2 feed buffer ended journal size parsed =>
    have decided : DeclaredSize.parse buffer ≠ .ok none := by
      intro waiting
      rw [parsed] at waiting
      cases waiting
    have long := DeclaredSize.parse_long decided
    rw [takeSize.eq_def, Session.takeSize.eq_def, parseSize_eq, parsed]
    simp only [behind_eq long, Option.map_some]
  | case3 feed buffer journal waiting =>
    rw [takeSize.eq_def, Session.takeSize.eq_def, parseSize_eq, waiting]
    rfl
  | case4 buffer ended journal waiting running =>
    rw [takeSize, Session.takeSize, parseSize_eq, waiting]
    simp only [if_neg running]
  | case5 buffer ended journal waiting running rest =>
    rw [takeSize, Session.takeSize, parseSize_eq, waiting]
    simp only [if_neg running]
  | case6 buffer ended journal waiting running fault rest =>
    rw [takeSize, Session.takeSize, parseSize_eq, waiting]
    simp only [if_neg running]
  | case7 buffer ended journal waiting running bytes rest ih =>
    rw [takeSize, Session.takeSize, parseSize_eq, waiting]
    simp only [if_neg running, ih]

def headers (settings : Settings) (feed : Feed) (journal : Journal) :
    Option (Except (Stage × Failure) (Option Header × DeclaredSize) × Inlet) := do
  match ← readHeader settings feed journal with
  | (.error failure, inlet) => return (.error (.readingContainerHeader, failure), inlet)
  | (.ok header, inlet) =>
    match ← takeSize inlet.buffer inlet.ended inlet.feed inlet.journal with
    | (.error failure, inlet) => return (.error (.readingSizeHeader, failure), inlet)
    | (.ok declared, inlet) => return (.ok (header, declared), inlet)

theorem headers_eq (settings : Settings) (feed : Feed) (journal : Journal) :
    headers settings feed journal = some (Session.headers settings feed journal) := by
  simp only [headers, Session.headers, readHeader_eq, takeSize_eq, Option.bind_eq_bind,
    Option.bind_some]
  rcases Session.readHeader settings feed journal with ⟨failure | header, inlet⟩
  · rfl
  · dsimp only
    rcases Session.takeSize inlet.buffer inlet.ended inlet.feed inlet.journal
      with ⟨failure | declared, inlet⟩ <;> rfl

variable {σ : Type} [ImageSink σ]

def announce (checked : ImageSink.Checked σ) (declared : DeclaredSize) (base : Nat) (sink : σ)
    (journal : Journal) : Option (Except Failure Nat × σ × Journal) := do
  let length ← plus base declared.bytes
  match ← checked.perform sink (.resize length) with
  | (sink, some fault) => return (.error (.write length fault), sink, journal)
  | (sink, none) => return (.ok base, sink, journal)

def prepare (checked : ImageSink.Checked σ) (layout : Layout) (header : Option Header)
    (declared : DeclaredSize) (sink : σ) (journal : Journal) :
    Option (Except Failure Nat × σ × Journal) :=
  match layout, header with
  | .flat, _ => announce checked declared 0 sink journal
  | .withHeader, none => announce checked declared 0 sink (journal.note .nothingToKeep)
  | .withHeader, some header => do
    let journal := if header.tag.state = .final then journal else journal.note .magicFinalized
    match ← encodeAligned header.finalized alignedLength with
    | .error failure => return (.error failure, sink, journal)
    | .ok bytes =>
      match ← checked.perform sink (.write 0 bytes) with
      | (sink, some fault) => return (.error (.write 0 fault), sink, journal)
      | (sink, none) => announce checked declared alignedLength sink journal

theorem announce_eq (checked : ImageSink.Checked σ) {declared : DeclaredSize} {base : Nat}
    (room : base + declared.bytes < 2 ^ 64) (sink : σ) (journal : Journal) :
    announce checked declared base sink journal =
      some (Session.announce declared base sink journal) := by
  rw [Session.announce_word room]
  simp only [announce, plus_eq room, Option.bind_eq_bind, Option.bind_some,
    checked.sound sink (.resize (base + declared.bytes)) room]
  rcases ImageSink.perform sink (.resize (base + declared.bytes)) with ⟨sink, _ | fault⟩ <;> rfl

theorem prepare_eq (checked : ImageSink.Checked σ) {layout : Layout} {header : Option Header}
    {declared : DeclaredSize}
    (fits : ∀ found, header = some found → found.payloadOffset < 2 ^ 64)
    (room : ∀ kept, Whole.kept layout header = .ok kept →
      kept.length + declared.bytes < 2 ^ 64) (sink : σ) (journal : Journal) :
    prepare checked layout header declared sink journal =
      some (Session.prepare layout header declared sink journal) := by
  match layout, header with
  | .flat, _ => exact announce_eq checked (room [] rfl) sink journal
  | .withHeader, none => exact announce_eq checked (room [] rfl) sink _
  | .withHeader, some header =>
    have fits : header.finalized.payloadOffset < 2 ^ 64 := fits header rfl
    simp only [prepare, Session.prepare, encodeAligned_eq fits, Option.bind_eq_bind,
      Option.bind_some]
    cases encoded : header.finalized.encodeAligned alignedLength with
    | error failure => rfl
    | ok bytes =>
      have aligned : bytes.length = alignedLength := Header.encodeAligned_length encoded
      have fits : (ImageCall.write 0 bytes).InRange := by
        rw [ImageCall.InRange, aligned]
        decide
      have room := room bytes encoded
      rw [aligned] at room
      simp only [checked.sound sink (.write 0 bytes) fits, Option.bind_some]
      rcases ImageSink.perform sink (.write 0 bytes) with ⟨next, _ | fault⟩
      · exact announce_eq checked room next _
      · rfl

end Checked

end PageStream
