import PageStream.Reconstructor
import PageStream.Settings

namespace PageStream

structure Session where
  settings : Settings
  stage : Stage := .init
  failedIn : Option Stage := none

structure Outcome where
  header : Option Container.Header
  declared : DeclaredSize
  base : Nat
  records : Nat
  bytesIn : Nat
  index : Index
  report : Report

structure Inlet where
  buffer : Bytes
  feed : Feed
  -- The feed has said that the stream ended; it is not asked again.
  ended : Bool
  journal : Journal

namespace Session

-- Collects bytes until they start with a complete container header, or cannot.
def takeHeader (mode : ContainerMode) (parser : Container.Parser) (buffer : Bytes) (feed : Feed)
    (journal : Journal) : Except Failure (Option Container.Header) × Inlet :=
  if magicLength ≤ buffer.length ∧ ¬ parser.recognizes buffer then
    if mode = .required then
      (.error (.malformed (.unknownMagic (buffer.take magicLength))),
        ⟨buffer, feed, false, journal⟩)
    else (.ok none, ⟨buffer, feed, false, journal.note .headerAbsent⟩)
  else
    match parser.parse buffer with
    | .error failure => (.error failure, ⟨buffer, feed, false, journal⟩)
    | .ok (some header) =>
      (.ok (some header), ⟨buffer.drop header.payloadOffset, feed, false,
        (journal.noteAll header.notices).note (.headerFound header)⟩)
    | .ok none =>
      let atEnd (rest : Feed) : Except Failure (Option Container.Header) × Inlet :=
        -- Too short even for a magic: whether this is a stream is up to the declared size.
        if mode ≠ .required ∧ buffer.length < magicLength then
          (.ok none, ⟨buffer, rest, true, journal⟩)
        else (.error (.malformed (.containerCut buffer.length)), ⟨buffer, rest, true, journal⟩)
      match feed with
      | [] => atEnd []
      | .ended :: rest => atEnd rest
      | .failed fault :: rest => (.error (.read fault), ⟨buffer, rest, false, journal⟩)
      | .piece bytes :: rest =>
        takeHeader mode parser (buffer ++ bytes) rest (journal.count (.delivery bytes.length))

def readHeader (settings : Settings) (feed : Feed) (journal : Journal) :
    Except Failure (Option Container.Header) × Inlet :=
  match settings.container with
  | .absent => (.ok none, ⟨[], feed, false, journal⟩)
  | mode => takeHeader mode settings.parser [] feed journal

def takeSize (buffer : Bytes) (ended : Bool) (feed : Feed) (journal : Journal) :
    Except Failure DeclaredSize × Inlet :=
  match DeclaredSize.parse buffer with
  | .error failure => (.error failure, ⟨buffer, feed, ended, journal⟩)
  | .ok (some size) =>
    (.ok size, ⟨buffer.drop sizeHeaderLength, feed, ended, journal.note (.sizeDeclared size)⟩)
  | .ok none =>
    let short (rest : Feed) : Except Failure DeclaredSize × Inlet :=
      (.error (.malformed (.sizeCut buffer.length)), ⟨buffer, rest, true, journal⟩)
    if ended then short feed else
    match feed with
    | [] => short []
    | .ended :: rest => short rest
    | .failed fault :: rest => (.error (.read fault), ⟨buffer, rest, false, journal⟩)
    | .piece bytes :: rest =>
      takeSize (buffer ++ bytes) false rest (journal.count (.delivery bytes.length))

variable {σ : Type} [ImageSink σ]

-- Announces the image's length. One that is no word breaks the run down before the image hears of it.
def announce (declared : DeclaredSize) (base : Nat) (sink : σ) (journal : Journal) :
    Except Failure Nat × σ × Journal :=
  if 2 ^ 64 ≤ base + declared.bytes then (.error .brokeDown, sink, journal)
  else
    match ImageSink.perform sink (.resize (base + declared.bytes)) with
    | (sink, some fault) => (.error (.write (base + declared.bytes) fault), sink, journal)
    | (sink, none) => (.ok base, sink, journal)

-- A kept header is written before the length is announced. Gives the base of the pages.
def prepare (layout : Layout) (header : Option Container.Header) (declared : DeclaredSize)
    (sink : σ) (journal : Journal) : Except Failure Nat × σ × Journal :=
  match layout, header with
  | .flat, _ => announce declared 0 sink journal
  | .withHeader, none => announce declared 0 sink (journal.note .nothingToKeep)
  | .withHeader, some header =>
    let journal :=
      if header.tag.state = .final then journal else journal.note .magicFinalized
    match header.finalized.encodeAligned alignedLength with
    | .error failure => (.error failure, sink, journal)
    | .ok bytes =>
      match ImageSink.perform sink (.write 0 bytes) with
      | (sink, some fault) => (.error (.write 0 fault), sink, journal)
      | (sink, none) => announce declared alignedLength sink journal

-- The records that a piece completes are applied one by one; the first failure names its record.
def applyAll (r : Reconstructor σ) (applied : Nat) :
    List Record → Except Failure Nat × Reconstructor σ
  | [] => (.ok applied, r)
  | record :: rest =>
    match r.pull.apply record with
    | (.error failure, r) => (.error (failure.inRecord applied), r)
    | (.ok _, r) => applyAll r (applied + 1) rest

structure Decoder (σ : Type) where
  framer : Framer
  reconstructor : Reconstructor σ
  applied : Nat

def absorb (d : Decoder σ) (piece : Bytes) : Except Failure Unit × Decoder σ :=
  let (records, framer) := (d.framer.feed piece).drain
  match applyAll d.reconstructor d.applied records with
  | (.error failure, reconstructor) => (.error failure, { d with framer, reconstructor })
  | (.ok applied, reconstructor) => (.ok (), ⟨framer, reconstructor, applied⟩)

def countDelivery (d : Decoder σ) (bytes : Nat) : Decoder σ :=
  { d with reconstructor := { d.reconstructor with
      journal := d.reconstructor.journal.count (.delivery bytes) } }

def absorbAll (d : Decoder σ) : Feed → Except Failure Unit × Decoder σ × Feed
  | [] => (.ok (), d, [])
  | .ended :: rest => (.ok (), d, rest)
  | .failed fault :: rest => (.error (.read fault), d, rest)
  | .piece bytes :: rest =>
    match absorb (countDelivery d bytes.length) bytes with
    | (.error failure, d) => (.error failure, d, rest)
    | (.ok _, d) => absorbAll d rest

-- Closes the record stream: no record may be incomplete, and the image is flushed.
def conclude (d : Decoder σ) : Except Failure (Nat × Index) × Reconstructor σ :=
  match d.framer.finish with
  | .error failure => (.error failure, d.reconstructor)
  | .ok records =>
    let r := { d.reconstructor with
      journal := d.reconstructor.journal.noteAll d.framer.endNotices }
    match r.finish with
    | (.error failure, r) => (.error failure, r)
    | (.ok index, r) =>
      (.ok (records, index),
        { r with journal := r.journal.note (.streamDone records d.framer.bytesIn) })

structure Run (σ : Type) where
  stage : Stage
  result : Except Failure Outcome
  feed : Feed
  sink : σ
  journal : Journal

def stream (policy : Policy) (header : Option Container.Header) (declared : DeclaredSize)
    (base : Nat) (inlet : Inlet) (sink : σ) (journal : Journal) : Run σ :=
  let failed (failure : Failure) (r : Reconstructor σ) (feed : Feed) : Run σ :=
    ⟨.streamingRecords, .error failure, feed, r.sink, r.journal⟩
  match absorb ⟨.empty, .start sink policy base journal, 0⟩ inlet.buffer with
  | (.error failure, d) => failed failure d.reconstructor inlet.feed
  | (.ok _, d) =>
    match if inlet.ended then (.ok (), d, inlet.feed) else absorbAll d inlet.feed with
    | (.error failure, d, feed) => failed failure d.reconstructor feed
    | (.ok _, d, feed) =>
      match conclude d with
      | (.error failure, r) => failed failure r feed
      | (.ok (records, index), r) =>
        let report := Report.ofIndex index declared policy
        { stage := .validating
          result := .ok ⟨header, declared, base, records, d.framer.bytesIn, index, report⟩
          feed
          sink := r.sink
          journal := r.journal.noteAll report.notices }

-- One pass through a stream; the stage is the last one that was entered.
def decode (settings : Settings) (feed : Feed) (sink : σ) (journal : Journal) : Run σ :=
  match readHeader settings feed journal with
  | (.error failure, inlet) =>
    ⟨.readingContainerHeader, .error failure, inlet.feed, sink, inlet.journal⟩
  | (.ok header, inlet) =>
    match takeSize inlet.buffer inlet.ended inlet.feed inlet.journal with
    | (.error failure, inlet) =>
      ⟨.readingSizeHeader, .error failure, inlet.feed, sink, inlet.journal⟩
    | (.ok declared, inlet) =>
      match prepare settings.layout header declared sink inlet.journal with
      | (.error failure, sink, journal) =>
        ⟨.readingSizeHeader, .error failure, inlet.feed, sink, journal⟩
      | (.ok base, sink, journal) =>
        stream settings.policy header declared base inlet sink journal

-- What a session makes of its pass through a stream. One that breaks down stays in the stage it was
-- in, and neither counts nor says anything.
def settle (session : Session) (run : Run σ) : Session × Run σ :=
  match run.result with
  | .ok outcome =>
    let tally := if outcome.report.passed then .sessionPassed else .sessionFailed
    ({ session with stage := .done }, { run with journal := run.journal.count tally })
  | .error failure =>
    if failure = .brokeDown then ({ session with stage := run.stage }, run)
    else
      ({ session with stage := .failed, failedIn := some run.stage },
        { run with
          journal := (run.journal.note (.sessionFailed run.stage failure)).count .sessionAborted })

-- A session that has run refuses to run again and touches nothing.
def run (session : Session) (feed : Feed) (sink : σ) (journal : Journal) : Session × Run σ :=
  if session.stage ≠ .init then
    (session,
      ⟨session.stage, .error (.malformed (.sessionUsed session.stage)), feed, sink, journal⟩)
  else session.settle (decode session.settings feed sink journal)

end Session

end PageStream
