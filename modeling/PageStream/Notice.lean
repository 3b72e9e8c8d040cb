import PageStream.Container.Header
import PageStream.Framer
import PageStream.Report
import PageStream.Source

namespace PageStream

inductive Level where
  | error
  | warn
  | info
  | debug
  deriving DecidableEq

def Level.name : Level → String
  | .error => "ERROR"
  | .warn => "WARN"
  | .info => "INFO"
  | .debug => "DEBUG"

inductive Notice where
  | payloadUnaligned (offset : Nat)
  | compressionUnsupported (mode : Container.Compression)
  | headerComplete (header : Container.Header)
  | headerFound (header : Container.Header)
  | headerAbsent
  | magicFinalized
  | nothingToKeep
  | sizeDeclared (size : DeclaredSize)
  | recordsUnclaimed (count : Nat)
  | recordsEnded (count bytes : Nat)
  | firstIteration (iteration : Nat)
  | nextIteration (iteration previous : Nat)
  | pageWritten (page iteration offset : Nat)
  | pageOverwritten (page iteration previous : Nat)
  | pageTwice (page iteration previous : Nat)
  | pageTwiceInIteration (page offset iteration : Nat)
  | pageRegressed (page iteration previous : Nat)
  | pageMissing (page : Nat)
  | pageBeyond (page size : Nat)
  | judged (report : Report)
  | streamDone (records bytes : Nat)
  | sessionFailed (stage : Stage) (failure : Failure)
  | awaiting (path : String)
  | arrived (path : String) (attempt : Nat)
  | imageCreated (path : String)

namespace Notice

def level : Notice → Level
  | .payloadUnaligned _ | .compressionUnsupported _ | .nothingToKeep | .recordsUnclaimed _
  | .pageTwice _ _ _ | .pageTwiceInIteration _ _ _ | .pageRegressed _ _ _ | .pageMissing _
  | .pageBeyond _ _ | .sessionFailed _ _ => .warn
  | .headerFound _ | .magicFinalized | .sizeDeclared _ | .firstIteration _ | .nextIteration _ _
  | .judged _ | .awaiting _ => .info
  | .headerComplete _ | .headerAbsent | .recordsEnded _ _ | .pageWritten _ _ _
  | .pageOverwritten _ _ _ | .streamDone _ _ | .arrived _ _ | .imageCreated _ => .debug

def message : Notice → String
  | .payloadUnaligned offset =>
    s!"container header length {offset} is not aligned with {alignedLength} bytes"
  | .compressionUnsupported mode =>
    s!"container compression mode {mode.name} is not supported, body is decoded as raw"
  | .headerComplete header =>
    s!"container header: state={header.tag.state.label}, " ++
      s!"descriptor_len={header.descriptorLength}, was_running={header.wasRunning}, " ++
      s!"payload_offset={header.payloadOffset}"
  | .headerFound header =>
    s!"container header: {header.tag.state.label} save, " ++
      s!"descriptor {header.descriptorLength} bytes, payload at {header.payloadOffset}"
  | .headerAbsent => "no container header, stream starts with the size header"
  | .magicFinalized => "container header: in-progress magic rewritten as final in the image"
  | .nothingToKeep => "no container header in stream, writing a flat image"
  | .sizeDeclared size => s!"declared image size: {size.bytes} bytes ({size.pages} pages)"
  | .recordsUnclaimed count => s!"framer: {count} complete record(s) were never consumed"
  | .recordsEnded count bytes =>
    s!"framer: clean end of stream, {count} record(s), {bytes} byte(s)"
  | .firstIteration iteration => s!"iteration {iteration}: first record"
  | .nextIteration iteration previous => s!"iteration {iteration}: start (previous {previous})"
  | .pageWritten page iteration offset => s!"page {page} (iter {iteration}) written at {offset}"
  | .pageOverwritten page iteration previous =>
    s!"page {page} overwritten by iteration {iteration} (was {previous})"
  | .pageTwice page iteration previous =>
    s!"duplicated page {page} (iteration {iteration} after {previous}) under strict policy"
  | .pageTwiceInIteration page offset iteration =>
    s!"duplicated page {page} (offset {offset}) within iteration {iteration}"
  | .pageRegressed page iteration previous =>
    s!"page {page} rewritten by older iteration {iteration} after iteration {previous}"
  | .pageMissing page => s!"page {page} is missing (offset {page * pageSize})"
  | .pageBeyond page size =>
    s!"page {page} (offset {page * pageSize}) is beyond declared size {size}"
  | .judged report => report.display
  | .streamDone records bytes =>
    s!"stream done: {records} record(s), {bytes} payload byte(s) after headers"
  | .sessionFailed stage failure => s!"session failed while {stage.label}: {failure.message}"
  | .awaiting path => s!"waiting for {path}"
  | .arrived path attempt => s!"source {path} appeared after {attempt} attempt(s)"
  | .imageCreated path => s!"image: created {path}"

end Notice

def Container.Header.notices (header : Container.Header) : List Notice :=
  (if header.isAligned then [] else [.payloadUnaligned header.payloadOffset]) ++
  (if header.compression = .raw then [] else [.compressionUnsupported header.compression]) ++
  [.headerComplete header]

-- What is said when a stream ends between records.
def Framer.endNotices (framer : Framer) : List Notice :=
  (if framer.ready.isEmpty then [] else [.recordsUnclaimed framer.ready.length]) ++
  [.recordsEnded framer.emitted framer.bytesIn]

def Report.notices (report : Report) : List Notice :=
  (report.firstMissing.map .pageMissing).toList ++
  (report.firstOutOfRange.map (.pageBeyond · report.declaredSize)).toList ++
  [.judged report]

def Arrival.notices (path : String) : Arrival → List Notice
  | .present => []
  | .appeared attempt => [.awaiting path, .arrived path attempt]
  | .late | .missing => [.awaiting path]

end PageStream
