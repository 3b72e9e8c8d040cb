import PageStream.Text.Json

namespace PageStream

structure Metrics where
  deliveries : UInt64 := 0
  bytesIn : UInt64 := 0
  recordsFramed : UInt64 := 0
  pagesWritten : UInt64 := 0
  pageOverwrites : UInt64 := 0
  sameIterationDuplicates : UInt64 := 0
  regressions : UInt64 := 0
  sessionsPassed : UInt64 := 0
  sessionsFailed : UInt64 := 0
  sessionsAborted : UInt64 := 0
  deriving DecidableEq

inductive Tally where
  | delivery (bytes : Nat)
  | framed (records : Nat)
  | pageWritten
  | overwrite
  | sameIteration
  | regression
  | sessionPassed
  | sessionFailed
  | sessionAborted
  deriving DecidableEq

namespace Metrics

def count (metrics : Metrics) : Tally → Metrics
  | .delivery bytes => { metrics with
      deliveries := metrics.deliveries + 1
      bytesIn := metrics.bytesIn + UInt64.ofNat bytes }
  | .framed records => { metrics with
      recordsFramed := metrics.recordsFramed + UInt64.ofNat records }
  | .pageWritten => { metrics with pagesWritten := metrics.pagesWritten + 1 }
  | .overwrite => { metrics with pageOverwrites := metrics.pageOverwrites + 1 }
  | .sameIteration => { metrics with
      sameIterationDuplicates := metrics.sameIterationDuplicates + 1 }
  | .regression => { metrics with regressions := metrics.regressions + 1 }
  | .sessionPassed => { metrics with sessionsPassed := metrics.sessionsPassed + 1 }
  | .sessionFailed => { metrics with sessionsFailed := metrics.sessionsFailed + 1 }
  | .sessionAborted => { metrics with sessionsAborted := metrics.sessionsAborted + 1 }

-- Bytes per delivery; zero before the first one.
def averageDelivery (metrics : Metrics) : Float :=
  if metrics.deliveries = 0 then 0 else metrics.bytesIn.toFloat / metrics.deliveries.toFloat

def json (metrics : Metrics) : Text.Json :=
  .object [
    ("deliveries_total", .number metrics.deliveries.toNat),
    ("bytes_in", .number metrics.bytesIn.toNat),
    ("records_framed", .number metrics.recordsFramed.toNat),
    ("pages_written", .number metrics.pagesWritten.toNat),
    ("page_overwrites", .number metrics.pageOverwrites.toNat),
    ("same_gen_duplicates", .number metrics.sameIterationDuplicates.toNat),
    ("gen_regressions", .number metrics.regressions.toNat),
    ("sessions_passed", .number metrics.sessionsPassed.toNat),
    ("sessions_failed", .number metrics.sessionsFailed.toNat),
    ("sessions_aborted", .number metrics.sessionsAborted.toNat)]

end Metrics

end PageStream
