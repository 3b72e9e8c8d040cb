import PageStream.DeclaredSize
import PageStream.Index
import PageStream.Text.Json

namespace PageStream

structure Report where
  passed : Bool
  declaredSize : Nat
  expectedPages : Nat
  distinctPages : Nat
  records : Nat
  perIteration : Ledger Nat
  firstMissing : Option Nat
  firstOutOfRange : Option Nat
  -- Duplicates that count against the image; always none under the generation-aware policy.
  failingDuplicates : Nat
  anomalies : List Anomaly

namespace Report

def countedDuplicates (policy : Policy) (index : Index) : Nat :=
  match policy with
  | .strict => index.duplicates
  | .generationAware => 0

def ofIndex (index : Index) (declared : DeclaredSize) (policy : Policy) : Report :=
  let firstMissing := index.firstMissing declared.pages
  let firstOutOfRange := index.firstAtOrBeyond declared.pages
  let failingDuplicates := countedDuplicates policy index
  { passed := firstMissing.isNone && firstOutOfRange.isNone && failingDuplicates == 0
    declaredSize := declared.bytes
    expectedPages := declared.pages
    distinctPages := index.distinctPages
    records := index.records
    perIteration := index.perIteration
    firstMissing
    firstOutOfRange
    failingDuplicates
    anomalies := index.anomalies }

def sameGenerationDuplicates (report : Report) : Nat :=
  report.anomalies.countP (·.kind == .sameGenerationDuplicate)

def findings (report : Report) : List String :=
  (report.firstMissing.map fun page => s!"page {page} is missing").toList ++
  (report.firstOutOfRange.map fun page =>
    s!"page {page} beyond declared size {report.declaredSize}").toList ++
  (if 0 < report.failingDuplicates then [s!"{report.failingDuplicates} duplicated page(s)"] else [])

def display (report : Report) : String :=
  if report.passed then
    s!"PASS: {report.distinctPages} pages ({report.records} records processed)" ++
      String.join (report.perIteration.entries.map fun (iteration, count) =>
        s!", iter {iteration}: {count}") ++
      (if report.anomalies.isEmpty then "" else s!", {report.anomalies.length} anomaly(ies)")
  else
    "FAIL: " ++ String.intercalate "; " report.findings ++
      s!" ({report.distinctPages} of {report.expectedPages} pages present)"

def anomalyJson (anomaly : Anomaly) : Text.Json :=
  .object [("page_index", .number anomaly.page), ("iteration_seq", .number anomaly.iteration),
    ("previous_seq", .number anomaly.previous), ("kind", .text anomaly.kind.key)]

def json (report : Report) : Text.Json :=
  .object [
    ("verdict", .text (if report.passed then "pass" else "fail")),
    ("declared_size", .number report.declaredSize),
    ("expected_pages", .number report.expectedPages),
    ("distinct_pages", .number report.distinctPages),
    ("records", .number report.records),
    ("per_iteration", .object (report.perIteration.entries.map fun (iteration, count) =>
      (toString iteration, .number count))),
    ("first_missing", .opt .number report.firstMissing),
    ("first_out_of_range", .opt .number report.firstOutOfRange),
    ("failing_duplicates", .number report.failingDuplicates),
    ("anomalies", .array (report.anomalies.map anomalyJson))]

end Report

end PageStream
