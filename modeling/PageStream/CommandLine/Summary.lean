import PageStream.Session

namespace PageStream.CommandLine

def headerJson (header : Container.Header) : Text.Json :=
  .object [
    ("magic", .text (Text.Utf8.lossy header.tag.magic.bytes)),
    ("state", .text header.tag.state.key),
    ("version", .number header.version),
    ("descriptor_len", .number header.descriptorLength),
    ("was_running", .bool header.wasRunning),
    ("compression", .text header.compression.name),
    ("payload_offset", .number header.payloadOffset),
    ("aligned", .bool header.isAligned),
    ("descriptor", .text header.descriptorText)]

def outcomeJson (outcome : Outcome) (output : Option String) (metrics : Metrics) : Text.Json :=
  .object [
    ("container", .opt headerJson outcome.header),
    ("declared_size", .number outcome.declared.bytes),
    ("base_offset", .number outcome.base),
    ("bytes_in", .number outcome.bytesIn),
    ("output", .opt .text output),
    ("report", outcome.report.json),
    ("metrics", metrics.json)]

def outcomeLines (outcome : Outcome) : List String :=
  (outcome.header.map fun header =>
    s!"container: {header.tag.state.label}, descriptor {header.descriptorLength} bytes, " ++
      s!"compression {header.compression.name}").toList ++
  [s!"declared: {outcome.declared.bytes} bytes ({outcome.declared.pages} pages)"] ++
  (outcome.report.anomalies.map fun anomaly =>
    s!"anomaly: page {anomaly.page} iter {anomaly.iteration} (previous {anomaly.previous}) " ++
      anomaly.kind.label) ++
  [outcome.report.display]

def openingJson (header : Option Container.Header) (declared : DeclaredSize) : Text.Json :=
  .object [
    ("container", .opt headerJson header),
    ("declared_size", .number declared.bytes),
    ("pages", .number declared.pages)]

def headerLines (header : Container.Header) : List String :=
  let expected := if header.isAligned then "" else s!" (expected {alignedLength})"
  [s!"magic:          {Text.Utf8.lossy header.tag.magic.bytes}",
    s!"state:          {header.tag.state.label}",
    s!"version:        {header.version}",
    s!"descriptor_len: {header.descriptorLength}",
    s!"was_running:    {header.wasRunning}",
    s!"compression:    {header.compression.name}",
    s!"payload_offset: {header.payloadOffset}{expected}",
    "descriptor:",
    header.descriptorText]

def openingLines (header : Option Container.Header) (declared : DeclaredSize) : List String :=
  (match header with
    | some header => headerLines header
    | none => ["container: none"]) ++
  [s!"declared_size:  {declared.bytes} bytes ({declared.pages} pages)"]

def print (lines : List String) : String := String.join (lines.map (· ++ "\n"))

end PageStream.CommandLine
