import PageStream.CommandLine.Arguments
import PageStream.CommandLine.Diagnosis
import PageStream.CommandLine.LogFilter
import PageStream.CommandLine.Summary
import PageStream.Directory
import PageStream.Text.Plain

namespace PageStream.CommandLine

structure Completion where
  exit : Nat
  output : String
  diagnosis : Option Diagnosis
  directory : Directory

def versionText : String := "memsnap 0.3.0"

def helpText : List String := [
  "Rebuild a flat memory image from a live-migration snapshot stream",
  "",
  "Usage: memsnap rebuild --input PATH --output PATH [--keep-header] [STREAM OPTIONS]",
  "       memsnap check --input PATH [STREAM OPTIONS]",
  "       memsnap header --input PATH [--json]",
  "",
  "Stream options: [--container auto|required|none] [--strict] [--queue N] [--read-chunk N] [--json]"]

def giveUp (diagnosis : Diagnosis) (directory : Directory) : Completion :=
  ⟨1, "", some diagnosis, directory⟩

inductive Ending where
  | decoded (outcome : Outcome) (metrics : Metrics)
  | gaveUp (diagnosis : Diagnosis)
  -- There is no queue to hand the bytes over through, or the session broke down; nothing is said.
  | brokeDown

variable {σ : Type} [ImageSink σ]

def decode (input : String) (settings : Settings) (directory : Directory) (sink : σ) :
    Ending × σ :=
  match awaitInput settings.waitAttempts fun _ => directory.present input with
  | .missing =>
    (.gaveUp (.ofFailure s!"wait for input {input}"
      (.read (.neverAppeared input settings.waitAttempts))), sink)
  | _ =>
    match directory.lookUp input with
    | .error fault => (.gaveUp (.ofFault s!"open input {input}" fault), sink)
    | .ok entry =>
      match Source.ofHandoff? entry.reader settings.readChunk settings.queueCapacity with
      | none => (.brokeDown, sink)
      | some source =>
        let (_, run) := Session.run { settings } source.feed sink .empty
        match run.result with
        | .error failure =>
          (if failure = .brokeDown then .brokeDown
            else .gaveUp (.ofFailure s!"decode {input} (failed in {run.stage.label})" failure),
            run.sink)
        | .ok outcome => (.decoded outcome run.journal.metrics, run.sink)

def summary (outcome : Outcome) (metrics : Metrics) (output : Option String) (json : Bool) :
    String :=
  print (if json then [(outcomeJson outcome output metrics).render] else outcomeLines outcome)

def finish (ending : Ending) (output : Option String) (json : Bool) (directory : Directory) :
    Completion :=
  match ending with
  | .gaveUp diagnosis => giveUp diagnosis directory
  | .brokeDown => ⟨101, "", none, directory⟩
  | .decoded outcome metrics =>
    ⟨if outcome.report.passed then 0 else 1, summary outcome metrics output json, none, directory⟩

def rebuild (options : StreamOptions) (output : String) (keepHeader : Bool)
    (environment : Environment) (directory : Directory) : Completion :=
  let settings := options.settings keepHeader environment
  match directory.createImage output with
  | .error failure => giveUp (.ofFailure s!"open output image {output}" failure) directory
  | .ok (place, directory) =>
    let (ending, image) := decode options.input settings directory (PlacedImage.mk directory place)
    finish ending (some output) options.json (image.directory.release place)

def check (options : StreamOptions) (environment : Environment) (directory : Directory) :
    Completion :=
  let settings := options.settings false environment
  let (ending, _) := decode options.input settings directory NullImage.mk
  finish ending none options.json directory

-- The container header, if the input starts with an accepted magic, and the declared size.
def readOpening (input : String) (parser : Container.Parser) (directory : Directory) :
    Except Diagnosis (Option Container.Header × DeclaredSize) :=
  match directory.lookUp input with
  | .error fault => .error (.ofFault s!"open {input}" fault)
  | .ok entry =>
    let magic := entry.reader.gather magicLength
    match magic.stop with
    | .fault fault => .error (.ofFault s!"read {input}" fault)
    | _ =>
      let reader := Reader.ofSteps (.data magic.bytes :: magic.rest)
      let size (header : Option Container.Header) (reader : Reader) :
          Except Diagnosis (Option Container.Header × DeclaredSize) :=
        match DeclaredSize.readFrom reader with
        | .error failure => .error (.ofFailure "parse size header" failure)
        | .ok (declared, _) => .ok (header, declared)
      if parser.recognizes magic.bytes then
        match parser.readFrom reader with
        | .error failure => .error (.ofFailure "parse container header" failure)
        | .ok (header, reader) => size (some header) reader
      else size none reader

def showHeader (input : String) (json : Bool) (environment : Environment)
    (directory : Directory) : Completion :=
  match readOpening input (Settings.ofEnvironment environment).parser directory with
  | .error diagnosis => giveUp diagnosis directory
  | .ok (header, declared) =>
    ⟨0, print (if json then [(openingJson header declared).render]
      else openingLines header declared), none, directory⟩

def execute (command : Command) (environment : Environment) (directory : Directory) : Completion :=
  match command with
  | .rebuild options output keepHeader => rebuild options output keepHeader environment directory
  | .check options => check options environment directory
  | .header input json => showHeader input json environment directory

def run (arguments : List String) (environment : Environment) (directory : Directory) :
    Completion :=
  match read arguments with
  | .run command => execute command environment directory
  | .version => ⟨0, print [versionText], none, directory⟩
  | .help => ⟨0, print helpText, none, directory⟩
  | .misuse => ⟨2, "", none, directory⟩

def logFilter (environment : Environment) : LogFilter :=
  .ofText ((environment.get "RUST_LOG").text?.getD "info")

def Completion.complaint? (done : Completion) (environment : Environment) : Option String :=
  let message := done.diagnosis.map Diagnosis.text
  (message.filter ((logFilter environment).admitsError "memsnap")).map Text.plain

end PageStream.CommandLine
