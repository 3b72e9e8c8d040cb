import PageStream.CommandLine

namespace PageStream.Program

open PageStream.CommandLine

def variableNames : List String :=
  ["MEMSNAP_CONTAINER", "MEMSNAP_STRICT_DUPLICATES", "MEMSNAP_KEEP_HEADER", "MEMSNAP_READ_CHUNK",
    "MEMSNAP_QUEUE_CAPACITY", "MEMSNAP_WAIT_ATTEMPTS", "MEMSNAP_WAIT_INTERVAL_MS", "RUST_LOG"]

def loadEnvironment : IO Environment :=
  variableNames.filterMapM fun name => do
    return (← IO.getEnv name).map fun value => (name, Variable.text value)

-- Whether a path leads to anything. A pipe is not opened for this, since that would disturb whoever
-- writes to it.
def leads (path : String) : IO Bool := do
  try
    let _ ← IO.FS.realPath path
    return true
  catch _ => return false

def awaitPath (path : String) (interval : Nat) : Nat → IO Unit
  | 0 => return
  | attempts + 1 => do
    if ← leads path then return
    IO.sleep (UInt32.ofNat interval)
    awaitPath path interval attempts

-- What is there but cannot be read is a directory.
def loadPath (path : String) (directory : Directory) : IO Directory := do
  if path ≠ "" && (← leads path) then
    try
      let content ← IO.FS.readBinFile path
      return directory.putPath path (.file content.toList)
    catch _ => return directory.putPath path .directory
  else return directory

def loadParent (path : String) (directory : Directory) : IO Directory := do
  let parent := (Directory.placeOf path).dropLast
  if parent.isEmpty then return directory
  let text := String.intercalate "/" parent
  if ← leads text then return directory.putPath text .directory else return directory

inductive Hold where
  | none
  | refused
  | taken (handle : IO.FS.Handle)

-- Opens the output for the length of the run, without emptying it.
def holdOutput (path : String) : IO Hold := do
  try
    let handle ← IO.FS.Handle.mk path .append
    if ← handle.tryLock then return .taken handle else return .refused
  catch _ => return .none

def tell (environment : Environment) (done : Completion) : IO UInt32 := do
  IO.print done.output
  if let some complaint := done.complaint? environment then
    IO.eprintln ("[ERROR memsnap] " ++ complaint)
  return UInt32.ofNat done.exit

def awaitStream (options : StreamOptions) (environment : Environment) : IO Unit :=
  let settings := options.settings false environment
  awaitPath options.input settings.waitInterval (max 1 settings.waitAttempts)

def rebuildFile (options : StreamOptions) (output : String) (keepHeader : Bool)
    (environment : Environment) : IO UInt32 := do
  let directory ← loadPath output (← loadParent output .empty)
  let place := Directory.placeOf output
  match ← holdOutput output with
  | .none => tell environment (rebuild options output keepHeader environment directory)
  | .refused =>
    let directory := { directory with held := place :: directory.held }
    tell environment (rebuild options output keepHeader environment directory)
  | .taken _ =>
    awaitStream options environment
    let directory ← loadPath options.input directory
    let done := rebuild options output keepHeader environment directory
    IO.FS.writeBinFile output ⟨(done.directory.contentAt place).toArray⟩
    tell environment done

def perform (command : Command) (environment : Environment) : IO UInt32 := do
  match command with
  | .rebuild options output keepHeader => rebuildFile options output keepHeader environment
  | .check options =>
    awaitStream options environment
    tell environment (check options environment (← loadPath options.input .empty))
  | .header input json =>
    tell environment (showHeader input json environment (← loadPath input .empty))

end PageStream.Program

open PageStream PageStream.CommandLine PageStream.Program in
def main (arguments : List String) : IO UInt32 := do
  let environment ← loadEnvironment
  match read arguments with
  | .run command => perform command environment
  | .misuse =>
    IO.eprint (print helpText)
    return 2
  | _ => tell environment (run arguments environment .empty)
