import PageStream.Container.Parser
import PageStream.Environment
import PageStream.Index

namespace PageStream

inductive ContainerMode where
  -- If it starts with an accepted magic.
  | auto
  | required
  | absent
  deriving DecidableEq

namespace ContainerMode

def label : ContainerMode → String
  | .auto => "Auto"
  | .required => "Required"
  | .absent => "Absent"

def normalized (text : String) : String := Text.lower (Text.trim text)

def ofText? (text : String) : Option ContainerMode :=
  let word := normalized text
  if word = "auto" then some .auto
  else if word = "required" ∨ word = "require" then some .required
  else if word = "none" ∨ word = "absent" ∨ word = "off" then some .absent
  else none

def refusal (text : String) : String :=
  s!"unknown container mode '{normalized text}' (expected auto|required|none)"

end ContainerMode

inductive Layout where
  -- Page offsets are image offsets.
  | flat
  -- The container header, padded to 8 KiB, stays at the start and the pages follow it.
  | withHeader
  deriving DecidableEq

def Layout.label : Layout → String
  | .flat => "Flat"
  | .withHeader => "WithHeader"

structure Settings where
  container : ContainerMode := .auto
  policy : Policy := .generationAware
  layout : Layout := .flat
  readChunk : Nat := defaultReadChunk
  -- None for a queue without limit.
  queueCapacity : Option Nat := some defaultQueueCapacity
  waitAttempts : Nat := 100
  -- In milliseconds.
  waitInterval : Nat := 100
  -- Magics accepted besides the standard ones, as those of completed saves.
  extraMagics : List Container.Magic := []

namespace Settings

-- Zero bytes at a time count as one.
def withReadChunk (settings : Settings) (bytes : Nat) : Settings :=
  { settings with readChunk := max 1 bytes }

def withExtraMagic (settings : Settings) (magic : Container.Magic) : Settings :=
  { settings with extraMagics := settings.extraMagics ++ [magic] }

def parser (settings : Settings) : Container.Parser :=
  settings.extraMagics.foldl (fun parser magic => parser.withTag ⟨magic, .final⟩) .standard

-- How a number of deliveries is read where zero stands for no limit.
def queueOf (count : Nat) : Option Nat := if count = 0 then none else some count

def ofEnvironment (environment : Environment) : Settings :=
  let standard : Settings := {}
  let get (name : String) : Variable := environment.get ("MEMSNAP_" ++ name)
  { standard with
    container := ((get "CONTAINER").text?.bind ContainerMode.ofText?).getD standard.container
    policy := if (get "STRICT_DUPLICATES").flag? = some true then .strict else standard.policy
    layout := if (get "KEEP_HEADER").flag? = some true then .withHeader else standard.layout
    readChunk := (((get "READ_CHUNK").unsigned? (2 ^ 64)).filter (0 < ·)).getD standard.readChunk
    queueCapacity :=
      (((get "QUEUE_CAPACITY").unsigned? (2 ^ 64)).map queueOf).getD standard.queueCapacity
    waitAttempts := ((get "WAIT_ATTEMPTS").unsigned? (2 ^ 32)).getD standard.waitAttempts
    waitInterval := ((get "WAIT_INTERVAL_MS").unsigned? (2 ^ 64)).getD standard.waitInterval }

def display (settings : Settings) : String :=
  let queue := (settings.queueCapacity.map toString).getD "unbounded"
  "SnapConfig \x7b " ++ s!"container: {settings.container.label}, " ++
    s!"duplicate_policy: {settings.policy.label}, layout: {settings.layout.label}, " ++
    s!"read_chunk: {settings.readChunk}, queue_capacity: {queue}, " ++
    s!"wait: {settings.waitAttempts}x{settings.waitInterval}ms, " ++
    s!"extra_magics: {settings.extraMagics.length} " ++ "\x7d"

end Settings

end PageStream
