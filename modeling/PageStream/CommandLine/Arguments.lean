import PageStream.Settings

namespace PageStream.CommandLine

structure StreamOptions where
  input : String
  container : Option ContainerMode
  strict : Bool
  -- Zero for a queue without limit.
  queue : Option Nat
  readChunk : Option Nat
  json : Bool

inductive Command where
  | rebuild (stream : StreamOptions) (output : String) (keepHeader : Bool)
  | check (stream : StreamOptions)
  | header (input : String) (json : Bool)

inductive Invocation where
  | run (command : Command)
  | version
  | help
  | misuse

inductive OptionKind where
  | flag
  | path
  | mode
  | number

def number? : String → Option Nat := Text.Numeral.unsigned? (2 ^ 64)

def OptionKind.accepts (kind : OptionKind) (value : String) : Bool :=
  match kind with
  | .flag => false
  | .path => value ≠ ""
  | .mode => (ContainerMode.ofText? value).isSome
  | .number => (number? value).isSome

abbrev Spec := List (String × OptionKind)

def streamSpec : Spec :=
  [("input", .path), ("container", .mode), ("strict", .flag), ("queue", .number),
    ("read-chunk", .number), ("json", .flag)]

def rebuildSpec : Spec := streamSpec ++ [("output", .path), ("keep-header", .flag)]

def headerSpec : Spec := [("input", .path), ("json", .flag)]

abbrev Given := List (String × String)

inductive Scan where
  | given (options : Given)
  | help
  | misuse

def splitOption (chars : List Char) : String × Option String :=
  (String.ofList (chars.takeWhile (· != '=')),
    match chars.dropWhile (· != '=') with
    | [] => none
    | _ :: value => some (String.ofList value))

-- A single dash is a value, anything else that starts with one is not.
def isValue (argument : String) : Bool :=
  match argument.toList with
  | '-' :: _ :: _ => false
  | _ => true

-- Goes from left to right, so that asking for help hides only what comes after it.
def scan (spec : Spec) (seen : Given) : List String → Scan
  | [] => .given seen.reverse
  | argument :: rest =>
    match argument.toList with
    | ['-', '-'] => if rest.isEmpty then .given seen.reverse else .misuse
    | '-' :: '-' :: chars =>
      let (name, attached) := splitOption chars
      if (seen.lookup name).isSome then .misuse else
      match spec.lookup name, attached with
      | none, none => if name = "help" then .help else .misuse
      | none, some _ => .misuse
      | some .flag, none => scan spec ((name, "") :: seen) rest
      | some kind, some value =>
        if kind.accepts value then scan spec ((name, value) :: seen) rest else .misuse
      | some kind, none =>
        match rest with
        | value :: rest =>
          if isValue value && kind.accepts value then scan spec ((name, value) :: seen) rest
          else .misuse
        | [] => .misuse
    | '-' :: 'h' :: _ => .help
    | _ => .misuse

def flag (given : Given) (name : String) : Bool := (given.lookup name).isSome

def optional? {α : Type} (given : Given) (name : String) (read : String → Option α) :
    Option (Option α) :=
  match given.lookup name with
  | none => some none
  | some value => (read value).map some

def stream? (given : Given) : Option StreamOptions := do
  let input ← given.lookup "input"
  let container ← optional? given "container" ContainerMode.ofText?
  let queue ← optional? given "queue" number?
  let readChunk ← optional? given "read-chunk" number?
  some { input, container, queue, readChunk, strict := flag given "strict", json := flag given "json" }

def rebuild? (given : Given) : Option Command := do
  let stream ← stream? given
  let output ← given.lookup "output"
  some (.rebuild stream output (flag given "keep-header"))

def header? (given : Given) : Option Command := do
  let input ← given.lookup "input"
  some (.header input (flag given "json"))

def options (spec : Spec) (command? : Given → Option Command) (arguments : List String) :
    Invocation :=
  match scan spec [] arguments with
  | .help => .help
  | .misuse => .misuse
  | .given given =>
    match command? given with
    | some command => .run command
    | none => .misuse

-- Help can be asked for as a command, with the name of the command it is wanted for.
def helps : List String → Bool
  | [] => true
  | [command] => ["rebuild", "check", "header", "help"].contains command
  | _ => false

def read : List String → Invocation
  | [] => .misuse
  | first :: rest =>
    if first = "rebuild" then options rebuildSpec rebuild? rest
    else if first = "check" then options streamSpec (fun given => (stream? given).map .check) rest
    else if first = "header" then options headerSpec header? rest
    else if first = "help" then (if helps rest then .help else .misuse)
    else
      match first.toList with
      | ['-', '-', 'v', 'e', 'r', 's', 'i', 'o', 'n'] | '-' :: 'V' :: _ => .version
      | ['-', '-', 'h', 'e', 'l', 'p'] | '-' :: 'h' :: _ => .help
      | _ => .misuse

-- Flags over variables over defaults, each setting on its own.
def StreamOptions.settings (options : StreamOptions) (keepHeader : Bool)
    (environment : Environment) : Settings :=
  let base := Settings.ofEnvironment environment
  let base := { base with
    container := options.container.getD base.container
    policy := if options.strict then .strict else base.policy
    layout := if keepHeader then .withHeader else base.layout
    queueCapacity := (options.queue.map Settings.queueOf).getD base.queueCapacity }
  match options.readChunk with
  | none => base
  | some bytes => base.withReadChunk bytes

end PageStream.CommandLine
