import PageStream.CommandLine.Arguments
import PageStream.Proofs.Detection
import PageStream.Proofs.Wording

namespace PageStream

inductive Field where
  | container
  | policy
  | layout
  | readChunk
  | queueCapacity
  | waitAttempts
  | waitInterval

namespace Field

abbrev Value : Field → Type
  | container => ContainerMode
  | policy => Policy
  | layout => Layout
  | readChunk => Nat
  | queueCapacity => Option Nat
  | waitAttempts => Nat
  | waitInterval => Nat

def key : Field → String
  | container => "MEMSNAP_CONTAINER"
  | policy => "MEMSNAP_STRICT_DUPLICATES"
  | layout => "MEMSNAP_KEEP_HEADER"
  | readChunk => "MEMSNAP_READ_CHUNK"
  | queueCapacity => "MEMSNAP_QUEUE_CAPACITY"
  | waitAttempts => "MEMSNAP_WAIT_ATTEMPTS"
  | waitInterval => "MEMSNAP_WAIT_INTERVAL_MS"

def standard : (field : Field) → field.Value
  | container => ContainerMode.auto
  | policy => Policy.generationAware
  | layout => Layout.flat
  | readChunk => (40960 : Nat)
  | queueCapacity => some 64
  | waitAttempts => (100 : Nat)
  | waitInterval => (100 : Nat)

def Reads : (field : Field) → String → field.Value → Prop
  | container, core, mode => Text.lower core ∈ ContainerMode.words mode
  | policy, core, kind => kind = Policy.strict ∧ Text.lower core ∈ Variable.yes
  | layout, core, kind => kind = Layout.withHeader ∧ Text.lower core ∈ Variable.yes
  | readChunk, core, bytes => Text.Numeral.Spells core bytes ∧ bytes < 2 ^ 64 ∧ 0 < bytes
  | queueCapacity, core, limit => ∃ count, Text.Numeral.Spells core count ∧ count < 2 ^ 64 ∧
      limit = if count = 0 then none else some count
  | waitAttempts, core, polls => Text.Numeral.Spells core polls ∧ polls < 2 ^ 32
  | waitInterval, core, pause => Text.Numeral.Spells core pause ∧ pause < 2 ^ 64

-- The variable of the field is set to a text that says so.
def Tells (field : Field) (environment : Environment) (value : field.Value) : Prop :=
  ∃ core, (environment.get field.key).Gives core ∧ field.Reads core value

def read : (field : Field) → Variable → Option field.Value
  | container, v => v.text?.bind ContainerMode.ofText?
  | policy, v => if v.flag? = some true then some Policy.strict else none
  | layout, v => if v.flag? = some true then some Layout.withHeader else none
  | readChunk, v => (v.unsigned? (2 ^ 64)).filter (0 < ·)
  | queueCapacity, v => (v.unsigned? (2 ^ 64)).map Settings.queueOf
  | waitAttempts, v => v.unsigned? (2 ^ 32)
  | waitInterval, v => v.unsigned? (2 ^ 64)

theorem on_iff {α : Type} {v : Variable} {on value : α} :
    (if v.flag? = some true then some on else none) = some value ↔
      ∃ core, v.Gives core ∧ value = on ∧ Text.lower core ∈ Variable.yes := by
  constructor
  · intro read
    split at read
    · rename_i said
      obtain ⟨core, gives, yes⟩ := Variable.flag?_iff.mp said
      cases read
      exact ⟨core, gives, rfl, yes⟩
    · cases read
  · intro told
    obtain ⟨core, gives, rfl, yes⟩ := told
    rw [if_pos (Variable.flag?_iff.mpr ⟨core, gives, yes⟩)]

theorem read_iff {field : Field} {environment : Environment} {value : field.Value} :
    field.read (environment.get field.key) = some value ↔ field.Tells environment value := by
  unfold Tells
  generalize environment.get field.key = v
  cases field with
  | container =>
    unfold read Reads
    constructor
    · intro read
      obtain ⟨text, given, word⟩ := Option.bind_eq_some_iff.mp read
      have trimmed : v.trimmed? = some (Text.trim text) := by
        rw [Variable.trimmed?, given]
        rfl
      exact ⟨_, Variable.trimmed?_iff.mp trimmed, ContainerMode.ofText?_iff.mp word⟩
    · intro told
      obtain ⟨core, gives, word⟩ := told
      obtain ⟨text, given, rfl⟩ := Option.map_eq_some_iff.mp (Variable.trimmed?_iff.mpr gives)
      exact Option.bind_eq_some_iff.mpr ⟨text, given, ContainerMode.ofText?_iff.mpr word⟩
  | policy => exact on_iff
  | layout => exact on_iff
  | readChunk =>
    unfold read Reads
    rw [Option.filter_eq_some_iff, Variable.unsigned?_iff]
    constructor
    · intro read
      obtain ⟨⟨core, gives, spelt, fits⟩, positive⟩ := read
      exact ⟨core, gives, spelt, fits, of_decide_eq_true positive⟩
    · intro told
      obtain ⟨core, gives, spelt, fits, positive⟩ := told
      exact ⟨⟨core, gives, spelt, fits⟩, decide_eq_true positive⟩
  | queueCapacity =>
    unfold read Reads
    rw [Option.map_eq_some_iff]
    constructor
    · intro read
      obtain ⟨count, read, rfl⟩ := read
      obtain ⟨core, gives, spelt, fits⟩ := Variable.unsigned?_iff.mp read
      exact ⟨core, gives, count, spelt, fits, rfl⟩
    · intro told
      obtain ⟨core, gives, count, spelt, fits, rfl⟩ := told
      exact ⟨count, Variable.unsigned?_iff.mpr ⟨core, gives, spelt, fits⟩, rfl⟩
  | waitAttempts => exact Variable.unsigned?_iff
  | waitInterval => exact Variable.unsigned?_iff

theorem tells_unique {field : Field} {environment : Environment} {one two : field.Value}
    (first : field.Tells environment one) (second : field.Tells environment two) : one = two := by
  apply Option.some_inj.mp
  rw [← read_iff.mpr first, ← read_iff.mpr second]

end Field

-- The flag if it is given, else what the variable tells if it tells anything, else the default.
inductive Layered {α : Type} (flag : Option α) (tells : α → Prop) (standard : α) : α → Prop where
  | flag {value : α} (given : flag = some value) : Layered flag tells standard value
  | told {value : α} (absent : flag = none) (told : tells value) :
      Layered flag tells standard value
  | standard (absent : flag = none) (silent : ∀ value, ¬ tells value) :
      Layered flag tells standard standard

namespace Layered

variable {α : Type} {flag : Option α} {tells : α → Prop} {standard value : α}

theorem of_read {read : Option α} (reads : ∀ value, read = some value ↔ tells value) :
    Layered flag tells standard (flag.getD (read.getD standard)) := by
  cases flag with
  | some value => exact .flag rfl
  | none =>
    cases read with
    | some value => exact .told rfl ((reads value).mp rfl)
    | none =>
      apply Layered.standard rfl
      intro value told
      cases (reads value).mpr told

-- What holds of all values of a flag, of all that a variable tells and of the default.
theorem holds (layered : Layered flag tells standard value) (good : α → Prop)
    (flags : ∀ value, flag = some value → good value) (told : ∀ value, tells value → good value)
    (otherwise : good standard) : good value := by
  cases layered with
  | flag given => exact flags value given
  | told _ this => exact told value this
  | standard => exact otherwise

theorem unique (single : ∀ one two, tells one → tells two → one = two) {other : α}
    (layered : Layered flag tells standard value) (again : Layered flag tells standard other) :
    value = other := by
  cases layered with
  | flag given =>
    cases again with
    | flag given' => exact Option.some_inj.mp (given.symm.trans given')
    | told absent => cases absent.symm.trans given
    | standard absent => cases absent.symm.trans given
  | told absent told =>
    cases again with
    | flag given => cases absent.symm.trans given
    | told _ told' => exact single value other told told'
    | standard _ silent => exact absurd told (silent value)
  | standard absent silent =>
    cases again with
    | flag given => cases absent.symm.trans given
    | told _ told => exact absurd told (silent other)
    | standard => rfl

theorem switched_iff {switch : Bool} {v : Variable} {on : α}
    (layered : Layered (if switch then some on else none)
      (fun value => ∃ core, v.Gives core ∧ value = on ∧ Text.lower core ∈ Variable.yes)
      standard value) (apart : standard ≠ on) :
    value = on ↔ switch = true ∨ v.TellsYes := by
  constructor
  · intro same
    cases layered with
    | flag given =>
      cases switch with
      | true => exact .inl rfl
      | false => cases given
    | told _ told =>
      obtain ⟨core, gives, -, yes⟩ := told
      exact .inr ⟨core, gives, yes⟩
    | standard => exact absurd same apart
  · intro turned
    cases layered with
    | flag given =>
      cases switch <;> cases given
      rfl
    | told _ told =>
      obtain ⟨_, _, same, _⟩ := told
      exact same
    | standard absent silent =>
      rcases turned with switched | ⟨core, gives, yes⟩
      · rw [switched] at absent
        cases absent
      · exact absurd ⟨core, gives, rfl, yes⟩ (silent on)

end Layered

def Settings.at (settings : Settings) : (field : Field) → field.Value
  | .container => settings.container
  | .policy => settings.policy
  | .layout => settings.layout
  | .readChunk => settings.readChunk
  | .queueCapacity => settings.queueCapacity
  | .waitAttempts => settings.waitAttempts
  | .waitInterval => settings.waitInterval

theorem Settings.ofEnvironment_at (environment : Environment) (field : Field) :
    (ofEnvironment environment).at field =
      (field.read (environment.get field.key)).getD field.standard := by
  have switched {α : Type} {said : Prop} [Decidable said] (on off : α) :
      (if said then on else off) = (if said then some on else none).getD off := by
    split
    · rfl
    · rfl
  cases field with
  | policy => exact switched _ _
  | layout => exact switched _ _
  | _ => rfl

theorem Container.Parser.standard_match? {bytes : Bytes} {tag : Tag} :
    standard.match? bytes = some tag ↔ (bytes = magicFinal ∧ tag = ⟨.final, .final⟩ ∨
      bytes = magicPartial ∧ tag = ⟨.inProgress, .inProgress⟩) := by
  unfold match? standard
  constructor
  · intro found
    have same : tag.magic.bytes = bytes := by
      have accepted := List.find?_some found
      exact beq_iff_eq.mp accepted
    have member := List.mem_of_find?_eq_some found
    cases member with
    | head => exact .inl ⟨same.symm, rfl⟩
    | tail _ later =>
      obtain rfl := List.mem_singleton.mp later
      exact .inr ⟨same.symm, rfl⟩
  · intro known
    rcases known with ⟨rfl, rfl⟩ | ⟨rfl, rfl⟩
    · rfl
    · rfl

namespace CommandLine.StreamOptions

-- What the flags say about a field. At least one byte is read at a time, and a queue of no
-- deliveries is one without limit.
def flag (options : StreamOptions) (keepHeader : Bool) : (field : Field) → Option field.Value
  | .container => options.container
  | .policy => if options.strict then some .strict else none
  | .layout => if keepHeader then some .withHeader else none
  | .readChunk => options.readChunk.map (max 1)
  | .queueCapacity => options.queue.map fun count => if count = 0 then none else some count
  | .waitAttempts => none
  | .waitInterval => none

variable (options : StreamOptions) (keepHeader : Bool) (environment : Environment)

theorem settings_over (field : Field) :
    (options.settings keepHeader environment).at field =
      (options.flag keepHeader field).getD ((Settings.ofEnvironment environment).at field) := by
  cases field with
  | policy =>
    unfold settings flag
    cases options.readChunk <;> cases options.strict <;> rfl
  | layout =>
    unfold settings flag
    cases options.readChunk <;> cases keepHeader <;> rfl
  | queueCapacity =>
    unfold settings flag
    cases options.readChunk <;> cases options.queue <;> rfl
  | _ =>
    unfold settings flag
    cases options.readChunk <;> rfl

theorem settings_extraMagics : (options.settings keepHeader environment).extraMagics = [] := by
  unfold settings
  cases options.readChunk <;> rfl

theorem settings_layers (field : Field) :
    Layered (options.flag keepHeader field) (field.Tells environment) field.standard
      ((options.settings keepHeader environment).at field) := by
  rw [settings_over, Settings.ofEnvironment_at]
  apply Layered.of_read
  intro value
  exact Field.read_iff

theorem settings_strict : (options.settings keepHeader environment).policy = .strict ↔
    options.strict = true ∨ (environment.get "MEMSNAP_STRICT_DUPLICATES").TellsYes := by
  apply Layered.switched_iff (options.settings_layers keepHeader environment .policy)
  intro same
  cases same

theorem settings_withHeader : (options.settings keepHeader environment).layout = .withHeader ↔
    keepHeader = true ∨ (environment.get "MEMSNAP_KEEP_HEADER").TellsYes := by
  apply Layered.switched_iff (options.settings_layers keepHeader environment .layout)
  intro same
  cases same

theorem settings_readChunk : 1 ≤ (options.settings keepHeader environment).readChunk := by
  apply (options.settings_layers keepHeader environment .readChunk).holds (1 ≤ ·)
  · intro bytes given
    obtain ⟨asked, -, rfl⟩ := Option.map_eq_some_iff.mp given
    exact Nat.le_max_left 1 asked
  · intro bytes told
    obtain ⟨core, gives, spelt, fits, positive⟩ := told
    exact positive
  · decide

theorem settings_queueCapacity :
    (options.settings keepHeader environment).queueCapacity ≠ some 0 := by
  have proper (count : Nat) : (if count = 0 then none else some count) ≠ some 0 := by
    intro empty
    split at empty
    · cases empty
    · rename_i filled
      exact filled (Option.some_inj.mp empty)
  apply (options.settings_layers keepHeader environment .queueCapacity).holds (· ≠ some 0)
  · intro limit given
    obtain ⟨count, -, rfl⟩ := Option.map_eq_some_iff.mp given
    exact proper count
  · intro limit told
    obtain ⟨core, gives, count, spelt, fits, rfl⟩ := told
    exact proper count
  · decide

-- Each field is told from the flag, the variable and the default that are its own; the other flags
-- and variables have no say in it. No setting reads nothing at a time or queues nothing, and no
-- header counts but those of the two standard magics.
theorem settings_layered :
    let settings := options.settings keepHeader environment
    (∀ (field : Field) value, settings.at field = value ↔
      Layered (options.flag keepHeader field) (field.Tells environment) field.standard value) ∧
    (∀ (field : Field) (other : StreamOptions) (keeping : Bool) (elsewhere : Environment),
      other.flag keeping field = options.flag keepHeader field →
      elsewhere.get field.key = environment.get field.key →
      (other.settings keeping elsewhere).at field = settings.at field) ∧
    (settings.policy = .strict ↔
      options.strict = true ∨ (environment.get "MEMSNAP_STRICT_DUPLICATES").TellsYes) ∧
    (settings.layout = .withHeader ↔
      keepHeader = true ∨ (environment.get "MEMSNAP_KEEP_HEADER").TellsYes) ∧
    1 ≤ settings.readChunk ∧ settings.queueCapacity ≠ some 0 ∧
    ∀ bytes tag, settings.parser.match? bytes = some tag ↔
      (bytes = magicFinal ∧ tag = ⟨.final, .final⟩ ∨
        bytes = magicPartial ∧ tag = ⟨.inProgress, .inProgress⟩) := by
  intro settings
  refine ⟨?layers, ?apart, options.settings_strict keepHeader environment,
    options.settings_withHeader keepHeader environment,
    options.settings_readChunk keepHeader environment,
    options.settings_queueCapacity keepHeader environment, ?parser⟩
  case layers =>
    intro field value
    have layers := options.settings_layers keepHeader environment field
    constructor
    · intro same
      subst same
      exact layers
    · intro again
      exact layers.unique (fun _ _ => Field.tells_unique) again
  case apart =>
    intro field other keeping elsewhere flag given
    rw [settings_over, Settings.ofEnvironment_at, flag, given, ← Settings.ofEnvironment_at,
      ← settings_over]
  case parser =>
    intro bytes tag
    rw [Settings.parser_standard (options.settings_extraMagics keepHeader environment)]
    exact Container.Parser.standard_match?

-- Two commands of which one gives every flag, with one variable in common.
theorem settings_layered_beside :
    let plain : StreamOptions := ⟨"pipe", none, false, none, none, false⟩
    let asked : StreamOptions := ⟨"pipe", some .absent, true, some 0, some 0, false⟩
    let environment : Environment :=
      [("MEMSNAP_STRICT_DUPLICATES", .text "On"), ("MEMSNAP_WAIT_ATTEMPTS", .text " +7 ")]
    let elsewhere : Environment :=
      [("MEMSNAP_WAIT_ATTEMPTS", .text " +7 "), ("MEMSNAP_STRICT_DUPLICATES", .undecodable)]
    (asked.settings true elsewhere).waitAttempts = (plain.settings false environment).waitAttempts ∧
      (plain.settings false environment).waitAttempts = 7 ∧
      (plain.settings false environment).policy = .strict := by
  intro plain asked environment elsewhere
  have layered := plain.settings_layered false environment
  refine ⟨?beside, ?attempts, ?policy⟩
  case beside => exact layered.2.1 .waitAttempts asked true elsewhere rfl rfl
  case attempts => decide
  case policy =>
    apply layered.2.2.1.mpr
    exact .inr (Variable.flag?_iff.mp (by decide))

end CommandLine.StreamOptions

end PageStream
