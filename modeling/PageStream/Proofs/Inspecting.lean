import PageStream.CommandLine
import PageStream.Proofs.Detection
import PageStream.Proofs.Directories
import PageStream.Proofs.Gathering

namespace PageStream

theorem Phase.name_initial (phase : Phase) : phase.name.toList.head? = some (match phase with
    | .containerHeader => 'c'
    | .sizeHeader => 's'
    | .pageRecords => 'p') := by
  cases phase <;> simp [name]

theorem Malformation.phase_of_message {one two : Malformation}
    (same : (Failure.malformed one).message = (Failure.malformed two).message) :
    one.phase = two.phase := by
  have characters (cause : Malformation) : (Failure.malformed cause).message.toList =
      "format error in ".toList ++
        (cause.phase.name.toList ++ (": ".toList ++ cause.message.toList)) := by
    unfold Failure.message
    simp only [toString, String.toList_append, List.append_assoc]
  have names := congrArg String.toList same
  rw [characters, characters, List.append_cancel_left_eq] at names
  have initials := congrArg List.head? names
  simp only [List.head?_append, Phase.name_initial, Option.some_or] at initials
  generalize one.phase = phase at initials
  generalize two.phase = phase' at initials
  cases phase <;> cases phase' <;> first | rfl | simp at initials

namespace Failure

theorem message_initial (failure : Failure) :
    failure.message.toList.head? = some (match failure with
      | .malformed _ => 'f'
      | .truncated _ => 't'
      | .overflow _ | .write _ _ => 'i'
      | .read _ => 's'
      | .locked _ => 'o'
      | .brokeDown => 'a') := by
  cases failure <;> unfold message <;>
    simp only [toString, String.toList_append, List.append_assoc, List.head?_append] <;> rfl

-- What is said of a failure tells which part of the stream is to blame, if one is.
theorem phase_of_message {one two : Failure} (same : one.message = two.message) :
    one.phase? = two.phase? := by
  have initials := congrArg (·.toList.head?) same
  simp only [message_initial] at initials
  cases one <;> cases two
  case malformed.malformed one two => exact congrArg some (Malformation.phase_of_message same)
  all_goals first | rfl | simp at initials

end Failure

theorem Failure.Blames.phase_eq {failure : Failure} {phase : Phase} (blames : failure.Blames phase) :
    failure.phase? = some phase := by
  obtain ⟨cause, rfl, rfl⟩ := blames
  rfl

namespace Reader

theorem gather_file (content : Bytes) (needed : Nat) :
    let part := (Entry.file content).reader.gather needed
    let again := ofSteps (.data part.bytes :: part.rest)
    part.bytes = content.take needed ∧ (∀ fault, part.stop ≠ .fault fault) ∧
      again.served = content ∧ again.stop = .endOfFile := by
  intro part again
  obtain ⟨all, ends⟩ := ofSteps_served [.data content]
  obtain ⟨put, last⟩ := ofSteps_served (.data part.bytes :: part.rest)
  have whole : (Entry.file content).reader.served = content := by
    rw [Entry.reader, all]
    exact List.append_nil content
  have stops : (Entry.file content).reader.stop = .endOfFile := ends
  have joined : again.served = part.bytes ++ part.rest.served := put
  have same : again.stop = part.rest.stop := last
  by_cases enough : needed ≤ content.length
  · have inside : needed ≤ (Entry.file content).reader.served.length := by rwa [whole]
    obtain ⟨taken, complete, behind, after⟩ := gather_enough inside
    rw [whole] at taken behind
    refine ⟨taken, ?_, ?_, same.trans (after.trans stops)⟩
    · intro fault faulty
      cases complete.symm.trans faulty
    · rw [joined, taken, behind, List.take_append_drop]
  · have short : (Entry.file content).reader.served.length < needed := by
      rw [whole]
      omega
    obtain ⟨taken, halts, behind⟩ := gather_short short
    have nothing : (Entry.file content).reader.beyond = [] := by
      rw [Entry.reader, ofSteps]
      cases content <;> rfl
    rw [stops] at halts
    rw [whole] at taken
    rw [nothing] at behind
    refine ⟨?_, ?_, ?_, ?_⟩
    · rw [taken, List.take_of_length_le (by omega)]
    · intro fault faulty
      cases halts.symm.trans faulty
    · rw [joined, taken, behind]
      exact List.append_nil content
    · rw [same, behind]
      rfl

end Reader

theorem Container.Parser.recognizes_take (parser : Parser) (bytes : Bytes) :
    parser.recognizes (bytes.take magicLength) = parser.recognizes bytes := by
  simp only [recognizes, List.length_take, List.take_take, Nat.le_min, Nat.le_refl, Nat.min_self,
    true_and]

namespace CommandLine

def sizeFrom (header : Option Container.Header) (reader : Reader) :
    Except Diagnosis (Option Container.Header × DeclaredSize) :=
  match DeclaredSize.readFrom reader with
  | .error failure => .error (.ofFailure "parse size header" failure)
  | .ok (declared, _) => .ok (header, declared)

theorem readOpening_file {input : String} {directory : Directory} {content : Bytes}
    (found : directory.lookUp input = .ok (.file content)) (parser : Container.Parser) :
    ∃ reader, reader.served = content ∧ reader.stop = .endOfFile ∧
      readOpening input parser directory =
        if parser.recognizes content then
          match parser.readFrom reader with
          | .error failure => .error (.ofFailure "parse container header" failure)
          | .ok (header, reader) => sizeFrom (some header) reader
        else sizeFrom none reader := by
  obtain ⟨taken, sound, served, ends⟩ := Reader.gather_file content magicLength
  refine ⟨_, served, ends, ?_⟩
  have known : parser.recognizes ((Entry.file content).reader.gather magicLength).bytes =
      parser.recognizes content := by
    rw [taken]
    exact parser.recognizes_take content
  rw [readOpening, found, ← known]
  dsimp only
  split
  · rename_i fault faulty
    exact absurd faulty (sound fault)
  · rfl

-- What is shown of a file agrees with the headers of its content: the same failure or another one in
-- the same part of the stream.
def Shows (shown : Except Diagnosis (Option Container.Header × DeclaredSize)) :
    Except (Stage × Failure) Opened → Prop
  | .error (stage, failure) => ∃ phase doing told, stage = phase.stage ∧ failure.Blames phase ∧
      told.Blames phase ∧ phase ≠ .pageRecords ∧ shown = .error (.ofFailure doing told)
  | .ok opened => shown = .ok (opened.header, opened.declared)

theorem sizeFrom_shows {settings : Settings} (flat : settings.layout = .flat) {content : Bytes}
    {header : Option Container.Header} (found : Whole.header settings content none = .ok header)
    {reader : Reader} (served : reader.served = content.drop (Whole.frontLength header))
    (ends : reader.stop = .endOfFile) :
    Shows (sizeFrom header reader) (Whole.opening settings content none) := by
  have read := DeclaredSize.readFrom_served ends
  have keeps : Whole.kept settings.layout header = .ok [] := by
    rw [flat]
    rfl
  unfold Whole.opening Whole.size sizeFrom
  rw [found]
  dsimp only
  rw [← served]
  cases parsed : DeclaredSize.parse reader.served with
  | error failure =>
    rw [parsed] at read
    have blames := DeclaredSize.parse_refused parsed
    simp only [read]
    exact ⟨.sizeHeader, _, failure, rfl, blames, blames, by simp, rfl⟩
  | ok complete =>
    rw [parsed] at read
    cases complete with
    | none =>
      simp only [read, Whole.unsized]
      exact ⟨.sizeHeader, _, _, rfl, ⟨_, rfl, rfl⟩, ⟨_, rfl, rfl⟩, by simp, rfl⟩
    | some declared =>
      obtain ⟨rest, taken, -, -⟩ := read
      simp only [taken, keeps]
      rfl

-- Giving up over the stream itself, in one of its parts.
def Refuses {α : Type} (shown : Except Diagnosis α) (phase : Phase) : Prop :=
  ∃ doing failure, shown = .error (.ofFailure doing failure) ∧ failure.phase? = some phase

theorem refuses_iff {α : Type} {shown : Except Diagnosis α} {doing : String} {failure : Failure}
    (refused : shown = .error (.ofFailure doing failure)) (phase : Phase) :
    Refuses shown phase ↔ failure.phase? = some phase := by
  constructor
  · rintro ⟨other, told, again, part⟩
    rw [refused] at again
    have causes := congrArg Diagnosis.causes (Except.error.inj again)
    have said : failure.message = told.message := (List.cons.inj causes).1
    rw [Failure.phase_of_message said, part]
  · intro part
    exact ⟨doing, failure, refused, part⟩

theorem readOpening_exact {input : String} {directory : Directory} {content : Bytes}
    (found : directory.lookUp input = .ok (.file content)) {settings : Settings}
    (looking : settings.container = .auto) (flat : settings.layout = .flat) :
    Shows (readOpening input settings.parser directory) (Whole.opening settings content none) := by
  obtain ⟨reader, served, ends, shown⟩ := readOpening_file found settings.parser
  have scanned : Whole.header settings content none =
      Whole.scan .auto settings.parser content none := by
    unfold Whole.header
    rw [looking]
  rw [shown]
  by_cases known : settings.parser.recognizes content = true
  · rw [if_pos known]
    have settled : ¬ (magicLength ≤ content.length ∧
        ¬ settings.parser.recognizes content = true) := by
      rintro ⟨-, unknown⟩
      exact unknown known
    have read := settings.parser.readFrom_served ends
    rw [served] at read
    rw [Whole.scan, if_neg settled] at scanned
    cases parsed : settings.parser.parse content with
    | error failure =>
      rw [parsed] at read scanned
      have blames := Container.Parser.parse_refused parsed
      simp only [read, Whole.opening, scanned]
      exact ⟨.containerHeader, _, failure, rfl, blames, blames, by simp, rfl⟩
    | ok complete =>
      rw [parsed] at read scanned
      cases complete with
      | none =>
        obtain ⟨told, cut, blames⟩ := read
        have long : ¬ content.length < magicLength := by
          have := (Container.Parser.recognizes_iff.mp known).long
          omega
        simp only [Whole.undecided, long, and_false, if_false] at scanned
        simp only [cut, Whole.opening, scanned]
        exact ⟨.containerHeader, _, told, rfl, ⟨_, rfl, rfl⟩, blames, by simp, rfl⟩
      | some header =>
        obtain ⟨rest, taken, behind, ends⟩ := read
        simp only [taken]
        exact sizeFrom_shows flat scanned behind ends
  · rw [if_neg known]
    have bare : Whole.header settings content none = .ok none := by
      rw [scanned, Whole.scan_none, ← Container.Parser.recognizes_iff]
      exact ⟨by simp, known⟩
    exact sizeFrom_shows flat bare served ends

end CommandLine

namespace Session

variable {σ : Type} [ImageSink σ]

-- A run that ended over the stream itself, while the part that is to blame was read.
def GaveUp (ran : Session × Run σ) (phase : Phase) : Prop :=
  ∃ failure, ran.2.result = .error failure ∧ failure.phase? = some phase ∧
    ran.1.stage = .failed ∧ ran.1.failedIn = some phase.stage

theorem first_closed {settings : Settings} {feed : Feed} {stage : Stage} {failure : Failure}
    (closes : Whole.opening settings feed.bytes feed.fault? = .error (stage, failure)) (sink : σ)
    (journal : Journal) {phase : Phase} (blames : failure.Blames phase)
    (reading : stage = phase.stage) (other : Phase) :
    GaveUp (Session.run { settings } feed sink journal) other ↔ other = phase := by
  obtain ⟨result, place, -, -⟩ := run_closed (first_fresh settings) closes sink journal
  have unbroken : (Session.run { settings } feed sink journal).2.result ≠ .error .brokeDown := by
    intro broken
    cases result.symm.trans broken
    cases blames.phase_eq
  have failed := ((first_settles unbroken).failed failure result).1
  constructor
  · rintro ⟨told, again, part, -, -⟩
    rw [result] at again
    cases again
    exact Option.some.inj (part.symm.trans blames.phase_eq)
  · rintro rfl
    exact ⟨failure, result, blames.phase_eq, failed, reading ▸ place⟩

theorem first_opened {settings : Settings} {feed : Feed} {opened : Opened}
    (opens : Whole.opening settings feed.bytes feed.fault? = .ok opened) {sink : σ}
    (sound : ImageSink.Faultless sink) (journal : Journal) :
    (∀ phase, GaveUp (Session.run { settings } feed sink journal) phase → phase = .pageRecords) ∧
      ∀ outcome, (Session.run { settings } feed sink journal).2.result = .ok outcome →
        outcome.header = opened.header ∧ outcome.declared = opened.declared := by
  have undisturbed := undisturbed_of_faultless sound { settings } feed journal
  have left := (run_fresh (first_fresh settings) feed sink journal).2
  have result := run_result (first_fresh settings) undisturbed
  have stage := run_stage (first_fresh settings) undisturbed
  by_cases fits : opened.Fits
  · obtain ⟨ends, ended⟩ := Whole.plan_ended opens fits
    rw [ended] at result
    rw [ends] at stage
    rcases objects : opened.objection feed.fault? with _ | objection
    · rw [Opened.closing_whole settings.policy objects] at result
      constructor
      · rintro phase ⟨failure, failed, -⟩
        cases result.symm.trans failed
      · intro outcome decoded
        cases result.symm.trans decoded
        exact ⟨rfl, rfl⟩
    · rw [Opened.closing_stopped settings.policy objects] at result stage
      constructor
      · rintro phase ⟨failure, failed, part, -, place⟩
        have reported : failure ≠ .brokeDown := by
          rintro rfl
          cases part
        rw [left, failed, closed_failed _ _ reported, stage] at place
        have same : Stage.streamingRecords = phase.stage := Option.some.inj place
        cases phase <;> first | rfl | cases same
      · intro outcome decoded
        cases result.symm.trans decoded
  · rw [Whole.plan_broken.mpr ⟨opened, opens, fits⟩] at result
    constructor
    · rintro phase ⟨failure, failed, part, -⟩
      cases result.symm.trans failed
      cases part
    · intro outcome decoded
      cases result.symm.trans decoded

end Session

namespace CommandLine

-- Whatever a file holds, cut anywhere in its headers or not.
theorem readOpening_agrees {input : String} {directory : Directory} {content : Bytes}
    (found : directory.lookUp input = .ok (.file content)) (environment : Environment)
    {settings : Settings} (looking : settings.container = .auto) (flat : settings.layout = .flat)
    (standard : settings.extraMagics = []) {feed : Feed} (bytes : feed.bytes = content)
    (clean : feed.fault? = none) (journal : Journal) :
    let shown := readOpening input (Settings.ofEnvironment environment).parser directory
    let ran := Session.run { settings } feed NullImage.mk journal
    (∀ phase, phase ≠ .pageRecords → (Refuses shown phase ↔ Session.GaveUp ran phase)) ∧
      ((∀ phase, phase ≠ .pageRecords → ¬ Refuses shown phase) →
        ∃ header declared, shown = .ok (header, declared) ∧
          ∀ outcome, ran.2.result = .ok outcome →
            outcome.header = header ∧ outcome.declared = declared) := by
  intro shown ran
  have parser : (Settings.ofEnvironment environment).parser = settings.parser := by
    rw [Settings.parser_standard standard, Settings.parser_standard]
    rfl
  have shows := readOpening_exact found looking flat
  rw [← parser] at shows
  rcases opens : Whole.opening settings content none with ⟨stage, failure⟩ | opened
  · rw [opens] at shows
    obtain ⟨part, doing, told, reading, blames, blames', early, refused⟩ := shows
    rw [← bytes, ← clean] at opens
    have refuses (phase : Phase) : Refuses shown phase ↔ phase = part := by
      rw [refuses_iff refused, blames'.phase_eq]
      exact ⟨fun same => (Option.some.inj same).symm, fun same => same ▸ rfl⟩
    constructor
    · intro phase _
      rw [refuses]
      exact (Session.first_closed opens NullImage.mk journal blames reading phase).symm
    · intro accepts
      exact absurd ((refuses part).mpr rfl) (accepts part early)
  · rw [opens] at shows
    rw [← bytes, ← clean] at opens
    obtain ⟨late, decoded⟩ :=
      Session.first_opened opens (ImageSink.null_faultless NullImage.mk) journal
    have accepted : shown = .ok (opened.header, opened.declared) := shows
    constructor
    · intro phase early
      constructor
      · rintro ⟨doing, failure, refused, -⟩
        cases accepted.symm.trans refused
      · intro gave
        exact absurd (late phase gave) early
    · intro _
      exact ⟨opened.header, opened.declared, accepted, decoded⟩

-- A save that is cut inside its header.
theorem readOpening_agrees_cut :
    let content := magicPartial ++ [2, 0, 0]
    let directory : Directory := ⟨[(["save"], .file content)], []⟩
    directory.lookUp "save" = .ok (.file content) ∧
      Refuses (readOpening "save" (Settings.ofEnvironment []).parser directory) .containerHeader := by
  intro content directory
  have spelled : "save".toList = ['s', 'a', 'v', 'e'] := rfl
  have leads : directory.resolve "save" = .ok (["save"], false) :=
    directory.resolve_relative spelled (by decide) (by decide) (by decide)
  have found : directory.lookUp "save" = .ok (.file content) := by
    rw [Directory.lookUp, leads]
    rfl
  let feed : Feed := [.piece (content.take 7), .piece (content.drop 7), .ended]
  have closes : Whole.opening {} feed.bytes feed.fault? =
      .error (.readingContainerHeader, .malformed (.containerCut 19)) := rfl
  have gave := Session.first_closed closes NullImage.mk .empty ⟨_, rfl, rfl⟩ rfl .containerHeader
  have standard : ({} : Settings).extraMagics = [] := rfl
  have bytes : feed.bytes = content := rfl
  have agrees := readOpening_agrees found [] rfl rfl standard bytes rfl .empty
  exact ⟨found, (agrees.1 .containerHeader (by simp)).mpr (gave.mpr rfl)⟩

end CommandLine

end PageStream
