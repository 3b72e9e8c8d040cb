import PageStream.Proofs.Coupling
import PageStream.Proofs.Grammar

namespace PageStream

namespace ImageSink

variable {σ : Type} [ImageSink σ]

-- The call at the position fails, and none before it. Of later calls nothing is said.
def FailsAt (sink : σ) (position : Nat) (fault : DeviceFault) : Prop :=
  ∀ calls call, calls.length ≤ position →
    (perform (after sink calls) call).2 = if calls.length = position then some fault else none

namespace FailsAt

variable {sink : σ} {position : Nat} {fault : DeviceFault}

theorem fails (bad : FailsAt sink 0 fault) (call : ImageCall) :
    perform sink call = ((perform sink call).1, some fault) := by
  refine Prod.ext rfl ?_
  exact bad [] call (Nat.le_refl 0)

theorem passes (bad : FailsAt sink (position + 1) fault) (call : ImageCall) :
    perform sink call = ((perform sink call).1, none) := by
  refine Prod.ext rfl ?_
  exact bad [] call (Nat.zero_le _)

theorem next (bad : FailsAt sink (position + 1) fault) (call : ImageCall) :
    FailsAt (perform sink call).1 position fault := by
  intro calls other early
  have later := bad (call :: calls) other (Nat.succ_le_succ early)
  rw [List.length_cons, after_cons] at later
  rw [later]
  by_cases here : calls.length = position
  · rw [if_pos here, if_pos (congrArg (· + 1) here)]
  · rw [if_neg here, if_neg (fun there => here (Nat.succ.inj there))]

theorem recorder {recorder : Recorder σ} (bad : FailsAt recorder.behind position fault) :
    FailsAt recorder position fault := by
  intro calls call early
  rw [recorder_after]
  exact bad calls call early

theorem performAll (bad : FailsAt sink position fault) {steps : List Step} {step : Step}
    (there : steps[position]? = some step) :
    performAll sink steps =
      (after sink ((steps.take (position + 1)).map (·.call)), some (step, fault)) := by
  induction steps generalizing sink position with
  | nil => cases there
  | cons first rest ih =>
    cases position with
    | zero =>
      rw [List.getElem?_cons_zero, Option.some.injEq] at there
      rw [performAll_stopped rest (bad.fails first.call), there]
      rfl
    | succ position =>
      rw [List.getElem?_cons_succ] at there
      rw [performAll_done rest (bad.passes first.call), ih (bad.next first.call) there]
      rfl

end FailsAt

end ImageSink

structure Sabotaged (σ : Type) where
  behind : σ
  fault : DeviceFault
  -- How many calls still come before the fault; none when it has been reported.
  left : Option Nat

instance {σ : Type} [ImageSink σ] : ImageSink (Sabotaged σ) where
  perform sink call :=
    let (behind, answer) := ImageSink.perform sink.behind call
    match sink.left with
    | none => ({ sink with behind }, answer)
    | some 0 => ({ sink with behind, left := none }, some sink.fault)
    | some (left + 1) => ({ sink with behind, left := some left }, answer)

theorem ImageSink.sabotaged_failsAt {σ : Type} [ImageSink σ] {sink : σ} (sound : Faultless sink)
    (position : Nat) (fault : DeviceFault) :
    FailsAt (Sabotaged.mk sink fault (some position)) position fault := by
  intro calls call early
  induction calls generalizing sink position with
  | nil =>
    cases position with
    | zero => rfl
    | succ position => exact sound [] call
  | cons first rest ih =>
    cases position with
    | zero => cases early
    | succ position =>
      have later := ih (sound.next first) position (Nat.le_of_succ_le_succ early)
      rw [List.length_cons, after_cons]
      simp only [Nat.add_right_cancel_iff]
      exact later

-- At most one write of a kept header, one announcement of a length, pages, at most one flush. Nothing
-- at all if the headers are not got past, and only the kept header if the length is no word.
inductive Step.Shape : List Step → Prop where
  | closed : Shape []
  | kept {kept : Bytes} (aligned : kept.length = alignedLength) :
      Shape [⟨.write 0 kept, .readingSizeHeader, 0⟩]
  | opened {kept : Bytes} (aligned : kept = [] ∨ kept.length = alignedLength)
      {declared : DeclaredSize} (room : kept.length + declared.bytes < 2 ^ 64)
      (pages : List Record) (flushed : Bool) :
      Shape (Step.sequence kept declared pages flushed)

namespace Session

variable {σ τ : Type} [ImageSink σ] [ImageSink τ]

def steps (session : Session) (feed : Feed) : List Step :=
  if session.stage = .init then (Whole.plan session.settings feed.bytes feed.fault?).steps else []

theorem steps_fresh {session : Session} (fresh : session.stage = .init) (feed : Feed) :
    session.steps feed = (Whole.plan session.settings feed.bytes feed.fault?).steps :=
  if_pos fresh

theorem steps_used {session : Session} (used : session.stage ≠ .init) (feed : Feed) :
    session.steps feed = [] := if_neg used

theorem steps_shape (session : Session) (feed : Feed) : Step.Shape (session.steps feed) := by
  by_cases fresh : session.stage = .init
  · rw [steps_fresh fresh]
    rcases opens : Whole.opening session.settings feed.bytes feed.fault? with
      ⟨stage, failure⟩ | opened
    · rw [Whole.plan_closed opens]
      exact .closed
    · by_cases fits : opened.Fits
      · have size := Whole.kept_length (Whole.opening_ok.mp opens).2.2.1
        rw [Whole.plan_steps opens fits]
        refine .opened ?_ fits _ _
        split at size
        · exact .inr size
        · exact .inl (List.length_eq_zero_iff.mp size)
      · have aligned := Whole.opening_overruns opens fits
        rw [Whole.plan_opened opens, Opened.decoding_overruns fits]
        exact Opened.keeping_kept aligned ▸ .kept aligned
  · rw [steps_used fresh]
    exact .closed

theorem run_follows (session : Session) (feed : Feed) (sink : σ) (journal : Journal) :
    (session.run feed (Recorder.mk sink []) journal).2.sink.calls <+:
      (session.steps feed).map (·.call) := by
  by_cases fresh : session.stage = .init
  · have left := congrArg (·.2.2.calls) (run_fresh fresh feed (Recorder.mk sink []) journal).1
    obtain ⟨made, recorded, follows, -, -⟩ := ImageSink.performAll_recorded sink []
      (Whole.plan session.settings feed.bytes feed.fault?).steps
    rw [Plan.carryOut_sink, recorded] at left
    rw [steps_fresh fresh]
    exact left ▸ follows
  · rw [run_used fresh, steps_used fresh]
    exact List.prefix_refl _

theorem run_makes (session : Session) (feed : Feed) {sink : σ}
    (sound : ImageSink.Faultless sink) (journal : Journal) :
    (session.run feed (Recorder.mk sink []) journal).2.sink.calls =
      (session.steps feed).map (·.call) := by
  by_cases fresh : session.stage = .init
  · have undisturbed := undisturbed_of_faultless sound session feed journal
    rw [run_sink fresh (undisturbed.recorded fresh), ImageSink.recorder_after, steps_fresh fresh]
    rfl
  · rw [run_used fresh, steps_used fresh]
    rfl

theorem run_stopped (session : Session) (feed : Feed) {broken : τ} {position : Nat}
    {fault : DeviceFault} (bad : ImageSink.FailsAt broken position fault) (journal : Journal)
    {step : Step} (there : (session.steps feed)[position]? = some step) :
    (session.run feed (Recorder.mk broken []) journal).2.sink.calls =
        ((session.steps feed).take (position + 1)).map (·.call) ∧
      (session.run feed (Recorder.mk broken []) journal).2.result =
        .error (.write step.place fault) ∧
      (session.run feed (Recorder.mk broken []) journal).1 =
        { session with stage := .failed, failedIn := some step.stage } := by
  by_cases fresh : session.stage = .init
  · obtain ⟨ended, closed⟩ := run_fresh fresh feed (Recorder.mk broken []) journal
    rw [steps_fresh fresh] at there ⊢
    have failed : ImageSink.FailsAt (Recorder.mk broken []) position fault := .recorder bad
    rw [Plan.carryOut, failed.performAll there, ImageSink.recorder_after] at ended
    obtain ⟨stage, rest⟩ := Prod.mk.inj ended
    obtain ⟨result, sink⟩ := Prod.mk.inj rest
    refine ⟨congrArg Recorder.calls sink, result, ?_⟩
    rw [closed, stage, result, closed_failed session step.stage (by intro broke; cases broke)]
  · rw [steps_used fresh] at there
    cases there

-- Recorders of a sink that never fails and of one that fails at a call: they answer alike up to it.
def recording (position : Nat) (fault : DeviceFault) : Coupling (Recorder σ) (Recorder τ) where
  alike one two := one.calls = two.calls ∧ ImageSink.Faultless one.behind ∧
    ∃ left, two.calls.length + left = position ∧ ImageSink.FailsAt two.behind left fault
  lost two := position < two.calls.length
  call := by
    rintro one two ⟨same, sound, left, made, bad⟩ call
    have answered : ImageSink.perform one call =
        (⟨(ImageSink.perform one.behind call).1, one.calls ++ [call]⟩, none) :=
      Prod.ext rfl (sound [] call)
    cases left with
    | zero =>
      have fails : (ImageSink.perform two call).2 = some fault :=
        congrArg Prod.snd (bad.fails call)
      refine .inr ⟨fault, ⟨(ImageSink.perform two.behind call).1, two.calls ++ [call]⟩,
        Prod.ext rfl fails, ?_⟩
      rw [List.length_append, List.length_singleton]
      omega
    | succ left =>
      have passes : (ImageSink.perform two call).2 = none :=
        congrArg Prod.snd (bad.passes call)
      refine .inl ⟨none, _, ⟨(ImageSink.perform two.behind call).1, two.calls ++ [call]⟩, answered,
        Prod.ext rfl passes, ?_, sound.next call, left, ?_, bad.next call⟩
      · rw [same]
      · rw [List.length_append, List.length_singleton]
        omega

theorem run_unstopped (session : Session) (feed : Feed) {sink : σ}
    (sound : ImageSink.Faultless sink) {broken : τ} {position : Nat} {fault : DeviceFault}
    (bad : ImageSink.FailsAt broken position fault) (journal : Journal)
    (beyond : (session.steps feed).length ≤ position) :
    ∃ next, next.calls = (session.run feed (Recorder.mk sink []) journal).2.sink.calls ∧
      session.run feed (Recorder.mk broken []) journal =
        ((session.run feed (Recorder.mk sink []) journal).1,
          (session.run feed (Recorder.mk sink []) journal).2.wire next) := by
  have alike : (recording position fault).alike (Recorder.mk sink []) (Recorder.mk broken []) :=
    ⟨rfl, sound, position, Nat.zero_add _, bad⟩
  rcases run_coupled (recording position fault) alike session feed journal with
    ⟨next, alike, same⟩ | lost
  · exact ⟨next, alike.1.symm, same⟩
  · have few := (run_follows session feed broken journal).length_le
    rw [List.length_map] at few
    exact absurd lost (Nat.not_lt.mpr (Nat.le_trans few beyond))

-- Two runs of one session on one stream, the second with a fault at a call.
structure Injected (steps : List Step) (position : Nat) (fault : DeviceFault)
    (whole : Session × Run (Recorder σ)) (broken : Session × Run (Recorder τ)) : Prop where
  calls : whole.2.sink.calls = steps.map (·.call)
  stopped : ∀ step, steps[position]? = some step →
    broken.2.sink.calls = whole.2.sink.calls.take (position + 1) ∧
      broken.2.result = .error (.write step.place fault) ∧
      broken.1.stage = .failed ∧ broken.1.failedIn = some step.stage
  unstopped : steps.length ≤ position →
    broken.2.sink.calls = whole.2.sink.calls ∧ broken.1 = whole.1 ∧
      broken.2.stage = whole.2.stage ∧ broken.2.result = whole.2.result ∧
      broken.2.feed = whole.2.feed ∧ broken.2.journal = whole.2.journal

theorem run_injected (session : Session) (feed : Feed) (journal : Journal) {sink : σ}
    (sound : ImageSink.Faultless sink) {broken : τ} {position : Nat} {fault : DeviceFault}
    (bad : ImageSink.FailsAt broken position fault) :
    Step.Shape (session.steps feed) ∧
      (∀ {ρ : Type} [ImageSink ρ] (other : ρ),
        (session.run feed (Recorder.mk other []) journal).2.sink.calls <+:
          (session.steps feed).map (·.call)) ∧
      Injected (session.steps feed) position fault
        (session.run feed (Recorder.mk sink []) journal)
        (session.run feed (Recorder.mk broken []) journal) := by
  have makes := run_makes session feed sound journal
  refine ⟨session.steps_shape feed, fun other => run_follows session feed other journal, makes,
    ?stopped, ?unstopped⟩
  case stopped =>
    intro step there
    obtain ⟨calls, result, closed⟩ := run_stopped session feed bad journal there
    rw [makes, calls, result, closed, List.map_take]
    exact ⟨rfl, rfl, rfl, rfl⟩
  case unstopped =>
    intro beyond
    obtain ⟨next, calls, same⟩ := run_unstopped session feed sound bad journal beyond
    rw [same]
    exact ⟨calls, rfl, rfl, rfl, rfl, rfl⟩

-- Two pages, and an image that cannot be flushed once it holds them.
theorem run_injected_flush :
    let first := Record.filled ⟨0, 0, by decide, by decide⟩ 1
    let other := Record.filled ⟨pageSize, 0, by decide, by decide⟩ 2
    let session : Session := ⟨{ container := .absent }, .init, none⟩
    let feed : Feed := [.piece [0, 32, 0], .piece ([0, 0, 0, 0, 0] ++ first.bytes),
      .piece other.bytes, .ended]
    let fault : DeviceFault := .reported false "no space left on device"
    let broken : Sabotaged MemoryImage := ⟨⟨[]⟩, fault, some 3⟩
    (session.run feed (Recorder.mk broken []) .empty).2.sink.calls =
        [.resize (2 * pageSize), .write 0 first.payload, .write pageSize other.payload, .flush] ∧
      (session.run feed (Recorder.mk broken []) .empty).2.result = .error (.write 0 fault) ∧
      (session.run feed (Recorder.mk broken []) .empty).1.failedIn = some .streamingRecords := by
  intro first other session feed fault broken
  have aligned : ∀ record ∈ [first, other], record.aligned = true := by
    simp [first, other, Record.aligned]
  have grammar : Grammar session.settings feed.bytes none [] [0, 32, 0, 0, 0, 0, 0, 0]
      ⟨2 * pageSize, by decide⟩ [first, other] :=
    .of_absent rfl (by simp [feed, Feed.bytes, Record.join]) rfl (by decide) aligned
  obtain ⟨kept, opens⟩ := grammar.opens
  cases (Whole.opening_ok.mp opens).2.2.1
  have whole : Opened.objection none
      ⟨none, ⟨2 * pageSize, by decide⟩, [], Record.join [first, other]⟩ = none := by
    rw [Opened.objection_none, Opened.records_joined, Opened.tail_joined]
    exact ⟨aligned, rfl⟩
  have clean : feed.fault? = none := rfl
  have steps : session.steps feed =
      Step.sequence [] ⟨2 * pageSize, by decide⟩ [first, other] true := by
    rw [steps_fresh rfl, clean, Whole.plan_steps opens (by decide), whole, Opened.applied,
      Opened.records_joined, Record.sound_all aligned, decide_eq_true rfl]
  have sound := ImageSink.memory_faultless ⟨[]⟩
  have bad : ImageSink.FailsAt broken 3 fault := ImageSink.sabotaged_failsAt sound 3 fault
  obtain ⟨-, -, injected⟩ := run_injected session feed .empty sound bad
  have there : (session.steps feed)[3]? = some ⟨.flush, .streamingRecords, 0⟩ := by
    rw [steps]
    rfl
  obtain ⟨calls, result, -, stage⟩ := injected.stopped _ there
  rw [injected.calls, steps] at calls
  refine ⟨calls.trans ?_, result, stage⟩
  simp [Step.sequence, Record.step, first, other]

end Session

end PageStream
