import PageStream.Image
import PageStream.Stage

namespace PageStream

-- A call, with the stage it is made in and the place at which a fault of it is reported.
structure Step where
  call : ImageCall
  stage : Stage
  place : Nat
  deriving DecidableEq

namespace ImageSink

variable {σ : Type} [ImageSink σ]

def after (sink : σ) (calls : List ImageCall) : σ :=
  calls.foldl (fun sink call => (perform sink call).1) sink

-- Makes the calls up to the first one that fails, and tells which one that was.
def performAll (sink : σ) : List Step → σ × Option (Step × DeviceFault)
  | [] => (sink, none)
  | step :: rest =>
    match perform sink step.call with
    | (sink, some fault) => (sink, some (step, fault))
    | (sink, none) => performAll sink rest

def Faultless (sink : σ) : Prop :=
  ∀ calls call, (perform (after sink calls) call).2 = none

-- None of these calls fails, made one after another.
def Accepts (sink : σ) : List ImageCall → Prop
  | [] => True
  | call :: rest => (perform sink call).2 = none ∧ Accepts (perform sink call).1 rest

@[simp] theorem after_nil (sink : σ) : after sink [] = sink := rfl

@[simp] theorem after_cons (sink : σ) (call : ImageCall) (rest : List ImageCall) :
    after sink (call :: rest) = after (perform sink call).1 rest := rfl

theorem after_append (sink : σ) (first second : List ImageCall) :
    after sink (first ++ second) = after (after sink first) second := List.foldl_append

theorem performAll_done {sink next : σ} {step : Step} (rest : List Step)
    (made : perform sink step.call = (next, none)) :
    performAll sink (step :: rest) = performAll next rest := by
  simp only [performAll, made]

theorem performAll_stopped {sink next : σ} {step : Step} {fault : DeviceFault} (rest : List Step)
    (made : perform sink step.call = (next, some fault)) :
    performAll sink (step :: rest) = (next, some (step, fault)) := by
  simp only [performAll, made]

theorem performAll_append (sink : σ) (first second : List Step) :
    performAll sink (first ++ second) =
      match performAll sink first with
      | (next, none) => performAll next second
      | (next, some stop) => (next, some stop) := by
  induction first generalizing sink with
  | nil => rfl
  | cons step rest ih =>
    rcases made : perform sink step.call with ⟨next, _ | fault⟩
    · rw [List.cons_append, performAll_done _ made, performAll_done _ made, ih]
    · rw [List.cons_append, performAll_stopped _ made, performAll_stopped _ made]

theorem performAll_stopped_at {sink next : σ} {steps : List Step} {step : Step}
    {fault : DeviceFault} (stopped : performAll sink steps = (next, some (step, fault))) :
    step ∈ steps ∧ ∃ before, (perform (after sink before) step.call).2 = some fault := by
  induction steps generalizing sink with
  | nil => cases stopped
  | cons first rest ih =>
    rcases made : perform sink first.call with ⟨middle, _ | report⟩
    · rw [performAll_done rest made] at stopped
      obtain ⟨member, before, failed⟩ := ih stopped
      refine ⟨List.mem_cons_of_mem _ member, first.call :: before, ?_⟩
      rw [after_cons, made]
      exact failed
    · rw [performAll_stopped rest made] at stopped
      cases stopped
      exact ⟨List.mem_cons_self, [], congrArg Prod.snd made⟩

theorem accepts_append {sink : σ} {first second : List ImageCall} :
    Accepts sink (first ++ second) ↔ Accepts sink first ∧ Accepts (after sink first) second := by
  induction first generalizing sink with
  | nil => exact (and_iff_right trivial).symm
  | cons call rest ih => rw [List.cons_append, Accepts, Accepts, ih, after_cons, and_assoc]

theorem Accepts.take {sink : σ} {calls : List ImageCall} (accepts : Accepts sink calls)
    (count : Nat) : Accepts sink (calls.take count) := by
  rw [← List.take_append_drop count calls] at accepts
  exact (accepts_append.mp accepts).1

theorem Accepts.performAll {sink : σ} {steps : List Step}
    (accepts : Accepts sink (steps.map (·.call))) :
    performAll sink steps = (after sink (steps.map (·.call)), none) := by
  induction steps generalizing sink with
  | nil => rfl
  | cons step rest ih =>
    have made : perform sink step.call = ((perform sink step.call).1, none) :=
      Prod.ext rfl accepts.1
    rw [performAll_done rest made, ih accepts.2]
    rfl

theorem performAll_made {sink next : σ} {steps : List Step}
    (done : performAll sink steps = (next, none)) :
    Accepts sink (steps.map (·.call)) ∧ next = after sink (steps.map (·.call)) := by
  induction steps generalizing sink with
  | nil => cases done; exact ⟨trivial, rfl⟩
  | cons first rest ih =>
    rcases made : perform sink first.call with ⟨middle, _ | report⟩
    · rw [performAll_done rest made] at done
      rw [List.map_cons, Accepts, after_cons, made]
      exact ⟨⟨rfl, (ih done).1⟩, (ih done).2⟩
    · rw [performAll_stopped rest made] at done
      cases done

theorem Faultless.next {sink : σ} (sound : Faultless sink) (call : ImageCall) :
    Faultless (perform sink call).1 := fun calls => sound (call :: calls)

theorem Faultless.performs {sink : σ} (sound : Faultless sink) (call : ImageCall) :
    perform sink call = ((perform sink call).1, none) := Prod.ext rfl (sound [] call)

theorem Faultless.accepts {sink : σ} (sound : Faultless sink) (calls : List ImageCall) :
    Accepts sink calls := by
  induction calls generalizing sink with
  | nil => trivial
  | cons call rest ih => exact ⟨sound [] call, ih (sound.next call)⟩

theorem faultless_of_answers (silent : ∀ (sink : σ) call, (perform sink call).2 = none)
    (sink : σ) : Faultless sink := fun _ call => silent _ call

theorem memory_faultless (image : MemoryImage) : Faultless image := by
  refine faultless_of_answers ?_ image
  intro image call
  cases call <;> rfl

theorem null_faultless (image : NullImage) : Faultless image :=
  faultless_of_answers (fun _ _ => rfl) image

theorem recorder_after (recorder : Recorder σ) (calls : List ImageCall) :
    after recorder calls = ⟨after recorder.behind calls, recorder.calls ++ calls⟩ := by
  induction calls generalizing recorder with
  | nil => simp only [after_nil, List.append_nil]
  | cons call rest ih =>
    rw [after_cons, ih]
    simp only [perform, after_cons, List.append_assoc, List.singleton_append]

theorem recorder_accepts {recorder : Recorder σ} {calls : List ImageCall} :
    Accepts recorder calls ↔ Accepts recorder.behind calls := by
  induction calls generalizing recorder with
  | nil => rfl
  | cons call rest ih =>
    rw [Accepts, Accepts, ih]
    rfl

-- What a recorder lists of some calls: those made, the last of which may have failed.
theorem performAll_recorded (sink : σ) (before : List ImageCall) (steps : List Step) :
    ∃ made, performAll (Recorder.mk sink before) steps =
        (⟨after sink made, before ++ made⟩, (performAll sink steps).2) ∧
      made <+: steps.map (·.call) ∧ (performAll sink steps).1 = after sink made ∧
      ((performAll sink steps).2 ≠ none → ¬ Accepts sink made) := by
  induction steps generalizing sink before with
  | nil =>
    refine ⟨[], ?_, List.prefix_refl _, rfl, fun stopped => absurd rfl stopped⟩
    rw [List.append_nil]
    rfl
  | cons step rest ih =>
    rcases made : perform sink step.call with ⟨next, _ | fault⟩
    · have recorded : perform (Recorder.mk sink before) step.call =
          (⟨next, before ++ [step.call]⟩, none) := by
        simp only [perform, made]
      obtain ⟨more, performed, follows, left, broken⟩ := ih next (before ++ [step.call])
      refine ⟨step.call :: more, ?_, ?_, ?_, ?_⟩
      · rw [performAll_done rest recorded, performAll_done rest made, performed, after_cons, made,
          List.append_assoc, List.singleton_append]
      · exact List.cons_prefix_cons.mpr ⟨rfl, follows⟩
      · rw [performAll_done rest made, after_cons, made, left]
      · rw [performAll_done rest made, Accepts, made]
        exact fun stopped both => broken stopped both.2
    · have recorded : perform (Recorder.mk sink before) step.call =
          (⟨next, before ++ [step.call]⟩, some fault) := by
        simp only [perform, made]
      refine ⟨[step.call], ?_, ?_, ?_, ?_⟩
      · rw [performAll_stopped rest recorded, performAll_stopped rest made, after_cons, made,
          after_nil]
      · rw [List.map_cons]
        exact List.cons_prefix_cons.mpr ⟨rfl, List.nil_prefix⟩
      · rw [performAll_stopped rest made, after_cons, made, after_nil]
      · rw [Accepts, made]
        exact fun _ both => by cases both.1

theorem recorded_accepts {sink : σ} {steps : List Step} :
    Accepts sink (performAll (Recorder.mk sink []) steps).1.calls ↔
      Accepts sink (steps.map (·.call)) := by
  obtain ⟨made, recorded, ⟨rest, whole⟩, -, broken⟩ := performAll_recorded sink [] steps
  rw [recorded, List.nil_append]
  constructor
  · intro accepts
    have done : (performAll sink steps).2 = none :=
      Classical.not_not.mp fun stopped => broken stopped accepts
    exact (performAll_made (Prod.ext rfl done)).1
  · rw [← whole, accepts_append]
    exact And.left

end ImageSink

end PageStream
