import PageStream.Failure

namespace PageStream

structure Record where
  bytes : Bytes
  length_eq : bytes.length = recordSize
  deriving DecidableEq

namespace Record

def headerBytes (record : Record) : Bytes := record.bytes.take pageHeaderLength

def payload (record : Record) : Bytes := record.bytes.drop pageHeaderLength

end Record

structure Framer where
  carry : Bytes
  ready : List Record
  emitted : Nat
  bytesIn : Nat
  carry_lt : carry.length < recordSize
  deriving DecidableEq

structure Frames where
  framer : Framer
  input : Bytes

namespace Framer

def empty : Framer := ⟨[], [], 0, 0, by decide⟩

def pending (framer : Framer) : Nat := framer.carry.length

def feed (framer : Framer) (piece : Bytes) : Frames :=
  ⟨{ framer with bytesIn := framer.bytesIn + piece.length }, piece⟩

-- Nothing new comes in; what is ready can be pulled.
def resume (framer : Framer) : Frames := framer.feed []

-- The end of the stream: the number of records pulled, unless one is incomplete.
def finish (framer : Framer) : Except Failure Nat :=
  if framer.carry = [] then .ok framer.emitted else .error (.truncated framer.pending)

end Framer

namespace Frames

-- Completes the carried bytes to a record, or carries all of the input.
def cut (frames : Frames) : Option Record × Frames :=
  let framer := frames.framer
  let need := recordSize - framer.carry.length
  if short : frames.input.length < need then
    (none, ⟨{ framer with
      carry := framer.carry ++ frames.input
      carry_lt := by have := framer.carry_lt; simp only [List.length_append]; omega }, []⟩)
  else
    (some ⟨framer.carry ++ frames.input.take need, by
        have := framer.carry_lt
        simp only [List.length_append, List.length_take]; omega⟩,
      ⟨{ framer with carry := [], carry_lt := by decide }, frames.input.drop need⟩)

theorem cut_shorter {frames after : Frames} {record : Record}
    (made : frames.cut = (some record, after)) : after.input.length < frames.input.length := by
  have small := frames.framer.carry_lt
  unfold cut at made
  dsimp only at made
  split at made
  · cases made
  · cases made
    simp only [List.length_drop]
    omega

def emit (frames : Frames) : Frames :=
  { frames with framer := { frames.framer with emitted := frames.framer.emitted + 1 } }

def next (frames : Frames) : Option Record × Frames :=
  match frames.framer.ready with
  | record :: ready => (some record, { frames with framer := { frames.framer with ready } }.emit)
  | [] =>
    match frames.cut with
    | (none, after) => (none, after)
    | (some record, after) => (some record, after.emit)

def keep (frames : Frames) (record : Record) : Frames :=
  { frames with framer := { frames.framer with ready := frames.framer.ready ++ [record] } }

-- Pulling is over: the remaining records become ready and the tail is carried.
def close (frames : Frames) : Framer :=
  match _made : frames.cut with
  | (none, after) => after.framer
  | (some record, after) => (after.keep record).close
termination_by frames.input.length
decreasing_by
  have shorter := cut_shorter ‹frames.cut = (some record, after)›
  exact shorter

def weight (frames : Frames) : Nat := frames.framer.ready.length + frames.input.length

theorem cut_ready (frames : Frames) : frames.cut.2.framer.ready = frames.framer.ready := by
  unfold cut; dsimp only; split <;> rfl

theorem next_lighter {frames after : Frames} {record : Record}
    (pulled : frames.next = (some record, after)) : after.weight < frames.weight := by
  unfold next at pulled
  split at pulled
  · rename_i ready held
    cases pulled
    simp [weight, emit, held]
  · rename_i none_ready
    split at pulled
    · cases pulled
    · rename_i made
      cases pulled
      have shorter := cut_shorter made
      have same := cut_ready frames
      rw [made] at same
      simp only [weight, emit] at *
      simp only [same]
      omega

def take : Nat → Frames → List Record × Frames
  | 0, frames => ([], frames)
  | count + 1, frames =>
    match frames.next with
    | (none, after) => ([], after)
    | (some record, after) =>
      let (records, last) := take count after
      (record :: records, last)

def drain (frames : Frames) : List Record × Framer :=
  match _pulled : frames.next with
  | (none, after) => ([], after.close)
  | (some record, after) =>
    let (records, framer) := after.drain
    (record :: records, framer)
termination_by frames.weight
decreasing_by exact next_lighter (by assumption)

end Frames

end PageStream
