import PageStream.Proofs.Reading

namespace PageStream

namespace Feed

def size : Feed → Nat
  | [] => 0
  | .piece bytes :: rest => bytes.length + size rest
  | _ :: rest => size rest

@[simp] theorem size_nil : size [] = 0 := rfl

@[simp] theorem size_append (one two : Feed) : size (one ++ two) = size one + size two := by
  induction one with
  | nil => exact (Nat.zero_add _).symm
  | cons answer rest ih =>
    cases answer with
    | piece bytes =>
      rw [List.cons_append, size, size, ih, Nat.add_assoc]
    | ended => exact ih
    | failed fault => exact ih

theorem size_pieces (pieces : List Bytes) :
    size (pieces.map .piece) = pieces.flatten.length := by
  induction pieces with
  | nil => rfl
  | cons piece rest ih =>
    rw [List.map_cons, size, ih, List.flatten_cons, List.length_append]

@[simp] theorem size_ended (count : Nat) : size (List.replicate count .ended) = 0 := by
  induction count with
  | zero => rfl
  | succ count ih => exact ih

end Feed

theorem Message.answer_isLast (message : Message) : message.answer.isLast = message.isLast := by
  cases message <;> rfl

namespace Handoff

-- What the producer will still say when it holds nothing.
def future (h : Handoff) : Feed :=
  match h.producer with
  | .running => h.reader.deliveries h.chunk .producerGone
  | .stopped => []
  | .crashed => [.failed .producerGone]

def behind (h : Handoff) : Feed :=
  match h.held with
  | none => h.future
  | some message => message.answer :: (h.afterSend message).future

def pending (h : Handoff) : Feed := h.queue.map (·.answer) ++ h.behind

def owed (h : Handoff) : Feed := if h.closed then [] else h.pending

def underway (h : Handoff) : Feed := (h.queue ++ h.held.toList).map (·.answer)

-- Moves that a producer may still need for what it has not read yet, and the consumer's for them.
def reading (h : Handoff) : Nat :=
  if h.producer = .running then 3 * (h.reader.budget + 1) else 0

def effort (h : Handoff) : Nat :=
  match h.held with
  | none => h.reading
  | some message => 2 + (h.afterSend message).reading

-- No more moves than this are left before the consumer has had its last answer.
def weight (h : Handoff) : Nat := h.queue.length + h.effort

-- What holds between any two moves.
structure Sound (h : Handoff) : Prop where
  positive : 0 < h.chunk
  solid : h.reader.Solid
  holding : h.held ≠ none → h.producer = .running
  unfinished : h.closed = false → h.pending.Complete
  finished : h.closed = true → h.queue = [] ∧ h.held = none ∧ h.producer ≠ .running

theorem owed_open {h : Handoff} (unfinished : h.closed = false) : h.owed = h.pending := by
  rw [owed, unfinished]
  rfl

theorem future_nil {h : Handoff} (nothing : h.future = []) : h.producer = .stopped := by
  cases state : h.producer with
  | running =>
    simp only [future, state, Reader.deliveries, List.append_eq_nil_iff, List.cons_ne_self] at nothing
    cases nothing.2
  | stopped => rfl
  | crashed =>
    simp only [future, state] at nothing
    cases nothing

theorem behind_nil {h : Handoff} (nothing : h.behind = []) :
    h.held = none ∧ h.producer = .stopped := by
  cases held : h.held with
  | some message =>
    simp only [behind, held] at nothing
    cases nothing
  | none =>
    simp only [behind, held] at nothing
    exact ⟨rfl, future_nil nothing⟩

theorem ahead_running {h : Handoff} (running : h.producer = .running) :
    h.future = h.reader.deliveries h.chunk .producerGone ∧
      h.reading = 3 * (h.reader.budget + 1) := by
  rw [future, running]
  exact ⟨rfl, if_pos running⟩

theorem ahead_stopped {h : Handoff} (stopped : h.producer = .stopped) :
    h.future = [] ∧ h.reading = 0 := by
  rw [future, reading, stopped]
  exact ⟨rfl, rfl⟩

theorem free_running {h : Handoff} (free : h.held = none) (running : h.producer = .running) :
    h.behind = h.reader.deliveries h.chunk .producerGone ∧
      h.effort = 3 * (h.reader.budget + 1) := by
  rw [behind, effort, free]
  exact ahead_running running

theorem holds_piece {h : Handoff} {bytes : Bytes} (held : h.held = some (.piece bytes))
    (running : h.producer = .running) :
    h.behind = .piece bytes :: h.reader.deliveries h.chunk .producerGone ∧
      h.effort = 2 + 3 * (h.reader.budget + 1) := by
  have still : (h.afterSend (.piece bytes)).producer = .running := running
  obtain ⟨later, work⟩ := ahead_running still
  rw [behind, effort, held]
  exact ⟨congrArg (.piece bytes :: ·) later, congrArg (2 + ·) work⟩

theorem holds_last {h : Handoff} {message : Message} (held : h.held = some message)
    (last : message.isLast = true) : h.behind = [message.answer] ∧ h.effort = 2 := by
  have stopped : (h.afterSend message).producer = .stopped := by
    rw [afterSend, last]
    rfl
  obtain ⟨later, work⟩ := ahead_stopped stopped
  rw [behind, effort, held]
  exact ⟨congrArg (message.answer :: ·) later, congrArg (2 + ·) work⟩

theorem weight_held {h : Handoff} {message : Message} (held : h.held = some message) :
    h.weight = h.queue.length + (2 + (h.afterSend message).reading) := by rw [weight, effort, held]

-- A move of either side, made while the consumer is still owed something.
structure Advances (h : Handoff) (answer : Option Answer) (after : Handoff) : Prop where
  sound : after.Sound
  owed : h.pending = answer.toList ++ after.owed
  lighter : after.closed = false → after.weight < h.weight
  total : after.total + h.underway.size = h.total + (Feed.size answer.toList + after.underway.size)

theorem send_advances {h : Handoff} (sound : h.Sound) (unfinished : h.closed = false)
    {message : Message} (held : h.held = some message) :
    h.Advances none { h.afterSend message with queue := h.queue ++ [message] } := by
  let after : Handoff := { h.afterSend message with queue := h.queue ++ [message] }
  have same : h.pending = after.pending := by
    have later : after.pending = (h.queue ++ [message]).map (·.answer) ++
      (h.afterSend message).future := rfl
    rw [later, pending, behind, held, List.map_append, List.append_assoc]
    rfl
  refine ⟨⟨sound.positive, sound.solid, ?holding, ?unfinished, ?finished⟩, ?owed, ?lighter, ?total⟩
  case holding =>
    intro holds
    exact absurd rfl holds
  case unfinished =>
    intro _
    exact same ▸ sound.unfinished unfinished
  case finished =>
    intro closed
    rw [show after.closed = false from unfinished] at closed
    cases closed
  case owed =>
    rw [owed_open (h := after) unfinished, same]
    rfl
  case lighter =>
    intro _
    have later : after.weight = (h.queue ++ [message]).length + (h.afterSend message).reading := rfl
    rw [later, weight_held held, List.length_append, List.length_singleton]
    omega
  case total =>
    simp only [underway, afterSend, held, Option.toList_none, Option.toList_some, List.append_nil,
      Feed.size_nil, Nat.zero_add]

theorem told_sound {h : Handoff} (after : Handoff) (sound : h.Sound)
    (unfinished : h.closed = false) {message : Message}
    (whole : h.pending = message.answer :: after.pending) (positive : 0 < after.chunk)
    (solid : after.reader.Solid)
    (holding : after.held ≠ none → after.producer = .running)
    (told : after.closed = message.isLast) :
    after.Sound ∧ h.pending = message.answer :: after.owed := by
  have complete := sound.unfinished unfinished
  rw [whole, Feed.Complete, message.answer_isLast, ← told] at complete
  cases closed : after.closed with
  | true =>
    rw [closed, if_pos rfl] at complete
    obtain ⟨emptied, nothing⟩ := List.append_eq_nil_iff.mp complete
    obtain ⟨free, stopped⟩ := behind_nil nothing
    refine ⟨⟨positive, solid, holding, ?unfinished, ?finished⟩, ?owed⟩
    case unfinished =>
      intro still
      rw [closed] at still
      cases still
    case finished =>
      intro _
      refine ⟨List.map_eq_nil_iff.mp emptied, free, ?_⟩
      rw [stopped]
      decide
    case owed => rw [whole, complete, owed, closed, if_pos rfl]
  | false =>
    rw [closed, if_neg (by decide)] at complete
    refine ⟨⟨positive, solid, holding, ?unfinished, ?finished⟩, ?owed⟩
    case unfinished =>
      intro _
      exact complete
    case finished =>
      intro done
      rw [closed] at done
      cases done
    case owed => rw [whole, owed_open closed]

theorem deliver_advances {h : Handoff} (sound : h.Sound) (unfinished : h.closed = false)
    {message : Message} {queue : List Message} (waits : h.queue = message :: queue) :
    h.Advances (some message.answer) { h with queue, closed := message.isLast } := by
  let after : Handoff := { h with queue, closed := message.isLast }
  have whole : h.pending = message.answer :: after.pending := by
    rw [pending, waits]
    rfl
  obtain ⟨keeps, owed⟩ := told_sound after sound unfinished whole sound.positive
    sound.solid sound.holding rfl
  refine ⟨keeps, owed, ?lighter, ?total⟩
  case lighter =>
    intro _
    have lost : h.queue.length = queue.length + 1 := by rw [waits, List.length_cons]
    change queue.length + h.effort < h.queue.length + h.effort
    omega
  case total =>
    have before : h.underway = message.answer :: after.underway := by
      rw [underway, waits]
      rfl
    rw [before, Option.toList_some, ← List.singleton_append, Feed.size_append]

-- With no room to wait a message changes hands when the consumer asks.
theorem pass_advances {h : Handoff} (sound : h.Sound) (unfinished : h.closed = false)
    (empty : h.queue = []) {message : Message} (held : h.held = some message) :
    h.Advances (some message.answer) { h.afterSend message with closed := message.isLast } := by
  let after : Handoff := { h.afterSend message with closed := message.isLast }
  have same : after.pending = (h.afterSend message).future := by
    have later : after.pending = h.queue.map (·.answer) ++ (h.afterSend message).future := rfl
    rw [later, empty]
    rfl
  have whole : h.pending = message.answer :: after.pending := by
    rw [same, pending, behind, held, empty]
    rfl
  obtain ⟨keeps, owed⟩ := told_sound after sound unfinished whole sound.positive sound.solid
    (fun holds => absurd rfl holds) rfl
  refine ⟨keeps, owed, ?lighter, ?total⟩
  case lighter =>
    intro _
    have later : after.weight = h.queue.length + (h.afterSend message).reading := rfl
    rw [later, weight_held held]
    omega
  case total =>
    have before : h.underway = [message.answer] := by rw [underway, empty, held]; rfl
    have none_left : after.underway = [] := by
      have later : after.underway = (h.queue ++ []).map Message.answer := rfl
      rw [later, empty]
      rfl
    rw [before, none_left]
    rfl

theorem abandon_advances {h : Handoff} (sound : h.Sound) (unfinished : h.closed = false)
    (empty : h.queue = []) (free : h.held = none) (gone : h.producer ≠ .running) :
    h.Advances (some (.failed .producerGone)) { h with closed := true } := by
  have whole : h.pending = h.future := by
    rw [pending, behind, free, empty]
    rfl
  have complete := sound.unfinished unfinished
  have crashed : h.future = [.failed .producerGone] := by
    cases state : h.producer with
    | running => exact absurd state gone
    | stopped =>
      rw [whole, future, state] at complete
      exact complete.elim
    | crashed => rw [future, state]
  refine ⟨⟨sound.positive, sound.solid, sound.holding, ?unfinished, ?finished⟩, ?owed, ?lighter,
    ?total⟩
  case unfinished => intro still; cases still
  case finished =>
    intro _
    exact ⟨empty, free, gone⟩
  case owed =>
    rw [whole, crashed]
    rfl
  case lighter => intro still; cases still
  case total => exact congrArg (h.total + ·) (Nat.zero_add _).symm

theorem reads_advances {h : Handoff} (sound : h.Sound) (unfinished : h.closed = false)
    (free : h.held = none) {reader : Reader} {held : Option Message} {producer : ProducerState}
    {total : Nat} (solid : reader.Solid) (holding : held ≠ none → producer = .running)
    (same : h.behind = behind { h with reader, held, producer, total })
    (lighter : effort { h with reader, held, producer, total } < h.effort)
    (counted : total = h.total + Feed.size (held.toList.map (·.answer))) :
    h.Advances none { h with reader, held, producer, total } := by
  let after : Handoff := { h with reader, held, producer, total }
  have whole : h.pending = after.pending := congrArg (h.queue.map (·.answer) ++ ·) same
  refine ⟨⟨sound.positive, solid, holding, ?unfinished, ?finished⟩, ?owed, ?lighter, ?total⟩
  case unfinished =>
    intro _
    exact whole ▸ sound.unfinished unfinished
  case finished =>
    intro closed
    rw [show after.closed = false from unfinished] at closed
    cases closed
  case owed =>
    rw [owed_open (h := after) unfinished, whole]
    rfl
  case lighter =>
    intro _
    exact Nat.add_lt_add_left lighter h.queue.length
  case total =>
    simp only [underway, free, Option.toList_none, List.append_nil, List.map_append, Feed.size_append,
      Feed.size_nil, counted]
    omega

inductive Read (h : Handoff) : Handoff → Prop where
  | interrupted {rest : Reader} (script : h.reader = .interrupted :: rest) :
      Read h { h with reader := rest }
  | crash {rest : Reader} (script : h.reader = .crash :: rest) :
      Read h { h with reader := rest, producer := .crashed }
  | last {rest : Reader} {message : Message} (solid : rest.Solid) (ends : message.isLast = true)
      (told : ∀ gone, h.reader.deliveries h.chunk gone = [message.answer]) :
      Read h { h with reader := rest, held := some message }
  | piece {rest : Reader} {bytes : Bytes} (solid : rest.Solid)
      (smaller : rest.budget < h.reader.budget)
      (told : ∀ gone, h.reader.deliveries h.chunk gone =
        .piece bytes :: rest.deliveries h.chunk gone) :
      Read h { h with
        reader := rest, held := some (.piece bytes), total := h.total + bytes.length }

theorem readOnce_read {h : Handoff} (positive : 0 < h.chunk) (solid : h.reader.Solid) :
    h.Read h.readOnce := by
  cases script : h.reader with
  | nil =>
    have made : h.readOnce = { h with reader := [], held := some .finish } := by
      rw [readOnce, script]
      rfl
    rw [made]
    exact .last (script ▸ solid) rfl (fun _ => by rw [script]; rfl)
  | cons step rest =>
    rw [script] at solid
    cases step with
    | data bytes =>
      obtain ⟨after, got, filled, left, smaller, same⟩ := Reader.read_data positive solid
      have made : h.readOnce = { h with
          reader := after, held := some (.piece (bytes.take h.chunk))
          total := h.total + (bytes.take h.chunk).length } := by
        rw [readOnce, script, got]
        cases taken : bytes.take h.chunk with
        | nil => exact absurd taken filled
        | cons byte more => rfl
      rw [made]
      exact .piece left (script ▸ smaller) (script ▸ same)
    | interrupted =>
      have made : h.readOnce = { h with reader := rest } := by
        rw [readOnce, script]
        rfl
      rw [made]
      exact .interrupted script
    | endOfFile =>
      have made : h.readOnce = { h with reader := rest, held := some .finish } := by
        rw [readOnce, script]
        rfl
      rw [made]
      exact .last solid.tail rfl (fun _ => by rw [script]; rfl)
    | fault report =>
      have made : h.readOnce = { h with reader := rest, held := some (.failed report) } := by
        rw [readOnce, script]
        rfl
      rw [made]
      exact .last solid.tail rfl (fun _ => by rw [script]; rfl)
    | crash =>
      have made : h.readOnce = { h with reader := rest, producer := .crashed } := by
        rw [readOnce, script]
        rfl
      rw [made]
      exact .crash script

theorem read_advances {h : Handoff} (sound : h.Sound) (unfinished : h.closed = false)
    (running : h.producer = .running) (free : h.held = none) : h.Advances none h.readOnce := by
  obtain ⟨before, work⟩ := free_running free running
  have solid := sound.solid
  have made := readOnce_read sound.positive solid
  generalize h.readOnce = after at made ⊢
  cases made with
  | @interrupted rest script =>
    rw [script] at before work solid
    obtain ⟨behind, effort⟩ := free_running (h := { h with reader := rest }) free running
    refine reads_advances sound unfinished free solid.tail (fun _ => running) ?_ ?_ ?_
    · rw [before, behind]
      rfl
    · rw [work, effort]
      simp only [Reader.budget]
      omega
    · rw [free]
      rfl
  | @crash rest script =>
    rw [script] at before work solid
    refine reads_advances sound unfinished free solid.tail ?_ ?_ ?_ ?_
    · intro holds
      exact absurd free holds
    · rw [before, behind, free]
      rfl
    · rw [work, effort, free]
      exact Nat.mul_pos (by decide) (Nat.succ_pos _)
    · rw [free]
      rfl
  | @last rest message left ends told =>
    let after : Handoff := { h with reader := rest, held := some message }
    obtain ⟨behind, effort⟩ := holds_last (h := after) rfl ends
    refine reads_advances sound unfinished free left (fun _ => running) ?_ ?_ ?_
    · rw [before, told]
      exact behind.symm
    · rw [work]
      change after.effort < _
      omega
    · cases message with
      | piece bytes => cases ends
      | _ => rfl
  | @piece rest bytes left smaller told =>
    obtain ⟨behind, effort⟩ := holds_piece (h := { h with
      reader := rest, held := some (.piece bytes), total := h.total + bytes.length }) rfl running
    refine reads_advances sound unfinished free left (fun _ => running) ?_ ?_ rfl
    · rw [before, told, behind]
    · rw [work, effort]
      dsimp only
      omega

theorem receive_advances {h after : Handoff} {answer : Option Answer} (sound : h.Sound)
    (unfinished : h.closed = false) (received : h.receive = some (after, answer)) :
    h.Advances answer after := by
  unfold receive at received
  rw [if_neg (by rw [unfinished]; decide)] at received
  split at received
  · rename_i waits
    cases received
    exact deliver_advances sound unfinished waits
  · rename_i empty held
    split at received
    · cases received
      exact pass_advances sound unfinished empty held
    · cases received
  · rename_i empty free
    split at received
    · cases received
    · rename_i gone
      cases received
      exact abandon_advances sound unfinished empty free gone

theorem advance_advances {h after : Handoff} {move : Move} {answer : Option Answer}
    (sound : h.Sound) (unfinished : h.closed = false)
    (moved : h.advance move = some (after, answer)) : h.Advances answer after := by
  cases move with
  | read =>
    simp only [advance] at moved
    split at moved
    · rename_i ready
      cases moved
      exact read_advances sound unfinished ready.1 ready.2
    · cases moved
  | send =>
    simp only [advance] at moved
    split at moved
    · cases moved
    · rename_i held
      split at moved
      · cases moved
        exact send_advances sound unfinished held
      · cases moved
  | receive => exact receive_advances sound unfinished moved

-- After its last answer the consumer is told of the end again and again, and nobody else moves.
theorem advance_closed {h after : Handoff} {move : Move} {answer : Option Answer}
    (sound : h.Sound) (closed : h.closed = true) (moved : h.advance move = some (after, answer)) :
    after = h ∧ answer = some .ended := by
  obtain ⟨-, free, idle⟩ := sound.finished closed
  cases move with
  | read =>
    simp only [advance, idle, false_and, if_false] at moved
    cases moved
  | send =>
    simp only [advance, free] at moved
    cases moved
  | receive =>
    simp only [advance, receive, closed, if_true] at moved
    cases moved
    exact ⟨rfl, rfl⟩

theorem receive_some {h after : Handoff} {answer : Option Answer}
    (received : h.receive = some (after, answer)) : ∃ told, answer = some told := by
  unfold receive at received
  split at received
  · cases received
    exact ⟨_, rfl⟩
  · split at received
    · cases received
      exact ⟨_, rfl⟩
    · split at received
      · cases received
        exact ⟨_, rfl⟩
      · cases received
    · split at received
      · cases received
      · cases received
        exact ⟨_, rfl⟩

theorem receive_none {h : Handoff} (refused : h.receive = none) :
    h.closed = false ∧ h.queue = [] ∧
      ((∃ message, h.held = some message ∧ h.hasRoom = true) ∨
        (h.held = none ∧ h.producer = .running)) := by
  unfold receive at refused
  split at refused
  · cases refused
  · rename_i unfinished
    rw [Bool.not_eq_true] at unfinished
    split at refused
    · cases refused
    · rename_i message empty held
      split at refused
      · cases refused
      · rename_i waits
        refine ⟨unfinished, empty, .inl ⟨message, held, ?_⟩⟩
        unfold hasRoom
        split
        · rfl
        · rename_i capacity bounded
          rw [bounded, Option.some.injEq] at waits
          rw [empty, List.length_nil, decide_eq_true_iff]
          omega
    · rename_i empty free
      split at refused
      · rename_i running
        exact ⟨unfinished, empty, .inr ⟨free, running⟩⟩
      · cases refused

-- The queue never keeps both sides waiting.
theorem advance_possible (h : Handoff) : ∃ move, (h.advance move).isSome = true := by
  cases asked : h.receive with
  | some result => exact ⟨.receive, Option.isSome_iff_exists.mpr ⟨result, asked⟩⟩
  | none =>
    obtain ⟨-, -, ⟨message, held, room⟩ | ⟨free, running⟩⟩ := receive_none asked
    · refine ⟨.send, ?_⟩
      simp only [advance, held, room, if_true, Option.isSome_some]
    · refine ⟨.read, ?_⟩
      simp only [advance, running, free, and_self, if_true, Option.isSome_some]

-- Moves of both sides in the order that a scheduler picked, and the answers the consumer got.
inductive Runs : Handoff → List Move → List Answer → Handoff → Prop where
  | nil {h : Handoff} : Runs h [] [] h
  | cons {before middle after : Handoff} {move : Move} {moves : List Move}
      {answer : Option Answer} {answers : List Answer}
      (moved : before.advance move = some (middle, answer))
      (later : Runs middle moves answers after) :
      Runs before (move :: moves) (answer.toList ++ answers) after

def follow : Handoff → List Move → Option (List Answer × Handoff)
  | h, [] => some ([], h)
  | h, move :: moves =>
    (h.advance move).bind fun (middle, answer) =>
      (middle.follow moves).map fun (answers, after) => (answer.toList ++ answers, after)

theorem follow_exact {before after : Handoff} {moves : List Move} {answers : List Answer} :
    before.follow moves = some (answers, after) ↔ Runs before moves answers after := by
  induction moves generalizing before answers with
  | nil =>
    constructor
    · intro followed
      cases followed
      exact .nil
    · intro path
      cases path
      rfl
  | cons move moves ih =>
    constructor
    · intro followed
      obtain ⟨⟨middle, answer⟩, moved, goes⟩ := Option.bind_eq_some_iff.mp followed
      obtain ⟨⟨rest, last⟩, later, same⟩ := Option.map_eq_some_iff.mp goes
      cases same
      exact .cons moved (ih.mp later)
    · intro path
      cases path with
      | cons moved later =>
        have goes := ih.mpr later
        simp only [follow, moved, Option.bind_some, goes, Option.map_some]

theorem Runs.closed {before after : Handoff} {moves : List Move} {answers : List Answer}
    (path : Runs before moves answers after) (sound : before.Sound)
    (closed : before.closed = true) :
    after = before ∧ ∃ extra, answers = List.replicate extra .ended := by
  induction path with
  | nil => exact ⟨rfl, 0, rfl⟩
  | cons moved later ih =>
    obtain ⟨rfl, rfl⟩ := advance_closed sound closed moved
    obtain ⟨same, extra, told⟩ := ih sound closed
    refine ⟨same, extra + 1, ?_⟩
    rw [told, Option.toList_some, List.replicate_succ]
    rfl

-- What a run does to the consumer, who had not had its last answer when it began.
structure Serves (before : Handoff) (moves : List Move) (answers : List Answer) (after : Handoff) :
    Prop where
  sound : after.Sound
  unfinished : after.closed = false →
    before.pending = answers ++ after.pending ∧ moves.length + after.weight ≤ before.weight
  finished : after.closed = true →
    ∃ extra, answers = before.pending ++ List.replicate extra .ended
  total : after.total + before.underway.size =
    before.total + (Feed.size answers + after.underway.size)

theorem Runs.serves {before after : Handoff} {moves : List Move} {answers : List Answer}
    (path : Runs before moves answers after) (sound : before.Sound)
    (unfinished : before.closed = false) : Serves before moves answers after := by
  induction path with
  | nil =>
    refine ⟨sound, fun _ => ⟨rfl, Nat.le_of_eq (Nat.zero_add _)⟩, fun closed => ?_, ?_⟩
    · rw [unfinished] at closed
      cases closed
    · rw [Feed.size_nil, Nat.zero_add]
  | @cons before middle after move moves answer answers moved later ih =>
    have first := advance_advances sound unfinished moved
    cases closed : middle.closed with
    | true =>
      obtain ⟨rfl, extra, rfl⟩ := later.closed first.sound closed
      have owed := first.owed
      rw [Handoff.owed, closed, if_pos rfl, List.append_nil] at owed
      refine ⟨first.sound, fun still => ?_, fun _ => ⟨extra, by rw [owed]⟩, ?_⟩
      · rw [closed] at still
        cases still
      · rw [Feed.size_append, Feed.size_ended, Nat.add_zero]
        exact first.total
    | false =>
      obtain ⟨kept, running, done, counted⟩ := ih first.sound closed
      have owed := first.owed
      rw [owed_open closed] at owed
      refine ⟨kept, fun still => ?_, fun finished => ?_, ?_⟩
      · obtain ⟨rest, fewer⟩ := running still
        refine ⟨by rw [owed, rest, List.append_assoc], ?_⟩
        have lighter := first.lighter closed
        rw [List.length_cons]
        omega
      · obtain ⟨extra, told⟩ := done finished
        exact ⟨extra, by rw [told, owed, List.append_assoc]⟩
      · have spent := first.total
        rw [Feed.size_append]
        omega

theorem Sound.finishes {h : Handoff} (sound : h.Sound) :
    ∃ moves answers after, Runs h moves answers after ∧ after.closed = true := by
  induction size : h.weight using Nat.strongRecOn generalizing h with
  | ind size ih =>
    subst size
    cases closed : h.closed with
    | true => exact ⟨[], [], h, .nil, closed⟩
    | false =>
      obtain ⟨move, possible⟩ := h.advance_possible
      obtain ⟨⟨middle, answer⟩, moved⟩ := Option.isSome_iff_exists.mp possible
      have advances := advance_advances sound closed moved
      cases done : middle.closed with
      | true => exact ⟨[move], _, middle, .cons moved .nil, done⟩
      | false =>
        obtain ⟨moves, answers, after, path, ends⟩ :=
          ih _ (advances.lighter done) advances.sound rfl
        exact ⟨move :: moves, _, after, .cons moved path, ends⟩

end Handoff

end PageStream
