import PageStream.Proofs.Relaying

namespace PageStream

namespace Handoff

-- More than this many moves never pass before a consumer that waits has its answer.
def patience (h : Handoff) : Nat :=
  match h.queue, h.held with
  | _ :: _, _ => 1
  | [], some _ => 2
  | [], none => if h.producer = .running then h.reader.length + 3 else 1

theorem patience_pos (h : Handoff) : 0 < h.patience := by
  unfold patience
  split
  · exact Nat.one_pos
  · exact Nat.two_pos
  · split
    · exact Nat.succ_pos _
    · exact Nat.one_pos

theorem patience_le (h : Handoff) : h.patience ≤ h.reader.length + 4 := by
  unfold patience
  split
  · omega
  · omega
  · split
    · omega
    · omega

theorem patience_holding {h : Handoff} (empty : h.queue = []) {message : Message}
    (held : h.held = some message) : h.patience = 2 := by rw [patience, empty, held]

theorem patience_reading {h : Handoff} (empty : h.queue = []) (free : h.held = none)
    (running : h.producer = .running) : h.patience = h.reader.length + 3 := by
  rw [patience, empty, free]
  exact if_pos running

-- An interruption uses up a step of the reader, and after anything else there is news.
theorem patience_read {h after : Handoff} (read : h.Read after) (empty : h.queue = [])
    (free : h.held = none) (running : h.producer = .running) : after.patience < h.patience := by
  rw [patience_reading empty free running]
  cases read with
  | @interrupted rest script =>
    have later : patience { h with reader := rest } = rest.length + 3 :=
      patience_reading empty free running
    rw [later, script, List.length_cons]
    exact Nat.lt_succ_self _
  | @crash rest script =>
    have news : patience { h with reader := rest, producer := .crashed } = 1 := by
      rw [patience, empty, free]
      rfl
    rw [news]
    omega
  | @last rest message solid ends told =>
    have news : patience { h with reader := rest, held := some message } = 2 :=
      patience_holding empty rfl
    rw [news]
    omega
  | @piece rest bytes solid smaller told =>
    have news : patience { h with
        reader := rest, held := some (.piece bytes), total := h.total + bytes.length } = 2 :=
      patience_holding empty rfl
    rw [news]
    omega

theorem serve_runs {fuel : Nat} {h : Handoff} (sound : h.Sound) (enough : h.patience ≤ fuel) :
    ∃ moves, Runs h moves [(serve fuel h).1] (serve fuel h).2 := by
  induction fuel generalizing h with
  | zero => exact absurd enough (Nat.not_le_of_gt h.patience_pos)
  | succ fuel ih =>
    cases asked : h.advance .receive with
    | some result =>
      obtain ⟨after, answer⟩ := result
      obtain ⟨told, rfl⟩ := receive_some asked
      have served : serve (fuel + 1) h = (told, after) := by simp only [serve, asked]
      rw [served]
      exact ⟨[.receive], .cons asked .nil⟩
    | none =>
      obtain ⟨unfinished, empty, ⟨message, held, room⟩ | ⟨free, running⟩⟩ := receive_none asked
      · let after : Handoff := { h.afterSend message with queue := h.queue ++ [message] }
        have moved : h.advance .send = some (after, none) := by
          simp only [advance, held, room, if_true, after]
        have served : serve (fuel + 1) h = serve fuel after := by
          simp only [serve, asked, moved]
        have news : after.patience = 1 := by
          change patience { h.afterSend message with queue := h.queue ++ [message] } = 1
          rw [patience, empty]
          rfl
        have sends := advance_advances sound unfinished moved
        rw [patience_holding empty held] at enough
        obtain ⟨moves, path⟩ := ih sends.sound (by omega)
        rw [served]
        exact ⟨.send :: moves, .cons moved path⟩
      · have waits : h.advance .send = none := by simp only [advance, free]
        have moved : h.advance .read = some (h.readOnce, none) := by
          simp only [advance, running, free, and_self, if_true]
        have served : serve (fuel + 1) h = serve fuel h.readOnce := by
          simp only [serve, asked, waits, moved]
        have reads := advance_advances sound unfinished moved
        have sooner := patience_read (readOnce_read sound.positive sound.solid) empty free running
        obtain ⟨moves, path⟩ := ih reads.sound (by omega)
        rw [served]
        exact ⟨.read :: moves, .cons moved path⟩

theorem next_runs {h : Handoff} (sound : h.Sound) : ∃ moves, Runs h moves [h.next.1] h.next.2 :=
  serve_runs sound h.patience_le

-- Request after request the consumer is told just what is pending.
theorem queued_yields {h : Handoff} (sound : h.Sound) (unfinished : h.closed = false) :
    Source.Yields (.queued h) h.pending := by
  induction size : h.pending.length using Nat.strongRecOn generalizing h with
  | ind size ih =>
    subst size
    obtain ⟨moves, path⟩ := next_runs sound
    obtain ⟨kept, goes, ends, -⟩ := path.serves sound unfinished
    have complete := sound.unfinished unfinished
    cases closed : h.next.2.closed with
    | true =>
      obtain ⟨extra, told⟩ := ends closed
      cases waiting : h.pending with
      | nil =>
        rw [waiting] at complete
        exact complete.elim
      | cons answer rest =>
        rw [waiting] at complete told
        obtain ⟨same, nothing⟩ := List.cons_eq_cons.mp told
        obtain ⟨rfl, -⟩ := List.append_eq_nil_iff.mp nothing.symm
        have answered : (Source.queued h).next = (answer, .queued h.next.2) := by
          rw [Source.next, ← same]
        refine .last answered ?_
        cases last : answer.isLast with
        | true => rfl
        | false =>
          rw [Feed.Complete, last] at complete
          exact complete.elim
    | false =>
      obtain ⟨told, -⟩ := goes closed
      have later := kept.unfinished closed
      rw [told, List.singleton_append] at complete ⊢
      cases last : h.next.1.isLast with
      | true =>
        rw [Feed.Complete, if_pos last] at complete
        rw [complete] at later
        exact later.elim
      | false =>
        refine .more rfl last (ih _ ?_ kept closed rfl)
        rw [told]
        exact Nat.lt_succ_self _

-- All that a consumer is to be told of a reader. A producer without a buffer never reads.
def relayed (reader : Reader) (chunk : Nat) : Feed :=
  if chunk ≤ longestBuffer then reader.deliveries (max 1 chunk) .producerGone
  else [.failed .producerGone]

theorem relayed_complete (reader : Reader) (chunk : Nat) : (relayed reader chunk).Complete := by
  unfold relayed
  split
  · exact reader.deliveries_complete _ _
  · exact (if_pos rfl).mpr rfl

theorem relayed_length_le (reader : Reader) (chunk : Nat) :
    (relayed reader chunk).length ≤ reader.budget + 1 := by
  unfold relayed
  split
  · exact reader.deliveries_length_le _ _
  · exact Nat.succ_le_succ (Nat.zero_le _)

theorem relayed_piece {reader : Reader} {chunk : Nat} {bytes : Bytes}
    (told : .piece bytes ∈ relayed reader chunk) : bytes ≠ [] ∧ bytes.length ≤ max 1 chunk := by
  unfold relayed at told
  split at told
  · rcases List.mem_append.mp told with among | last
    · obtain ⟨piece, member, same⟩ := List.mem_map.mp among
      cases same
      obtain ⟨full, short⟩ := Reader.mem_pieces member
      exact ⟨full, by omega⟩
    · have ends := reader.stop.told_isLast .producerGone
      rw [← List.mem_singleton.mp last] at ends
      cases ends
  · rcases List.mem_singleton.mp told with ⟨⟩

theorem relayed_ended {reader : Reader} {chunk : Nat} {pieces : List Bytes}
    (told : relayed reader chunk = pieces.map .piece ++ [.ended]) : reader.stop = .endOfFile := by
  unfold relayed at told
  split at told
  · obtain ⟨-, last⟩ := List.append_inj' told rfl
    exact Reader.stop_ended (List.singleton_inj.mp last)
  · have alone : [] ++ [Answer.failed .producerGone] = pieces.map .piece ++ [.ended] := told
    obtain ⟨-, last⟩ := List.append_inj' alone rfl
    cases List.singleton_inj.mp last

variable (reader : Reader) (chunk : Nat) (capacity : Option Nat)

theorem start_pending : (start reader chunk capacity).pending = relayed reader chunk := by
  by_cases fits : chunk ≤ longestBuffer
  · simp only [start, pending, behind, future, relayed, fits, if_true, List.map_nil,
      List.nil_append]
  · simp only [start, pending, behind, future, relayed, fits, if_false, List.map_nil,
      List.nil_append]

theorem start_weight_le : (start reader chunk capacity).weight ≤ 3 * (reader.budget + 1) := by
  simp only [start, weight, effort, reading, List.length_nil, Nat.zero_add]
  split
  · exact Nat.le_refl _
  · exact Nat.zero_le _

theorem start_sound (solid : reader.Solid) : (start reader chunk capacity).Sound := by
  refine ⟨Nat.le_max_left 1 chunk, solid, ?holding, ?unfinished, ?finished⟩
  case holding =>
    intro holds
    exact absurd rfl holds
  case unfinished =>
    intro _
    rw [start_pending]
    exact relayed_complete reader chunk
  case finished =>
    intro closed
    cases closed

variable {reader chunk capacity}

theorem queued_feed (solid : reader.Solid) {queued : Source}
    (made : Source.ofHandoff? reader chunk capacity = some queued) :
    queued.feed = relayed reader chunk := by
  unfold Source.ofHandoff? at made
  split at made
  · cases made
    have yields := queued_yields (start_sound reader chunk capacity solid) rfl
    rw [start_pending] at yields
    refine yields.answers (Nat.le_trans (relayed_length_le reader chunk) ?_)
    change reader.budget + 1 ≤ 0 + reader.budget + 2
    omega
  · cases made

theorem direct_feed (solid : reader.Solid) {direct : Source}
    (made : Source.ofReader? reader chunk = some direct) :
    chunk ≤ longestBuffer ∧ direct.feed = reader.deliveries (max 1 chunk) .readerCrashed := by
  unfold Source.ofReader? at made
  split at made
  · rename_i fits
    cases made
    have yields := Source.direct_yields (Nat.le_max_left 1 chunk) solid
    exact ⟨fits, yields.answers (reader.deliveries_length_le _ _)⟩
  · cases made

structure Tells (feed : Feed) (answers : List Answer) (h : Handoff) : Prop where
  partly : h.closed = false → ∃ rest, rest ≠ [] ∧ feed = answers ++ rest
  wholly : h.closed = true → ∃ extra, answers = feed ++ List.replicate extra .ended

-- A run of a hand-off, beside a source that asks the same reader itself.
structure Relays (reader : Reader) (chunk : Nat) (capacity : Option Nat) (moves : List Move)
    (answers : List Answer) (h : Handoff) : Prop where
  direct : ∀ source, Source.ofReader? reader chunk = some source → reader.stop ≠ .crash →
    Tells source.feed answers h
  -- A reader that breaks down takes only the producer with it.
  crash : ∀ source, Source.ofReader? reader chunk = some source → reader.stop = .crash →
    ∃ pieces : List Bytes, source.feed = pieces.map .piece ++ [.failed .readerCrashed] ∧
      Tells (pieces.map .piece ++ [.failed .producerGone]) answers h
  unread : Source.ofReader? reader chunk = none → Tells [.failed .producerGone] answers h
  queued : ∀ source, Source.ofHandoff? reader chunk capacity = some source →
    Tells source.feed answers h
  undisturbed : ∀ source calm, Source.ofReader? reader chunk = some source →
    Source.ofReader? (reader.filter (· != .interrupted)) chunk = some calm →
    calm.feed = source.feed
  pieces : ∀ bytes, .piece bytes ∈ answers → bytes ≠ [] ∧ bytes.length ≤ max 1 chunk
  ends : ∀ pieces : List Bytes, pieces.map .piece ++ [.ended] <+: answers →
    reader.stop = .endOfFile ∧ h.total = pieces.flatten.length
  counts : h.total = Feed.size answers + h.underway.size
  goes : h.closed = false →
    moves.length ≤ 3 * (reader.budget + 1) ∧ ∃ move, (h.advance move).isSome = true
  finishes : ∃ more later last, Runs h more later last ∧ last.closed = true

theorem Tells.stops {feed : Feed} {answers : List Answer} {h : Handoff}
    (tells : Tells feed answers h) (complete : feed.Complete) {pieces : List Bytes}
    (ended : pieces.map .piece ++ [.ended] <+: answers) :
    h.closed = true ∧ feed = pieces.map .piece ++ [.ended] := by
  obtain ⟨more, told⟩ := ended
  rw [List.append_assoc, List.singleton_append] at told
  cases closed : h.closed with
  | true =>
    obtain ⟨extra, whole⟩ := tells.wholly closed
    exact ⟨rfl, complete.stops rfl pieces (whole.symm.trans told.symm)⟩
  | false =>
    obtain ⟨rest, left, whole⟩ := tells.partly closed
    rw [← told, List.append_assoc, List.cons_append] at whole
    have all := complete.stops rfl pieces ((List.append_nil feed).trans whole)
    rw [whole] at all
    have nothing := (List.cons_inj_right _).mp (List.append_cancel_left all)
    exact absurd (List.append_eq_nil_iff.mp nothing).2 left

theorem Tells.mem {feed : Feed} {answers : List Answer} {h : Handoff}
    (tells : Tells feed answers h) {answer : Answer} (told : answer ∈ answers) :
    answer ∈ feed ∨ answer = .ended := by
  cases closed : h.closed with
  | true =>
    obtain ⟨extra, whole⟩ := tells.wholly closed
    rw [whole] at told
    rcases List.mem_append.mp told with early | late
    · exact .inl early
    · exact .inr (List.eq_of_mem_replicate late)
  | false =>
    obtain ⟨rest, -, whole⟩ := tells.partly closed
    rw [whole]
    exact .inl (List.mem_append_left rest told)

-- Whoever moves when, the consumer is told what direct reading gives.
theorem runs_relay {steps : List ReadStep} {chunk : Nat} {capacity : Option Nat}
    {moves : List Move} {answers : List Answer} {h : Handoff}
    (path : Runs (start (.ofSteps steps) chunk capacity) moves answers h) :
    Relays (.ofSteps steps) chunk capacity moves answers h := by
  have solid := Reader.ofSteps_solid steps
  generalize Reader.ofSteps steps = reader at path solid ⊢
  obtain ⟨sound, unfinished, finished, total⟩ :=
    path.serves (start_sound reader chunk capacity solid) rfl
  rw [start_pending] at unfinished finished
  have counts : h.total = Feed.size answers + h.underway.size := by
    have unread : (start reader chunk capacity).total = 0 := rfl
    have nothing : Feed.size (start reader chunk capacity).underway = 0 := rfl
    omega
  have tells : Tells (relayed reader chunk) answers h := by
    refine ⟨fun going => ⟨h.pending, ?_, (unfinished going).1⟩, finished⟩
    intro nothing
    have complete := sound.unfinished going
    rw [nothing] at complete
    exact complete
  refine ⟨?direct, ?crash, ?unread, ?queued, ?undisturbed, ?pieces, ?ends, counts, ?goes,
    sound.finishes⟩
  case direct =>
    intro source made works
    obtain ⟨fits, feed⟩ := direct_feed solid made
    rw [relayed, if_pos fits, Reader.deliveries,
      ReadStep.told_congr works .producerGone .readerCrashed] at tells
    rw [feed]
    exact tells
  case crash =>
    intro source made breaks
    obtain ⟨fits, feed⟩ := direct_feed solid made
    rw [relayed, if_pos fits, Reader.deliveries, breaks] at tells
    rw [Reader.deliveries, breaks] at feed
    exact ⟨_, feed, tells⟩
  case unread =>
    intro refused
    unfold Source.ofReader? at refused
    split at refused
    · cases refused
    · rename_i beyond
      rw [relayed, if_neg beyond] at tells
      exact tells
  case queued =>
    intro source made
    rw [queued_feed solid made]
    exact tells
  case undisturbed =>
    intro source calm made still
    have calms : Reader.Solid (reader.filter (· != .interrupted)) :=
      fun member => solid (List.mem_filter.mp member).1
    rw [(direct_feed solid made).2, (direct_feed calms still).2, Reader.deliveries_undisturbed]
  case pieces =>
    intro bytes told
    rcases tells.mem told with among | late
    · exact relayed_piece among
    · cases late
  case ends =>
    intro pieces told
    obtain ⟨closed, whole⟩ := tells.stops (relayed_complete reader chunk) told
    refine ⟨relayed_ended whole, ?_⟩
    obtain ⟨extra, all⟩ := finished closed
    obtain ⟨empty, free, -⟩ := sound.finished closed
    have nothing : h.underway = [] := by rw [underway, empty, free]; rfl
    rw [counts, nothing, all, whole, Feed.size_append, Feed.size_append, Feed.size_pieces,
      Feed.size_ended]
    rfl
  case goes =>
    intro going
    have bound := (unfinished going).2
    have weight := start_weight_le reader chunk capacity
    exact ⟨by omega, h.advance_possible⟩

-- A reader that is interrupted once, read a byte at a time through a queue without room.
theorem runs_relay_pair :
    let steps : List ReadStep := [.interrupted, .data [1, 2], .endOfFile]
    let moves : List Move := [.read, .read, .receive, .read, .receive, .read, .receive]
    ∃ h, Runs (start (.ofSteps steps) 0 (some 0)) moves [.piece [1], .piece [2], .ended] h ∧
      Relays (.ofSteps steps) 0 (some 0) moves [.piece [1], .piece [2], .ended] h := by
  intro steps moves
  have path : Runs (start (.ofSteps steps) 0 (some 0)) moves [.piece [1], .piece [2], .ended]
      ⟨[], 1, some 0, none, [], .stopped, 2, true⟩ := follow_exact.mp rfl
  exact ⟨_, path, runs_relay path⟩

end Handoff

end PageStream
