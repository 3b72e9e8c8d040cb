import PageStream.Proofs.Framing

namespace PageStream

namespace Frames

def pull : Nat → Frames → List Record × Frames
  | 0, frames => ([], frames)
  | count + 1, frames =>
    let (record, after) := frames.next
    let (records, last) := pull count after
    (record.toList ++ records, last)

-- Where the bytes are that were fed in so far, while a piece is being cut.
structure Books (fed : Bytes) (handed : List Record) (frames : Frames) : Prop where
  whole : Record.join handed ++ (Record.join frames.framer.ready ++ frames.content) = fed
  emitted : frames.framer.emitted = handed.length
  bytesIn : frames.framer.bytesIn = fed.length

-- A cut takes a record off the content, or moves all of it to the carry.
structure Cuts (frames : Frames) (record : Option Record) (after : Frames) : Prop where
  content : Record.join record.toList ++ after.content = frames.content
  spent : record = none → after.input = []
  ready : after.framer.ready = frames.framer.ready
  emitted : after.framer.emitted = frames.framer.emitted
  bytesIn : after.framer.bytesIn = frames.framer.bytesIn

theorem cut_cuts {frames after : Frames} {record : Option Record}
    (made : frames.cut = (record, after)) : frames.Cuts record after := by
  by_cases short : frames.content.length < recordSize
  · rw [cut_short short] at made
    cases made
    exact ⟨List.append_nil _, fun _ => rfl, rfl, rfl, rfl⟩
  · have enough : recordSize ≤ frames.content.length := Nat.le_of_not_lt short
    rw [cut_enough enough] at made
    cases made
    refine ⟨?content, ?spent, rfl, rfl, rfl⟩
    case content =>
      simp only [content, Option.toList_some, Record.join_cons, Record.join_nil, List.append_nil,
        List.nil_append, Record.first, List.take_append_drop]
    case spent =>
      intro missing
      cases missing

theorem Books.next {fed : Bytes} {handed : List Record} {frames after : Frames}
    {record : Option Record} (books : frames.Books fed handed)
    (pulled : frames.next = (record, after)) : after.Books fed (handed ++ record.toList) := by
  obtain ⟨whole, emitted, bytesIn⟩ := books
  cases held : frames.framer.ready with
  | cons first ready =>
    rw [next_ready held] at pulled
    cases pulled
    rw [held, Record.join_cons] at whole
    refine ⟨?_, ?_, bytesIn⟩
    · rw [← whole, Option.toList_some, Record.join_append, Record.join_cons, Record.join_nil]
      simp only [List.append_nil, List.append_assoc]
      rfl
    · rw [Option.toList_some, List.length_append, List.length_singleton, ← emitted]
      rfl
  | nil =>
    simp only [Frames.next, held] at pulled
    rw [held, Record.join_nil, List.nil_append] at whole
    cases made : frames.cut with
    | mk cut rest =>
      have cuts := cut_cuts made
      have idle := cuts.ready.trans held
      cases cut with
      | none =>
        rw [made] at pulled
        cases pulled
        refine ⟨?_, ?_, cuts.bytesIn.trans bytesIn⟩
        · rw [idle, ← whole, ← cuts.content]
          simp only [Option.toList_none, List.append_nil, Record.join_nil, List.nil_append]
        · rw [cuts.emitted, emitted, Option.toList_none, List.append_nil]
      | some record =>
        rw [made] at pulled
        cases pulled
        have ready : rest.emit.framer.ready = [] := idle
        refine ⟨?_, ?_, cuts.bytesIn.trans bytesIn⟩
        · rw [ready, ← whole, ← cuts.content, Record.join_append, List.append_assoc]
          rfl
        · rw [List.length_append, ← emitted, ← cuts.emitted]
          rfl

theorem Books.pull {fed : Bytes} {handed : List Record} {frames : Frames} (count : Nat)
    (books : frames.Books fed handed) :
    (frames.pull count).2.Books fed (handed ++ (frames.pull count).1) := by
  induction count generalizing frames handed with
  | zero =>
    rw [Frames.pull, List.append_nil]
    exact books
  | succ count ih =>
    have later := ih (books.next (Prod.eta frames.next).symm)
    rw [List.append_assoc] at later
    exact later

theorem cut_over {frames : Frames} (spent : frames.input = []) : frames.cut = (none, frames) := by
  obtain ⟨framer, input⟩ := frames
  cases spent
  have small : ([] : Bytes).length < recordSize - framer.carry.length := by
    have carried := framer.carry_lt
    rw [List.length_nil]
    omega
  simp only [cut, dif_pos small, List.append_nil]

theorem next_over {frames after : Frames} (ended : frames.next = (none, after)) :
    after.next = (none, after) := by
  cases held : frames.framer.ready with
  | cons record ready =>
    rw [next_ready held] at ended
    cases ended
  | nil =>
    simp only [next, held] at ended
    cases made : frames.cut with
    | mk cut rest =>
      have cuts := cut_cuts made
      rw [made] at ended
      cases cut with
      | some record => cases ended
      | none =>
        cases ended
        simp only [next, cuts.ready, held, cut_over (cuts.spent rfl)]

theorem pull_take (count : Nat) (frames : Frames) : frames.pull count = frames.take count := by
  have ended {frames : Frames} (idle : frames.next = (none, frames)) (count : Nat) :
      frames.pull count = ([], frames) := by
    induction count with
    | zero => rfl
    | succ count ih => simp only [pull, idle, ih, Option.toList_none, List.append_nil]
  induction count generalizing frames with
  | zero => rfl
  | succ count ih =>
    cases pulled : frames.next with
    | mk record after =>
      cases record with
      | none =>
        simp only [pull, take, pulled, ended (next_over pulled), Option.toList_none, List.append_nil]
      | some record =>
        simp only [pull, take, pulled, ih, Option.toList_some, List.singleton_append]

end Frames

namespace Framer

structure Books (fed : Bytes) (handed : List Record) (framer : Framer) : Prop where
  whole : Record.join handed ++ Record.join framer.ready ++ framer.carry = fed
  emitted : framer.emitted = handed.length
  bytesIn : framer.bytesIn = fed.length

theorem Books.empty : Framer.empty.Books [] [] := ⟨rfl, rfl, rfl⟩

theorem Books.feed {fed : Bytes} {handed : List Record} {framer : Framer}
    (books : framer.Books fed handed) (piece : Bytes) :
    (framer.feed piece).Books (fed ++ piece) handed := by
  obtain ⟨whole, emitted, bytesIn⟩ := books
  refine ⟨?_, emitted, ?_⟩
  · rw [← whole, List.append_assoc, List.append_assoc]
    simp only [Frames.content, Framer.feed]
  · rw [List.length_append, ← bytesIn]
    rfl

end Framer

theorem Frames.Books.close {fed : Bytes} {handed : List Record} {frames : Frames}
    (books : frames.Books fed handed) : frames.close.Books fed handed := by
  induction frames using Frames.close.induct with
  | case1 frames after made =>
    obtain ⟨whole, emitted, bytesIn⟩ := books
    obtain ⟨content, spent, ready, same, size⟩ := cut_cuts made
    rw [Frames.close_none made]
    refine ⟨?_, same.trans emitted, size.trans bytesIn⟩
    rw [← whole, ← content, ready, Frames.content, spent rfl]
    simp only [Option.toList_none, Record.join_nil, List.append_nil, List.nil_append,
      List.append_assoc]
  | case2 frames record after made ih =>
    obtain ⟨whole, emitted, bytesIn⟩ := books
    obtain ⟨content, -, ready, same, size⟩ := cut_cuts made
    rw [Frames.close_some made]
    refine ih ⟨?_, same.trans emitted, size.trans bytesIn⟩
    have kept : (after.keep record).framer.ready = frames.framer.ready ++ [record] :=
      congrArg (· ++ [record]) ready
    have rest : (after.keep record).content = after.content := rfl
    rw [← whole, ← content, kept, rest, Record.join_append, List.append_assoc]
    rfl

-- One use of a framer: how often the iterator is asked before it is dropped.
inductive Framer.Use where
  | feed (piece : Bytes) (pulls : Nat)
  | resume (pulls : Nat)

def Framer.Use.bytes : Framer.Use → Bytes
  | .feed piece _ => piece
  | .resume _ => []

namespace Framer

def drop (result : List Record × Frames) : List Record × Framer := (result.1, result.2.close)

def use (framer : Framer) : Use → List Record × Framer
  | .feed piece pulls => drop ((framer.feed piece).pull pulls)
  | .resume pulls => drop (framer.resume.pull pulls)

def useAll (framer : Framer) : List Use → List Record × Framer
  | [] => ([], framer)
  | use :: uses =>
    let (records, middle) := framer.use use
    let (more, after) := middle.useAll uses
    (records ++ more, after)

theorem Books.use {fed : Bytes} {handed : List Record} {framer : Framer}
    (books : framer.Books fed handed) (use : Use) :
    (framer.use use).2.Books (fed ++ use.bytes) (handed ++ (framer.use use).1) := by
  cases use with
  | feed piece pulls => exact ((books.feed piece).pull pulls).close
  | resume pulls => exact ((books.feed []).pull pulls).close

theorem Books.useAll {fed : Bytes} {handed : List Record} {framer : Framer}
    (books : framer.Books fed handed) (uses : List Use) :
    (framer.useAll uses).2.Books (fed ++ uses.flatMap Use.bytes)
      (handed ++ (framer.useAll uses).1) := by
  induction uses generalizing fed handed framer with
  | nil =>
    rw [Framer.useAll, List.flatMap_nil, List.append_nil, List.append_nil]
    exact books
  | cons use uses ih =>
    have later := ih (books.use use)
    rw [List.append_assoc, List.append_assoc, ← List.flatMap_cons] at later
    exact later

-- What a caller can count on between two calls.
structure Conserved (fed : Bytes) (handed : List Record) (framer : Framer) : Prop where
  whole : Record.join handed ++ Record.join framer.ready ++ framer.carry = fed
  records : ∀ record ∈ handed ++ framer.ready, record.bytes.length = recordSize
  bytesIn : framer.bytesIn = fed.length
  pending_lt : framer.pending < recordSize
  pending : framer.pending = framer.bytesIn % recordSize
  emitted : framer.emitted = handed.length
  ready : framer.emitted + framer.ready.length = framer.bytesIn / recordSize
  finish : framer.finish = if framer.bytesIn % recordSize = 0 then .ok handed.length
    else .error (.truncated (framer.bytesIn % recordSize))

theorem Books.conserved {fed : Bytes} {handed : List Record} {framer : Framer}
    (books : framer.Books fed handed) : framer.Conserved fed handed := by
  obtain ⟨whole, emitted, bytesIn⟩ := books
  have positive : 0 < recordSize := by decide
  have carried := framer.carry_lt
  have size : framer.bytesIn =
      recordSize * (framer.emitted + framer.ready.length) + framer.carry.length := by
    rw [bytesIn, ← whole, ← Record.join_append, List.length_append, Record.join_length,
      List.length_append, emitted]
  have left : framer.bytesIn % recordSize = framer.pending := by
    rw [size, Nat.mul_add_mod, Nat.mod_eq_of_lt carried]
    rfl
  refine ⟨whole, fun record _ => record.length_eq, bytesIn, carried, left.symm, emitted, ?ready,
    ?finish⟩
  case ready =>
    rw [size, Nat.mul_add_div positive, Nat.div_eq_of_lt carried, Nat.add_zero]
  case finish =>
    rw [left, Framer.finish, Framer.pending, emitted]
    cases framer.carry with
    | nil => rfl
    | cons byte rest => rfl

theorem useAll_conserved (uses : List Use) :
    (empty.useAll uses).2.Conserved (uses.flatMap Use.bytes) (empty.useAll uses).1 :=
  (Books.empty.useAll uses).conserved

end Framer

end PageStream
