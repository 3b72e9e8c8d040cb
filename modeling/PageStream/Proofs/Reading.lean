import PageStream.Source

namespace PageStream

theorem chunks_nil (length : Nat) : chunks length [] = [] := by rw [chunks, if_pos rfl]

theorem chunks_cons {bytes : Bytes} (solid : bytes ≠ []) (length : Nat) :
    chunks length bytes = bytes.take (max 1 length) :: chunks length (bytes.drop (max 1 length)) := by
  rw [chunks, if_neg solid]

theorem mem_chunks {length : Nat} {bytes piece : Bytes} (member : piece ∈ chunks length bytes) :
    piece ≠ [] ∧ piece.length ≤ max 1 length := by
  induction bytes using chunks.induct length with
  | case1 =>
    rw [chunks_nil] at member
    cases member
  | case2 bytes solid ih =>
    rw [chunks_cons solid] at member
    rcases List.mem_cons.mp member with rfl | later
    · have some := List.length_pos_iff.mpr solid
      refine ⟨?_, List.length_take_le _ _⟩
      rw [← List.length_pos_iff, List.length_take]
      omega
    · exact ih later

theorem chunks_flatten (length : Nat) (bytes : Bytes) : (chunks length bytes).flatten = bytes := by
  induction bytes using chunks.induct length with
  | case1 => rw [chunks_nil, List.flatten_nil]
  | case2 bytes solid ih => rw [chunks_cons solid, List.flatten_cons, ih, List.take_append_drop]

theorem chunks_length_le (length : Nat) (bytes : Bytes) :
    (chunks length bytes).length ≤ bytes.length := by
  induction bytes using chunks.induct length with
  | case1 =>
    rw [chunks_nil]
    exact Nat.le_refl _
  | case2 bytes solid ih =>
    have some := List.length_pos_iff.mpr solid
    rw [List.length_drop] at ih
    rw [chunks_cons solid, List.length_cons]
    omega

-- What is told of the step that the bytes stop at; `gone` is told of a reader that breaks down.
def ReadStep.told (gone : DeviceFault) : ReadStep → Answer
  | .fault report => .failed report
  | .crash => .failed gone
  | _ => .ended

theorem ReadStep.told_congr {step : ReadStep} (works : step ≠ .crash) (one two : DeviceFault) :
    step.told one = step.told two := by
  cases step with
  | crash => exact absurd rfl works
  | _ => rfl

theorem ReadStep.told_isLast (gone : DeviceFault) (step : ReadStep) :
    (step.told gone).isLast = true := by
  cases step <;> rfl

namespace Feed

-- Pieces, and one last answer behind them.
def Complete : Feed → Prop
  | [] => False
  | answer :: rest => if answer.isLast then rest = [] else Complete rest

theorem complete_pieces (pieces : List Bytes) {last : Answer} (ends : last.isLast = true) :
    Complete (pieces.map .piece ++ [last]) := by
  induction pieces with
  | nil => exact (if_pos ends).mpr rfl
  | cons piece rest ih => exact ih

theorem Complete.stops {last : Answer} (ends : last.isLast = true) {feed : Feed}
    (complete : feed.Complete) (pieces : List Bytes) {rest more : Feed}
    (same : feed ++ more = pieces.map .piece ++ last :: rest) :
    feed = pieces.map .piece ++ [last] := by
  induction pieces generalizing feed with
  | nil =>
    cases feed with
    | nil => exact complete.elim
    | cons answer behind =>
      obtain ⟨rfl, -⟩ := List.cons_eq_cons.mp same
      rw [Complete, if_pos ends] at complete
      rw [complete]
      rfl
  | cons piece pieces ih =>
    cases feed with
    | nil => exact complete.elim
    | cons answer behind =>
      obtain ⟨rfl, later⟩ := List.cons_eq_cons.mp same
      have goes : Complete behind := complete
      exact congrArg (.piece piece :: ·) (ih goes later)

end Feed

namespace Reader

def Solid (reader : Reader) : Prop := .data [] ∉ reader

-- What the steps bring, at most `limit` bytes at a time, before the first stop.
def pieces (limit : Nat) : Reader → List Bytes
  | .data bytes :: rest => chunks limit bytes ++ pieces limit rest
  | .interrupted :: rest => pieces limit rest
  | _ => []

-- The step that the bytes stop at. A script that is over answers as at the end of a file.
def stop : Reader → ReadStep
  | .data _ :: rest => stop rest
  | .interrupted :: rest => stop rest
  | step :: _ => step
  | [] => .endOfFile

def deliveries (limit : Nat) (gone : DeviceFault) (reader : Reader) : Feed :=
  (reader.pieces limit).map .piece ++ [reader.stop.told gone]

theorem stop_ended {reader : Reader} {gone : DeviceFault}
    (ended : reader.stop.told gone = .ended) : reader.stop = .endOfFile := by
  induction reader with
  | nil => rfl
  | cons step rest ih =>
    cases step with
    | data bytes => exact ih ended
    | interrupted => exact ih ended
    | endOfFile => rfl
    | fault report => cases ended
    | crash => cases ended

theorem ofSteps_solid (steps : List ReadStep) : Solid (ofSteps steps) := by
  intro member
  obtain ⟨-, full⟩ := List.mem_filter.mp member
  exact absurd full (by decide)

theorem Solid.tail {step : ReadStep} {rest : Reader} (solid : Solid (step :: rest)) :
    Solid rest := fun member => solid (List.mem_cons_of_mem _ member)

theorem Solid.bytes {bytes : Bytes} {rest : Reader} (solid : Solid (.data bytes :: rest)) :
    bytes ≠ [] := by
  rintro rfl
  exact solid List.mem_cons_self

theorem Solid.data {bytes : Bytes} {rest : Reader} (some : bytes ≠ []) (solid : Solid rest) :
    Solid (.data bytes :: rest) := by
  intro member
  rcases List.mem_cons.mp member with same | later
  · cases same
    exact some rfl
  · exact solid later

theorem mem_pieces {limit : Nat} {reader : Reader} {piece : Bytes}
    (member : piece ∈ reader.pieces limit) : piece ≠ [] ∧ piece.length ≤ max 1 limit := by
  induction reader with
  | nil => cases member
  | cons step rest ih =>
    cases step with
    | data bytes =>
      rcases List.mem_append.mp member with here | later
      · exact mem_chunks here
      · exact ih later
    | interrupted => exact ih member
    | endOfFile => cases member
    | fault report => cases member
    | crash => cases member

-- Interruptions leave no trace in the stream.
theorem deliveries_undisturbed (limit : Nat) (gone : DeviceFault) (reader : Reader) :
    deliveries limit gone (reader.filter (· != .interrupted)) = reader.deliveries limit gone := by
  have both : pieces limit (reader.filter (· != .interrupted)) = reader.pieces limit ∧
      stop (reader.filter (· != .interrupted)) = reader.stop := by
    induction reader with
    | nil => exact ⟨rfl, rfl⟩
    | cons step rest ih =>
      cases step with
      | data bytes => exact ⟨congrArg (chunks limit bytes ++ ·) ih.1, ih.2⟩
      | interrupted => exact ih
      | endOfFile => exact ⟨rfl, rfl⟩
      | fault report => exact ⟨rfl, rfl⟩
      | crash => exact ⟨rfl, rfl⟩
  rw [deliveries, deliveries, both.1, both.2]

theorem deliveries_complete (limit : Nat) (gone : DeviceFault) (reader : Reader) :
    (reader.deliveries limit gone).Complete :=
  Feed.complete_pieces _ (reader.stop.told_isLast gone)

theorem deliveries_length_le (limit : Nat) (gone : DeviceFault) (reader : Reader) :
    (reader.deliveries limit gone).length ≤ reader.budget + 1 := by
  have few : (reader.pieces limit).length ≤ reader.budget := by
    induction reader with
    | nil => exact Nat.le_refl 0
    | cons step rest ih =>
      cases step with
      | data bytes =>
        have cut := chunks_length_le limit bytes
        simp only [pieces, budget, List.length_append]
        omega
      | interrupted => exact Nat.le_trans ih (Nat.le_add_left _ _)
      | endOfFile => exact Nat.zero_le _
      | fault report => exact Nat.zero_le _
      | crash => exact Nat.zero_le _
  simp only [deliveries, List.length_append, List.length_map, List.length_singleton]
  omega

theorem read_data {limit : Nat} (positive : 0 < limit) {bytes : Bytes} {rest : Reader}
    (solid : Solid (.data bytes :: rest)) :
    ∃ after, read limit (.data bytes :: rest) = (.got (bytes.take limit), after) ∧
      bytes.take limit ≠ [] ∧ after.Solid ∧ after.budget < budget (.data bytes :: rest) ∧
      ∀ gone, deliveries limit gone (.data bytes :: rest) =
        .piece (bytes.take limit) :: after.deliveries limit gone := by
  have some := List.length_pos_iff.mpr solid.bytes
  have taken : bytes.take limit ≠ [] := by
    rw [← List.length_pos_iff, List.length_take]
    omega
  have cuts : chunks limit bytes = bytes.take limit :: chunks limit (bytes.drop limit) := by
    rw [chunks_cons solid.bytes, Nat.max_eq_right positive]
  cases left : bytes.drop limit with
  | nil =>
    refine ⟨rest, ?_, taken, solid.tail, ?_, ?_⟩
    · simp only [read, left]
    · simp only [budget]
      omega
    · intro gone
      simp only [deliveries, pieces, stop, cuts, left, chunks_nil, List.cons_append,
        List.nil_append, List.map_cons]
  | cons byte more =>
    have shorter := congrArg List.length left
    rw [List.length_drop, List.length_cons] at shorter
    refine ⟨.data (byte :: more) :: rest, ?_, taken, .data (List.cons_ne_nil _ _) solid.tail, ?_, ?_⟩
    · simp only [read, left]
    · simp only [budget, List.length_cons]
      omega
    · intro gone
      simp only [deliveries, pieces, stop, cuts, left, List.cons_append, List.map_cons]

end Reader

namespace Source

-- A source that answers its requests with a feed, up to the last answer.
inductive Yields : Source → Feed → Prop where
  | last {source rest : Source} {answer : Answer} (answered : source.next = (answer, rest))
      (ends : answer.isLast = true) : Yields source [answer]
  | more {source rest : Source} {answer : Answer} {feed : Feed}
      (answered : source.next = (answer, rest)) (goes : answer.isLast = false)
      (later : Yields rest feed) : Yields source (answer :: feed)

theorem Yields.of_next {source other : Source} {feed : Feed} (same : source.next = other.next)
    (yields : Yields other feed) : Yields source feed := by
  cases yields with
  | last answered ends => exact .last (same.trans answered) ends
  | more answered goes later => exact .more (same.trans answered) goes later

theorem Yields.answers {source : Source} {feed : Feed} (yields : Yields source feed) {count : Nat}
    (enough : feed.length ≤ count) : (source.answers count).1 = feed := by
  induction yields generalizing count with
  | last answered ends =>
    cases count with
    | zero => cases enough
    | succ count => simp only [Source.answers, answered, ends, if_true]
  | more answered goes later ih =>
    cases count with
    | zero => cases enough
    | succ count =>
      have rest := ih (Nat.le_of_succ_le_succ enough)
      simp only [Source.answers, answered, goes, Bool.false_eq_true, if_false, rest]

-- One request to a reader passes over its interruptions.
theorem direct_yields {limit : Nat} (positive : 0 < limit) {reader : Reader}
    (solid : reader.Solid) :
    Yields (.direct reader limit false) (reader.deliveries limit .readerCrashed) := by
  induction size : reader.budget using Nat.strongRecOn generalizing reader with
  | ind size ih =>
    subst size
    cases reader with
    | nil => exact .last rfl rfl
    | cons step rest =>
      cases step with
      | data bytes =>
        obtain ⟨after, made, -, left, smaller, same⟩ := Reader.read_data positive solid
        rw [same]
        have answered : Source.next (.direct (.data bytes :: rest) limit false) =
            (.piece (bytes.take limit), .direct after limit false) := by
          simp only [Source.next, Reader.delivery, made]
          rfl
        exact .more answered rfl (ih _ smaller left rfl)
      | interrupted =>
        have less : Reader.budget rest < Reader.budget (.interrupted :: rest) := by
          simp only [Reader.budget]
          omega
        have same : Source.next (.direct (.interrupted :: rest) limit false) =
            Source.next (.direct rest limit false) := rfl
        exact (ih _ less solid.tail rfl).of_next same
      | endOfFile => exact .last rfl rfl
      | fault report => exact .last rfl rfl
      | crash => exact .last rfl rfl

end Source

end PageStream
