import PageStream.Framer

namespace PageStream

namespace Record

def first (bytes : Bytes) (enough : recordSize ≤ bytes.length) : Record :=
  ⟨bytes.take recordSize, by simp only [List.length_take]; omega⟩

-- The complete records at the start of some bytes, and what is left behind them.
def split (bytes : Bytes) : List Record × Bytes :=
  if enough : recordSize ≤ bytes.length then
    let (records, tail) := split (bytes.drop recordSize)
    (first bytes enough :: records, tail)
  else ([], bytes)
termination_by bytes.length
decreasing_by
  have positive : 0 < recordSize := by decide
  simp only [List.length_drop]; omega

def join (records : List Record) : Bytes := records.flatMap (·.bytes)

@[simp] theorem join_nil : join [] = [] := rfl

@[simp] theorem join_cons (record : Record) (rest : List Record) :
    join (record :: rest) = record.bytes ++ join rest := rfl

@[simp] theorem join_append (first second : List Record) :
    join (first ++ second) = join first ++ join second := List.flatMap_append

theorem join_length (records : List Record) :
    (join records).length = recordSize * records.length := by
  induction records with
  | nil => rfl
  | cons record rest ih =>
    simp only [join_cons, List.length_append, record.length_eq, ih, List.length_cons, Nat.mul_succ]
    omega

theorem split_short {bytes : Bytes} (short : bytes.length < recordSize) :
    split bytes = ([], bytes) := by
  rw [split, dif_neg (by omega)]

theorem split_enough {bytes : Bytes} (enough : recordSize ≤ bytes.length) :
    split bytes = (first bytes enough :: (split (bytes.drop recordSize)).1,
      (split (bytes.drop recordSize)).2) := by
  rw [split, dif_pos enough]

theorem split_cons (record : Record) (rest : Bytes) :
    split (record.bytes ++ rest) = (record :: (split rest).1, (split rest).2) := by
  have exactly := record.length_eq
  have enough : recordSize ≤ (record.bytes ++ rest).length := by
    simp only [List.length_append]; omega
  rw [split_enough enough]
  simp only [first, List.take_left' exactly, List.drop_left' exactly]

-- The records and the tail are determined by what they are together.
theorem split_join (records : List Record) {tail : Bytes} (short : tail.length < recordSize) :
    split (join records ++ tail) = (records, tail) := by
  induction records with
  | nil => exact split_short short
  | cons record rest ih => rw [join_cons, List.append_assoc, split_cons, ih]

theorem split_joins (records : List Record) : split (join records) = (records, []) := by
  have whole := split_join records (show ([] : Bytes).length < recordSize by decide)
  rwa [List.append_nil] at whole

theorem split_spec (bytes : Bytes) :
    join (split bytes).1 ++ (split bytes).2 = bytes ∧ (split bytes).2.length < recordSize := by
  induction bytes using split.induct with
  | case1 bytes enough records tail cut ih =>
    obtain ⟨joined, short⟩ := ih
    rw [split_enough enough]
    refine ⟨?_, short⟩
    rw [join_cons, List.append_assoc, joined, first, List.take_append_drop]
  | case2 bytes lacking =>
    rw [split_short (by omega)]
    exact ⟨rfl, by show bytes.length < recordSize; omega⟩

theorem split_joined (bytes : Bytes) : join (split bytes).1 ++ (split bytes).2 = bytes :=
  (split_spec bytes).1

theorem split_tail_lt (bytes : Bytes) : (split bytes).2.length < recordSize := (split_spec bytes).2

theorem split_append (first second : Bytes) :
    split (first ++ second) = ((split first).1 ++ (split ((split first).2 ++ second)).1,
      (split ((split first).2 ++ second)).2) := by
  have whole : first ++ second = join ((split first).1 ++ (split ((split first).2 ++ second)).1) ++
      (split ((split first).2 ++ second)).2 := by
    rw [join_append, List.append_assoc, split_joined, ← List.append_assoc, split_joined]
  rw [whole, split_join _ (split_tail_lt _)]

theorem split_length (bytes : Bytes) :
    recordSize * (split bytes).1.length + (split bytes).2.length = bytes.length := by
  have whole := congrArg List.length (split_joined bytes)
  rwa [List.length_append, join_length] at whole

theorem split_count (bytes : Bytes) : (split bytes).1.length = bytes.length / recordSize := by
  have whole := split_length bytes
  have short := split_tail_lt bytes
  have positive : 0 < recordSize := by decide
  rw [← whole, Nat.mul_add_div positive, Nat.div_eq_of_lt short, Nat.add_zero]

end Record

namespace Frames

def content (frames : Frames) : Bytes := frames.framer.carry ++ frames.input

theorem cut_short {frames : Frames} (short : frames.content.length < recordSize) :
    frames.cut =
      (none, ⟨{ frames.framer with carry := frames.content, carry_lt := short }, []⟩) := by
  have carried := frames.framer.carry_lt
  have small : frames.input.length < recordSize - frames.framer.carry.length := by
    simp only [content, List.length_append] at short
    omega
  simp only [cut, dif_pos small, content]

theorem cut_enough {frames : Frames} (enough : recordSize ≤ frames.content.length) :
    frames.cut = (some (.first frames.content enough),
      ⟨{ frames.framer with carry := [], carry_lt := by decide },
        frames.content.drop recordSize⟩) := by
  have carried := frames.framer.carry_lt
  have large : ¬ frames.input.length < recordSize - frames.framer.carry.length := by
    simp only [content, List.length_append] at enough
    omega
  have front : frames.content.take recordSize =
      frames.framer.carry ++ frames.input.take (recordSize - frames.framer.carry.length) := by
    rw [content, List.take_append, List.take_of_length_le (by omega)]
  have back : frames.content.drop recordSize =
      frames.input.drop (recordSize - frames.framer.carry.length) := by
    rw [content, List.drop_append, List.drop_of_length_le (by omega), List.nil_append]
  simp only [cut, dif_neg large, Record.first, front, back]

theorem close_none {frames after : Frames} (made : frames.cut = (none, after)) :
    frames.close = after.framer := by
  rw [close]
  split <;> rename_i again <;> rw [made] at again <;> cases again
  rfl

theorem close_some {frames after : Frames} {record : Record}
    (made : frames.cut = (some record, after)) : frames.close = (after.keep record).close := by
  rw [close]
  split <;> rename_i again <;> rw [made] at again <;> cases again
  rfl

theorem close_short {frames : Frames} (short : frames.content.length < recordSize) :
    frames.close = { frames.framer with carry := frames.content, carry_lt := short } :=
  close_none (cut_short short)

theorem next_ready {frames : Frames} {record : Record} {ready : List Record}
    (held : frames.framer.ready = record :: ready) :
    frames.next = (some record, { frames with framer := { frames.framer with ready } }.emit) := by
  simp only [next, held]

theorem next_short {frames : Frames} (idle : frames.framer.ready = [])
    (short : frames.content.length < recordSize) :
    frames.next =
      (none, ⟨{ frames.framer with carry := frames.content, carry_lt := short }, []⟩) := by
  simp only [next, idle, cut_short short]

theorem next_enough {frames : Frames} (idle : frames.framer.ready = [])
    (enough : recordSize ≤ frames.content.length) :
    frames.next = (some (.first frames.content enough),
      Frames.emit ⟨{ frames.framer with carry := [], carry_lt := by decide },
        frames.content.drop recordSize⟩) := by
  simp only [next, idle, cut_enough enough]

theorem drain_none {frames after : Frames} (ended : frames.next = (none, after)) :
    frames.drain = ([], after.close) := by
  rw [drain]
  split <;> rename_i pulled <;> rw [ended] at pulled <;> cases pulled
  rfl

theorem drain_some {frames after : Frames} {record : Record}
    (pulled : frames.next = (some record, after)) :
    frames.drain = (record :: after.drain.1, after.drain.2) := by
  rw [drain]
  split <;> rename_i again <;> rw [pulled] at again <;> cases again
  rfl

def drained (frames : Frames) : Framer where
  carry := (Record.split frames.content).2
  ready := []
  emitted := frames.framer.emitted + frames.framer.ready.length +
    (Record.split frames.content).1.length
  bytesIn := frames.framer.bytesIn
  carry_lt := Record.split_tail_lt _

-- What is ready goes first, then the records that the carried and the new bytes form.
theorem drain_exact (frames : Frames) : frames.drain =
    (frames.framer.ready ++ (Record.split frames.content).1, frames.drained) := by
  induction frames using drain.induct with
  | case1 frames after ended =>
    rw [drain_none ended]
    cases held : frames.framer.ready with
    | cons record ready =>
      rw [next_ready held] at ended
      cases ended
    | nil =>
      by_cases short : frames.content.length < recordSize
      · rw [next_short held short] at ended
        cases ended
        rw [close_short (by simpa only [content, List.append_nil] using short)]
        have whole := Record.split_short short
        simp only [content] at whole
        simp only [drained, held, content, List.append_nil, whole, List.length_nil, Nat.add_zero]
      · rw [next_enough held (by omega)] at ended
        cases ended
  | case2 frames record after pulled records framer rest ih =>
    rw [drain_some pulled, ih]
    cases held : frames.framer.ready with
    | cons head ready =>
      rw [next_ready held] at pulled
      cases pulled
      have order (n : Nat) : frames.framer.emitted + 1 + ready.length + n =
          frames.framer.emitted + (ready.length + 1) + n := by omega
      simp only [emit, drained, held, List.length_cons, content, List.cons_append, order]
    | nil =>
      by_cases short : frames.content.length < recordSize
      · rw [next_short held short] at pulled
        cases pulled
      · have enough : recordSize ≤ frames.content.length := by omega
        have whole := Record.split_enough enough
        rw [next_enough held enough] at pulled
        cases pulled
        have order (n : Nat) : frames.framer.emitted + 1 + 0 + n =
          frames.framer.emitted + 0 + (n + 1) := by omega
        simp only [content] at whole
        simp only [emit, drained, held, content, whole, List.nil_append, List.length_nil,
          List.length_cons, order]

end Frames

namespace Framer

theorem drain_feed {framer : Framer} (idle : framer.ready = []) (piece : Bytes) :
    (framer.feed piece).drain = ((Record.split (framer.carry ++ piece)).1,
      { carry := (Record.split (framer.carry ++ piece)).2
        ready := []
        emitted := framer.emitted + (Record.split (framer.carry ++ piece)).1.length
        bytesIn := framer.bytesIn + piece.length
        carry_lt := Record.split_tail_lt _ }) := by
  rw [Frames.drain_exact]
  simp only [Frames.drained, Frames.content, feed, idle, List.nil_append, List.length_nil,
    Nat.add_zero]

end Framer

end PageStream
