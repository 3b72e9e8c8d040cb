import PageStream.Proofs.Applying

namespace PageStream

namespace Feed

def bytes : Feed → Bytes
  | .piece piece :: rest => piece ++ bytes rest
  | _ => []

def fault? : Feed → Option DeviceFault
  | .piece _ :: rest => fault? rest
  | .failed fault :: _ => some fault
  | _ => none

theorem bytes_told (pieces : List Bytes) :
    bytes (pieces.map .piece ++ [.ended]) = pieces.flatten ∧
      fault? (pieces.map .piece ++ [.ended]) = none := by
  induction pieces with
  | nil => exact ⟨rfl, rfl⟩
  | cons piece rest ih =>
    rw [List.map_cons, List.cons_append, bytes, fault?, List.flatten_cons, ih.1]
    exact ⟨rfl, ih.2⟩

def verdict (feed : Feed) : Except Failure Unit :=
  match feed.fault? with
  | some fault => .error (.read fault)
  | none => .ok ()

end Feed

namespace Bench

variable {σ : Type} [ImageSink σ]

theorem applyAll_count {policy : Policy} {base number count : Nat} {bench : Bench σ}
    {records : List Record} (done : (bench.applyAll policy base number records).1 = .ok count) :
    count = number + records.length := by
  induction records generalizing bench number with
  | nil => cases done; rfl
  | cons record rest ih =>
    rw [applyAll] at done
    split at done
    · cases done
    · rw [ih done, List.length_cons]
      omega

end Bench

namespace Session

variable {σ : Type} [ImageSink σ]

namespace Decoder

-- Between two pieces nothing is ready, and every record pulled has been applied.
structure Level (d : Decoder σ) : Prop where
  idle : d.framer.ready = []
  counted : d.applied = d.framer.emitted

-- What a decoder has after more bytes, all of whose records were applied.
structure Follows (after d : Decoder σ) (bytes : Bytes) : Prop extends after.Level where
  policy : after.reconstructor.policy = d.reconstructor.policy
  base : after.reconstructor.base = d.reconstructor.base
  carry : after.framer.carry = (Record.split (d.framer.carry ++ bytes)).2
  emitted : after.framer.emitted =
    d.framer.emitted + (Record.split (d.framer.carry ++ bytes)).1.length
  bytesIn : after.framer.bytesIn = d.framer.bytesIn + bytes.length

-- What applying the records does that more bytes complete.
def ran (d : Decoder σ) (bytes : Bytes) : Except Failure Nat × Bench σ :=
  d.reconstructor.bench.applyAll d.reconstructor.policy d.reconstructor.base d.applied
    (Record.split (d.framer.carry ++ bytes)).1

end Decoder

theorem absorb_exact {d : Decoder σ} (level : d.Level) (piece : Bytes) :
    match d.ran piece with
    | (.error failure, bench) => ∃ after, absorb d piece = (.error failure, after) ∧
        after.reconstructor.bench = bench
    | (.ok _, bench) => ∃ after, absorb d piece = (.ok (), after) ∧
        after.reconstructor.bench = bench ∧ after.Follows d piece := by
  have drained := Framer.drain_feed level.idle piece
  obtain ⟨result, bench, policy, base⟩ := applyAll_bench d.reconstructor d.applied
    (Record.split (d.framer.carry ++ piece)).1
  rcases applied : applyAll d.reconstructor d.applied (Record.split (d.framer.carry ++ piece)).1
    with ⟨failure | count, r⟩
  · rw [applied] at result bench
    rcases ran : d.ran piece with ⟨answer, after⟩
    rw [Decoder.ran] at ran
    rw [ran] at result bench
    subst result
    exact ⟨⟨(d.framer.feed piece).drain.2, r, d.applied⟩,
      by simp only [absorb, drained, applied], bench⟩
  · rw [applied] at result bench policy base
    rcases ran : d.ran piece with ⟨answer, after⟩
    rw [Decoder.ran] at ran
    rw [ran] at result bench
    subst result
    have counted := Bench.applyAll_count (congrArg Prod.fst ran)
    refine ⟨⟨(d.framer.feed piece).drain.2, r, count⟩,
      by simp only [absorb, drained, applied], bench, ⟨⟨?_, ?_⟩, policy, base, ?_, ?_, ?_⟩⟩
    all_goals simp only [drained, counted, level.counted]

def absorbFrom (d : Decoder σ) (piece : Bytes) (feed : Feed) : Except Failure Unit × Decoder σ :=
  match absorb d piece with
  | (.error failure, d) => (.error failure, d)
  | (.ok _, d) => ((absorbAll d feed).1, (absorbAll d feed).2.1)

omit [ImageSink σ] in
theorem Decoder.Follows.append {d middle after : Decoder σ} {first second : Bytes}
    (one : middle.Follows d first) (two : after.Follows middle second) :
    after.Follows d (first ++ second) := by
  have records := Record.split_append (d.framer.carry ++ first) second
  rw [List.append_assoc, ← one.carry] at records
  refine ⟨two.toLevel, two.policy.trans one.policy, two.base.trans one.base, ?_, ?_, ?_⟩
  · rw [two.carry, records]
  · rw [two.emitted, one.emitted, records, List.length_append, Nat.add_assoc]
  · rw [two.bytesIn, one.bytesIn, List.length_append, Nat.add_assoc]

theorem ran_append {d middle : Decoder σ} {first : Bytes} {count : Nat}
    (one : middle.Follows d first) (level : d.Level)
    (ran : d.ran first = (.ok count, middle.reconstructor.bench)) (second : Bytes) :
    d.ran (first ++ second) = middle.ran second := by
  have records := Record.split_append (d.framer.carry ++ first) second
  rw [List.append_assoc, ← one.carry] at records
  have counted := Bench.applyAll_count (congrArg Prod.fst ran)
  rw [Decoder.ran] at ran
  rw [Decoder.ran, records, Bench.applyAll_append, ran, Decoder.ran, one.policy, one.base,
    one.counted, one.emitted, counted, level.counted]

theorem ran_error {d : Decoder σ} {first : Bytes} {failure : Failure} {bench : Bench σ}
    (ran : d.ran first = (.error failure, bench)) (second : Bytes) :
    d.ran (first ++ second) = (.error failure, bench) := by
  rw [Decoder.ran] at ran
  rw [Decoder.ran, ← List.append_assoc, Record.split_append, Bench.applyAll_append, ran]

theorem absorbAll_piece (d : Decoder σ) (piece : Bytes) (rest : Feed) :
    ((absorbAll d (.piece piece :: rest)).1, (absorbAll d (.piece piece :: rest)).2.1) =
      absorbFrom (countDelivery d piece.length) piece rest := by
  rw [absorbAll, absorbFrom]
  rcases absorb (countDelivery d piece.length) piece with ⟨failure | done, after⟩ <;> rfl

-- A feed that brings no more pieces only says how the stream stops.
theorem absorbFrom_last {d : Decoder σ} (level : d.Level) (piece : Bytes) {feed : Feed}
    (nothing : feed.bytes = [])
    (last : ∀ d : Decoder σ, ∃ rest, absorbAll d feed = (feed.verdict, d, rest)) :
    match d.ran (piece ++ feed.bytes) with
    | (.error failure, bench) => ∃ after, absorbFrom d piece feed = (.error failure, after) ∧
        after.reconstructor.bench = bench
    | (.ok _, bench) => ∃ after, absorbFrom d piece feed = (feed.verdict, after) ∧
        after.reconstructor.bench = bench ∧ after.Follows d (piece ++ feed.bytes) := by
  have one := absorb_exact level piece
  rw [nothing, List.append_nil]
  rcases ran : d.ran piece with ⟨failure | count, bench⟩
  · rw [ran] at one
    obtain ⟨after, absorbed, left⟩ := one
    exact ⟨after, by simp only [absorbFrom, absorbed], left⟩
  · rw [ran] at one
    obtain ⟨after, absorbed, left, follows⟩ := one
    obtain ⟨rest, stops⟩ := last after
    exact ⟨after, by simp only [absorbFrom, absorbed, stops], left, follows⟩

theorem absorbFrom_exact {d : Decoder σ} (level : d.Level) (piece : Bytes) (feed : Feed) :
    match d.ran (piece ++ feed.bytes) with
    | (.error failure, bench) => ∃ after, absorbFrom d piece feed = (.error failure, after) ∧
        after.reconstructor.bench = bench
    | (.ok _, bench) => ∃ after, absorbFrom d piece feed = (feed.verdict, after) ∧
        after.reconstructor.bench = bench ∧ after.Follows d (piece ++ feed.bytes) := by
  induction feed generalizing d piece with
  | nil => exact absorbFrom_last level piece rfl fun d => ⟨[], rfl⟩
  | cons answer rest ih =>
    cases answer with
    | ended => exact absorbFrom_last level piece rfl fun d => ⟨rest, rfl⟩
    | failed fault => exact absorbFrom_last level piece rfl fun d => ⟨rest, rfl⟩
    | piece next =>
      have one := absorb_exact level piece
      rcases ran : d.ran piece with ⟨failure | count, bench⟩
      · rw [ran] at one
        obtain ⟨after, absorbed, left⟩ := one
        rw [ran_error ran]
        exact ⟨after, by simp only [absorbFrom, absorbed], left⟩
      · rw [ran] at one
        obtain ⟨middle, absorbed, left, follows⟩ := one
        have counted : (countDelivery middle next.length).Follows d piece :=
          ⟨⟨follows.idle, follows.counted⟩, follows.policy, follows.base, follows.carry,
            follows.emitted, follows.bytesIn⟩
        have same : d.ran (piece ++ (next ++ Feed.bytes rest)) =
            (countDelivery middle next.length).ran (next ++ Feed.bytes rest) :=
          ran_append counted level (by rw [ran, ← left]; rfl) _
        have onward : absorbFrom d piece (.piece next :: rest) =
            absorbFrom (countDelivery middle next.length) next rest := by
          rw [← absorbAll_piece, absorbFrom, absorbed]
        have later := ih counted.toLevel next
        rw [Feed.bytes, same, onward]
        rcases rest_ran : (countDelivery middle next.length).ran (next ++ Feed.bytes rest)
          with ⟨failure | total, bench⟩
        · rw [rest_ran] at later
          exact later
        · rw [rest_ran] at later
          obtain ⟨after, absorbed, left, follows⟩ := later
          exact ⟨after, absorbed, left, counted.append follows⟩

end Session

end PageStream
