import PageStream.Proofs.Checked
import PageStream.Proofs.Reading

namespace PageStream

def lengthAt (lengths : List Nat) (index whole : Nat) : Nat :=
  max 1 (lengths[index % max 1 lengths.length]?.getD whole)

section Lengths

variable {lengths : List Nat} {index : Nat}

theorem lengthAt_pos (lengths : List Nat) (index whole : Nat) : 0 < lengthAt lengths index whole :=
  Nat.le_max_left 1 _

theorem lengthAt_given {length : Nat} (given : lengths[index % lengths.length]? = some length)
    (whole : Nat) : lengthAt lengths index whole = max 1 length := by
  have inside := (List.getElem?_eq_some_iff.mp given).1
  have count : max 1 lengths.length = lengths.length := Nat.max_eq_right (by omega)
  rw [lengthAt, count, given, Option.getD_some]

theorem lengthAt_nil (index whole : Nat) : lengthAt [] index whole = max 1 whole := rfl

theorem length_given (given : lengths ≠ []) (index : Nat) :
    ∃ length, lengths[index % lengths.length]? = some length := by
  have inside := Nat.mod_lt index (List.length_pos_iff.mpr given)
  exact ⟨_, List.getElem?_eq_getElem inside⟩

theorem lengthAt_lt (words : ∀ length ∈ lengths, length < 2 ^ 64) {whole : Nat}
    (room : whole ≤ longestBuffer) (index : Nat) : lengthAt lengths index whole < 2 ^ 64 := by
  have word : longestBuffer + 1 < 2 ^ 64 := by decide
  by_cases given : lengths = []
  · rw [given, lengthAt_nil]
    omega
  · obtain ⟨length, known⟩ := length_given given index
    have word := words length (List.mem_of_getElem? known)
    rw [lengthAt_given known]
    omega

-- With no lengths given, it is the same to take what the whole has and to take what is left of it.
theorem lengthAt_left (lengths : List Nat) (index : Nat) {position whole : Nat}
    (inside : position < whole) (room : whole ≤ longestBuffer) :
    (2 ^ 64 ≤ position + lengthAt lengths index whole ↔
        2 ^ 64 ≤ position + lengthAt lengths index (whole - position)) ∧
      min (position + lengthAt lengths index whole) whole =
        min (position + lengthAt lengths index (whole - position)) whole := by
  have word : 2 * longestBuffer < 2 ^ 64 := by decide
  by_cases given : lengths = []
  · rw [given, lengthAt_nil, lengthAt_nil]
    omega
  · obtain ⟨length, known⟩ := length_given given index
    rw [lengthAt_given known, lengthAt_given known]
    exact ⟨Iff.rfl, rfl⟩

end Lengths

-- Pieces that make up the bytes, the first of them of the length numbered `first`. A piece for a length
-- of zero has one byte, only the last piece may be shorter, and with no lengths there is just one.
structure Divides (lengths : List Nat) (first : Nat) (bytes : Bytes) (pieces : List Bytes) :
    Prop where
  whole : pieces.flatten = bytes
  solid : ∀ piece ∈ pieces, piece ≠ []
  sized : ∀ index length piece, lengths[(first + index) % lengths.length]? = some length →
    pieces[index]? = some piece →
      piece.length ≤ max length 1 ∧ (index + 1 < pieces.length → piece.length = max length 1)
  undivided : lengths = [] → bytes ≠ [] → pieces = [bytes]

-- The last piece begins where a piece of its length would reach a place that is no word.
def Overreaches (lengths : List Nat) (first position : Nat) (pieces : List Bytes) : Prop :=
  ∃ front last length, pieces = front ++ [last] ∧
    lengths[(first + front.length) % lengths.length]? = some length ∧
      2 ^ 64 ≤ position + front.flatten.length + length

namespace Divides

variable {lengths : List Nat} {first : Nat} {bytes : Bytes} {pieces rest : List Bytes}

theorem nothing (lengths : List Nat) (first : Nat) : Divides lengths first [] [] := by
  refine ⟨rfl, ?_, ?_, ?_⟩
  · intro piece member
    cases member
  · intro index length piece given here
    cases here
  · intro none solid
    exact absurd rfl solid

theorem of_nil (divides : Divides lengths first [] pieces) : pieces = [] := by
  cases pieces with
  | nil => rfl
  | cons piece rest =>
    have empty := (List.append_eq_nil_iff.mp divides.whole).1
    exact absurd empty (divides.solid piece List.mem_cons_self)

theorem cons (solid : bytes ≠ [])
    (later : Divides lengths (first + 1) (bytes.drop (lengthAt lengths first bytes.length)) rest) :
    Divides lengths first bytes (bytes.take (lengthAt lengths first bytes.length) :: rest) := by
  have positive := lengthAt_pos lengths first bytes.length
  refine ⟨?whole, ?solid, ?sized, ?undivided⟩
  case whole => rw [List.flatten_cons, later.whole, List.take_append_drop]
  case solid =>
    intro piece member
    rcases List.mem_cons.mp member with rfl | behind
    · have some := List.length_pos_iff.mpr solid
      rw [← List.length_pos_iff, List.length_take]
      omega
    · exact later.solid piece behind
  case sized =>
    intro index length piece given here
    cases index with
    | zero =>
      cases here
      have size : lengthAt lengths first bytes.length = max 1 length := lengthAt_given given _
      rw [size] at later ⊢
      rw [List.length_take, Nat.max_comm length 1]
      refine ⟨Nat.min_le_left _ _, ?_⟩
      intro more
      have left : bytes.drop (max 1 length) ≠ [] := by
        intro none
        rw [none] at later
        rw [later.of_nil] at more
        exact absurd more (Nat.lt_irrefl 1)
      have reach := List.length_pos_iff.mpr left
      rw [List.length_drop] at reach
      omega
    | succ index =>
      rw [← Nat.add_assoc, Nat.add_right_comm] at given
      rw [List.length_cons, Nat.succ_lt_succ_iff]
      exact later.sized index length piece given here
  case undivided =>
    rintro rfl -
    rw [lengthAt_nil, List.drop_of_length_le (Nat.le_max_right 1 _)] at later
    rw [lengthAt_nil, List.take_of_length_le (Nat.le_max_right 1 _), later.of_nil]

theorem last (solid : bytes ≠ []) (past : bytes.length ≤ lengthAt lengths first bytes.length) :
    Divides lengths first bytes [bytes] := by
  have divides : Divides lengths first bytes
      [bytes.take (lengthAt lengths first bytes.length)] := by
    apply cons solid
    rw [List.drop_of_length_le past]
    exact nothing lengths (first + 1)
  rwa [List.take_of_length_le past] at divides

theorem uncons {piece : Bytes} (divides : Divides lengths first bytes (piece :: rest)) :
    piece = bytes.take (lengthAt lengths first bytes.length) ∧
      Divides lengths (first + 1) (bytes.drop (lengthAt lengths first bytes.length)) rest := by
  have whole : piece ++ rest.flatten = bytes := divides.whole
  have cut : piece = bytes.take (lengthAt lengths first bytes.length) ∧
      rest.flatten = bytes.drop (lengthAt lengths first bytes.length) := by
    by_cases given : lengths = []
    · have full : bytes ≠ [] := by
        rw [← whole]
        exact List.append_ne_nil_of_left_ne_nil (divides.solid piece List.mem_cons_self) _
      have alone := divides.undivided given full
      obtain ⟨rfl, rfl⟩ := List.cons_eq_cons.mp alone
      rw [given, lengthAt_nil, List.take_of_length_le (Nat.le_max_right 1 _),
        List.drop_of_length_le (Nat.le_max_right 1 _)]
      exact ⟨rfl, rfl⟩
    · obtain ⟨length, known⟩ := length_given given first
      obtain ⟨short, full⟩ := divides.sized 0 length piece known rfl
      rw [lengthAt_given known, ← whole, Nat.max_comm 1 length]
      cases rest with
      | nil =>
        rw [List.flatten_nil, List.append_nil, List.take_of_length_le short,
          List.drop_of_length_le short]
        exact ⟨rfl, rfl⟩
      | cons next behind =>
        have size := full (by simp only [List.length_cons]; omega)
        rw [List.take_left' size, List.drop_left' size]
        exact ⟨rfl, rfl⟩
  refine ⟨cut.1, cut.2, ?_, ?_, ?_⟩
  · exact fun piece member => divides.solid piece (List.mem_cons_of_mem _ member)
  · intro index length piece given here
    rw [Nat.add_right_comm, Nat.add_assoc] at given
    have sizes := divides.sized (index + 1) length piece given here
    rwa [List.length_cons, Nat.succ_lt_succ_iff] at sizes
  · rintro rfl left
    rw [lengthAt_nil] at left
    exact absurd (List.drop_of_length_le (Nat.le_max_right 1 _)) left

theorem unique (one : Divides lengths first bytes pieces)
    (two : Divides lengths first bytes rest) : pieces = rest := by
  induction pieces generalizing first bytes rest with
  | nil =>
    have empty : [] = bytes := one.whole
    subst empty
    exact two.of_nil.symm
  | cons piece pieces ih =>
    cases rest with
    | nil =>
      have empty : [] = bytes := two.whole
      subst empty
      exact one.of_nil
    | cons other rest =>
      obtain ⟨head, tail⟩ := one.uncons
      obtain ⟨head', tail'⟩ := two.uncons
      rw [head, head', ih tail tail']

end Divides

section Overreaches

variable {lengths : List Nat} {first position : Nat}

theorem overreaches_last {bytes : Bytes} (solid : bytes ≠ [])
    (room : position + bytes.length ≤ longestBuffer) :
    Overreaches lengths first position [bytes] ↔
      2 ^ 64 ≤ position + lengthAt lengths first bytes.length := by
  have word : longestBuffer + 1 < 2 ^ 64 := by decide
  have some := List.length_pos_iff.mpr solid
  constructor
  · rintro ⟨front, other, length, parted, given, high⟩
    have alone : [] ++ [bytes] = front ++ [other] := parted
    obtain ⟨rfl, -⟩ := List.append_inj' alone rfl
    have size : lengthAt lengths first bytes.length = max 1 length := lengthAt_given given _
    rw [List.flatten_nil, List.length_nil] at high
    omega
  · intro high
    by_cases given : lengths = []
    · rw [given, lengthAt_nil] at high
      omega
    · obtain ⟨length, known⟩ := length_given given first
      rw [lengthAt_given known] at high
      refine ⟨[], bytes, length, rfl, known, ?_⟩
      rw [List.flatten_nil, List.length_nil]
      omega

theorem overreaches_cons {piece : Bytes} {pieces : List Bytes} (more : pieces ≠ []) :
    Overreaches lengths first position (piece :: pieces) ↔
      Overreaches lengths (first + 1) (position + piece.length) pieces := by
  constructor
  · rintro ⟨front, last, length, parted, given, high⟩
    cases front with
    | nil =>
      obtain ⟨-, none⟩ := List.cons_eq_cons.mp parted
      exact absurd none more
    | cons piece' front =>
      obtain ⟨rfl, behind⟩ := List.cons_eq_cons.mp parted
      refine ⟨front, last, length, behind, ?_, ?_⟩
      · rwa [Nat.add_right_comm, Nat.add_assoc]
      · rwa [Nat.add_assoc position, ← List.length_append]
  · rintro ⟨front, last, length, rfl, given, high⟩
    refine ⟨piece :: front, last, length, rfl, ?_, ?_⟩
    · rwa [Nat.add_right_comm, Nat.add_assoc] at given
    · rwa [Nat.add_assoc position, ← List.length_append] at high

end Overreaches

section Cuts

variable {lengths : List Nat} {index position : Nat} {bytes : Bytes}

theorem cutsFrom_nil (lengths : List Nat) (index position : Nat) :
    cutsFrom lengths index position [] = some [] := by
  rw [cutsFrom, if_pos rfl]

theorem cutsFrom_high (solid : bytes ≠ [])
    (high : 2 ^ 64 ≤ position + lengthAt lengths index bytes.length) :
    cutsFrom lengths index position bytes = none := by
  rw [cutsFrom, if_neg solid]
  exact if_pos high

theorem cutsFrom_cons (solid : bytes ≠ [])
    (fits : position + lengthAt lengths index bytes.length < 2 ^ 64) :
    cutsFrom lengths index position bytes =
      (cutsFrom lengths (index + 1) (position + lengthAt lengths index bytes.length)
        (bytes.drop (lengthAt lengths index bytes.length))).map
          (bytes.take (lengthAt lengths index bytes.length) :: ·) := by
  rw [cutsFrom, if_neg solid]
  exact if_neg (Nat.not_le_of_lt fits)

-- The place behind a cut can only be no word if the cut takes all that is left.
theorem cutsFrom_divided (room : position + bytes.length ≤ longestBuffer) :
    ∃ pieces, Divides lengths index bytes pieces ∧
      ((cutsFrom lengths index position bytes = some pieces ∧
          ¬ Overreaches lengths index position pieces) ∨
        (cutsFrom lengths index position bytes = none ∧
          Overreaches lengths index position pieces)) := by
  have word : longestBuffer + 1 < 2 ^ 64 := by decide
  induction index, position, bytes using cutsFrom.induct lengths with
  | case1 index position =>
    refine ⟨[], .nothing lengths index, .inl ⟨cutsFrom_nil lengths index position, ?_⟩⟩
    rintro ⟨front, last, length, parted, -⟩
    exact List.append_ne_nil_of_right_ne_nil front (List.cons_ne_nil last []) parted.symm
  | case2 index position bytes solid size high =>
    have beyond : 2 ^ 64 ≤ position + lengthAt lengths index bytes.length := high
    refine ⟨[bytes], .last solid (by omega), .inr ⟨cutsFrom_high solid beyond, ?_⟩⟩
    exact (overreaches_last solid room).mpr beyond
  | case3 index position bytes solid size fits ih =>
    have below : position + lengthAt lengths index bytes.length < 2 ^ 64 := Nat.lt_of_not_le fits
    have cuts := cutsFrom_cons solid below
    change position + lengthAt lengths index bytes.length +
      (bytes.drop (lengthAt lengths index bytes.length)).length ≤ longestBuffer → _ at ih
    by_cases past : bytes.length ≤ lengthAt lengths index bytes.length
    · rw [List.drop_of_length_le past, List.take_of_length_le past, cutsFrom_nil] at cuts
      refine ⟨[bytes], .last solid past, .inl ⟨cuts, ?_⟩⟩
      rw [overreaches_last solid room]
      omega
    · rw [List.length_drop] at ih
      obtain ⟨rest, divides, outcome⟩ := ih (by omega)
      have more : rest ≠ [] := by
        rintro rfl
        have none := List.drop_eq_nil_iff.mp divides.whole.symm
        exact past none
      have reach : (bytes.take (lengthAt lengths index bytes.length)).length =
          lengthAt lengths index bytes.length := by
        rw [List.length_take]
        omega
      refine ⟨_, .cons solid divides, ?_⟩
      rw [overreaches_cons more, reach, cuts]
      rcases outcome with ⟨made, fit⟩ | ⟨stuck, high⟩
      · exact .inl ⟨congrArg (Option.map _) made, fit⟩
      · exact .inr ⟨congrArg (Option.map _) stuck, high⟩

end Cuts

-- What becomes of a sum of two words that is none: the program stops, or the low bits are kept.
inductive Overflow where
  | stops
  | wraps

def Overflow.sum : Overflow → Nat → Nat → Option Nat
  | .stops, one, two => Checked.plus one two
  | .wraps, one, two => some ((one + two) % 2 ^ 64)

theorem Overflow.sum_word (overflow : Overflow) {one two : Nat} (word : one + two < 2 ^ 64) :
    overflow.sum one two = some (one + two) := by
  cases overflow with
  | stops => exact Checked.plus_eq word
  | wraps => exact congrArg some (Nat.mod_eq_of_lt word)

theorem Overflow.slice_high (overflow : Overflow) {bytes : Bytes} {position length : Nat}
    (inside : position < bytes.length) (small : length < 2 ^ 64)
    (high : 2 ^ 64 ≤ position + length) :
    (overflow.sum position length).bind
      (fun sum => Checked.slice bytes position (min sum bytes.length)) = none := by
  cases overflow with
  | stops =>
    have none : Overflow.sum .stops position length = none := if_neg (Nat.not_lt_of_le high)
    rw [none, Option.bind_none]
  | wraps =>
    have low : (position + length) % 2 ^ 64 < position := by omega
    apply if_neg
    omega

-- The variables of a loop that cuts bytes one after another: the pieces so far, the place of the next
-- one in the whole, and its number.
structure Divider where
  pieces : List Bytes
  position : Nat
  index : Nat

namespace Divider

def turn (overflow : Overflow) (lengths : List Nat) (bytes : Bytes) (divider : Divider) :
    Option Divider := do
  let sum ← overflow.sum divider.position (lengthAt lengths divider.index bytes.length)
  let piece ← Checked.slice bytes divider.position (min sum bytes.length)
  let index ← overflow.sum divider.index 1
  return ⟨divider.pieces ++ [piece], min sum bytes.length, index⟩

inductive Ends (overflow : Overflow) (lengths : List Nat) (bytes : Bytes) :
    Divider → Option (List Bytes) → Prop where
  | finished {divider : Divider} (reached : bytes.length ≤ divider.position) :
      Ends overflow lengths bytes divider (some divider.pieces)
  | broken {divider : Divider} (more : divider.position < bytes.length)
      (failed : divider.turn overflow lengths bytes = none) :
      Ends overflow lengths bytes divider none
  | turned {divider next : Divider} {result : Option (List Bytes)}
      (more : divider.position < bytes.length)
      (made : divider.turn overflow lengths bytes = some next)
      (later : Ends overflow lengths bytes next result) : Ends overflow lengths bytes divider result

variable {overflow : Overflow} {lengths : List Nat} {bytes : Bytes} {divider : Divider}

theorem Ends.unique {one two : Option (List Bytes)} (first : Ends overflow lengths bytes divider one)
    (second : Ends overflow lengths bytes divider two) : one = two := by
  induction first with
  | finished reached =>
    cases second with
    | finished => rfl
    | broken more => exact absurd reached (Nat.not_le_of_lt more)
    | turned more => exact absurd reached (Nat.not_le_of_lt more)
  | broken more failed =>
    cases second with
    | finished reached => exact absurd reached (Nat.not_le_of_lt more)
    | broken => rfl
    | turned _ made => cases failed.symm.trans made
  | turned more made later ih =>
    cases second with
    | finished reached => exact absurd reached (Nat.not_le_of_lt more)
    | broken _ failed => cases failed.symm.trans made
    | turned _ made' later' =>
      cases made.symm.trans made'
      exact ih later'

variable {pieces : List Bytes} {position index : Nat}

theorem turn_high (words : ∀ length ∈ lengths, length < 2 ^ 64)
    (room : bytes.length ≤ longestBuffer) (inside : position < bytes.length)
    (high : 2 ^ 64 ≤ position + lengthAt lengths index (bytes.drop position).length) :
    turn overflow lengths bytes ⟨pieces, position, index⟩ = none := by
  rw [List.length_drop] at high
  have beyond := (lengthAt_left lengths index inside room).1.mpr high
  have cut := overflow.slice_high inside (lengthAt_lt words room index) beyond
  simp only [turn]
  cases sum : overflow.sum position (lengthAt lengths index bytes.length) with
  | none => rfl
  | some stop =>
    rw [sum, Option.bind_some] at cut
    simp only [Option.bind_eq_bind, Option.bind_some, cut, Option.bind_none]

theorem turn_word (room : bytes.length ≤ longestBuffer) (inside : position < bytes.length)
    (few : index ≤ position)
    (fits : position + lengthAt lengths index (bytes.drop position).length < 2 ^ 64) :
    turn overflow lengths bytes ⟨pieces, position, index⟩ =
      some ⟨pieces ++
          [(bytes.drop position).take (lengthAt lengths index (bytes.drop position).length)],
        min (position + lengthAt lengths index (bytes.drop position).length) bytes.length,
        index + 1⟩ := by
  have word : longestBuffer + 1 < 2 ^ 64 := by decide
  rw [List.length_drop] at fits ⊢
  obtain ⟨words, places⟩ := lengthAt_left lengths index inside room
  have sum := overflow.sum_word (Nat.lt_of_not_le (mt words.mp (Nat.not_le_of_lt fits)))
  have count : overflow.sum index 1 = some (index + 1) := overflow.sum_word (by omega)
  have positive := lengthAt_pos lengths index (bytes.length - position)
  have cut : Checked.slice bytes position
      (min (position + lengthAt lengths index (bytes.length - position)) bytes.length) =
        some ((bytes.drop position).take (lengthAt lengths index (bytes.length - position))) := by
    rw [Checked.slice_eq (by omega) (Nat.min_le_right _ _), List.drop_take]
    congr 1
    rw [List.take_eq_take_iff, List.length_drop]
    omega
  simp only [turn, sum, count, places, cut, Option.bind_eq_bind, Option.bind_some]
  rfl

-- The loop from any of its turns on. A place behind the end counts as the end.
theorem ends_cuts (words : ∀ length ∈ lengths, length < 2 ^ 64)
    (room : bytes.length ≤ longestBuffer) (few : index ≤ position) (pieces : List Bytes) :
    Ends overflow lengths bytes ⟨pieces, min position bytes.length, index⟩
      ((cutsFrom lengths index position (bytes.drop position)).map (pieces ++ ·)) := by
  have word : 2 * longestBuffer < 2 ^ 64 := by decide
  generalize same : bytes.drop position = rest
  induction index, position, rest using cutsFrom.induct lengths generalizing pieces with
  | case1 index position =>
    have reached : bytes.length ≤ min position bytes.length := by
      have none := List.drop_eq_nil_iff.mp same
      omega
    rw [cutsFrom_nil, Option.map_some, List.append_nil]
    exact .finished reached
  | case2 index position rest solid size high =>
    subst same
    have inside := List.length_pos_iff.mpr solid
    rw [List.length_drop, Nat.sub_pos_iff_lt] at inside
    rw [cutsFrom_high solid high, Option.map_none, Nat.min_eq_left (Nat.le_of_lt inside)]
    exact .broken inside (turn_high words room inside high)
  | case3 index position rest solid size fits ih =>
    subst same
    have inside := List.length_pos_iff.mpr solid
    rw [List.length_drop, Nat.sub_pos_iff_lt] at inside
    have below := Nat.lt_of_not_le fits
    have positive := lengthAt_pos lengths index (bytes.drop position).length
    have counted : index + 1 ≤ position + lengthAt lengths index (bytes.drop position).length := by
      omega
    have next := ih counted (pieces ++
      [(bytes.drop position).take (lengthAt lengths index (bytes.drop position).length)])
      List.drop_drop.symm
    have joined (piece : Bytes) : (pieces ++ ·) ∘ (piece :: ·) = ((pieces ++ [piece]) ++ ·) := by
      funext later
      exact List.append_cons pieces piece later
    rw [cutsFrom_cons solid below, Option.map_map, joined, Nat.min_eq_left (Nat.le_of_lt inside)]
    exact .turned inside (turn_word room inside few below) next

theorem run_exact (words : ∀ length ∈ lengths, length < 2 ^ 64)
    (room : bytes.length ≤ longestBuffer) (overflow : Overflow) (result : Option (List Bytes)) :
    Ends overflow lengths bytes ⟨[], 0, 0⟩ result ↔ result = cuts? lengths bytes := by
  have ends : Ends overflow lengths bytes ⟨[], min 0 bytes.length, 0⟩ _ :=
    ends_cuts words room (Nat.le_refl 0) []
  simp only [Nat.zero_min, List.drop_zero, List.nil_append, Option.map_id'] at ends
  constructor
  · intro other
    exact other.unique ends
  · rintro rfl
    exact ends

end Divider

theorem cutsFrom_chunks {length : Nat} {bytes : Bytes} (index : Nat) {position : Nat}
    (room : position + bytes.length ≤ longestBuffer) (word : position + max 1 length < 2 ^ 64) :
    cutsFrom [length] index position bytes = some (chunks length bytes) := by
  have small : 2 * longestBuffer < 2 ^ 64 := by decide
  induction bytes using chunks.induct length generalizing index position with
  | case1 => rw [cutsFrom_nil, chunks_nil]
  | case2 bytes solid ih =>
    have given : [length][index % [length].length]? = some length := by
      rw [List.length_singleton, Nat.mod_one]
      rfl
    have size := lengthAt_given given bytes.length
    rw [List.length_drop] at ih
    rw [chunks_cons solid, cutsFrom_cons solid (by rwa [size]), size]
    by_cases past : bytes.length ≤ max 1 length
    · rw [List.drop_of_length_le past, cutsFrom_nil, chunks_nil]
      rfl
    · rw [ih (index + 1) (by omega) (by omega)]
      rfl

theorem Divides.fits {lengths : List Nat} {bytes : Bytes} {pieces : List Bytes} {first position : Nat}
    (divides : Divides lengths first bytes pieces) (room : position + bytes.length ≤ longestBuffer)
    (half : ∀ length ∈ lengths, length ≤ 2 ^ 63) : ¬ Overreaches lengths first position pieces := by
  rintro ⟨front, last, length, rfl, given, high⟩
  have few := half length (List.mem_of_getElem? given)
  have whole := congrArg List.length divides.whole
  rw [List.flatten_append, List.length_append] at whole
  simp only [longestBuffer] at room
  omega

theorem given_yields (pieces : List Bytes) :
    Source.Yields (.given pieces) (pieces.map .piece ++ [.ended]) := by
  induction pieces with
  | nil => exact .last rfl rfl
  | cons piece rest ih => exact .more rfl rfl ih

theorem given_feed (pieces : List Bytes) :
    (Source.given pieces).feed = pieces.map .piece ++ [.ended] := by
  apply (given_yields pieces).answers
  rw [List.length_append, List.length_map]
  exact Nat.le_refl _

-- The one way to divide bytes at given lengths is the way they are cut and handed over, unless the
-- place behind the last piece is no word; one length alone divides them like pieces of one length.
theorem cuts_replay {lengths : List Nat} {bytes : Bytes}
    (words : ∀ length ∈ lengths, length < 2 ^ 64) (room : bytes.length ≤ longestBuffer) :
    ∃ pieces, Divides lengths 0 bytes pieces ∧
      (∀ others, Divides lengths 0 bytes others → others = pieces) ∧
      (Source.given pieces).feed = pieces.map .piece ++ [.ended] ∧
      (cuts? lengths bytes = some pieces ↔ ¬ Overreaches lengths 0 0 pieces) ∧
      (cuts? lengths bytes = none ↔ Overreaches lengths 0 0 pieces) ∧
      ((∀ length ∈ lengths, length ≤ 2 ^ 63) → ¬ Overreaches lengths 0 0 pieces) ∧
      (∀ overflow result, Divider.Ends overflow lengths bytes ⟨[], 0, 0⟩ result ↔
        result = cuts? lengths bytes) ∧
      ∀ length < 2 ^ 64, cuts? [length] bytes = some (chunks length bytes) := by
  have all : 0 + bytes.length ≤ longestBuffer := by rwa [Nat.zero_add]
  obtain ⟨pieces, divides, outcome⟩ := cutsFrom_divided all
  have decided : (cuts? lengths bytes = some pieces ↔ ¬ Overreaches lengths 0 0 pieces) ∧
      (cuts? lengths bytes = none ↔ Overreaches lengths 0 0 pieces) := by
    rcases outcome with ⟨made, fits⟩ | ⟨stuck, high⟩
    · have answered : cuts? lengths bytes ≠ none := by
        intro stuck
        cases made.symm.trans stuck
      exact ⟨iff_of_true made fits, iff_of_false answered fits⟩
    · have refused : cuts? lengths bytes ≠ some pieces := by
        intro made
        cases stuck.symm.trans made
      exact ⟨iff_of_false refused (not_not_intro high), iff_of_true stuck high⟩
  refine ⟨pieces, divides, ?_, given_feed pieces, decided.1, decided.2, divides.fits all,
    Divider.run_exact words room, ?_⟩
  · intro others other
    exact other.unique divides
  · intro length word
    exact cutsFrom_chunks 0 all (by omega)

-- A piece for a length of zero, and a last one that asks for all words there are.
theorem cuts_replay_zero :
    let lengths := [3, 0, 2 ^ 64 - 5]
    let bytes : Bytes := [1, 2, 3, 4, 5, 6]
    (∀ length ∈ lengths, length < 2 ^ 64) ∧ bytes.length ≤ longestBuffer ∧
      cuts? lengths bytes = some [[1, 2, 3], [4], [5, 6]] ∧
      cuts? [4] bytes = some (chunks 4 bytes) := by
  intro lengths bytes
  have words : ∀ length ∈ lengths, length < 2 ^ 64 := by decide
  have room : bytes.length ≤ longestBuffer := by decide
  obtain ⟨pieces, -, unique, -, made, -, -, -, alike⟩ := cuts_replay words room
  have divides : Divides lengths 0 bytes [[1, 2, 3], [4], [5, 6]] :=
    .cons (by decide) (.cons (by decide) (.last (by decide) (by decide)))
  refine ⟨words, room, ?_, alike 4 (by decide)⟩
  cases unique _ divides
  rw [made, overreaches_cons (List.cons_ne_nil _ _), overreaches_cons (List.cons_ne_nil _ _),
    overreaches_last (List.cons_ne_nil _ _) (by decide)]
  decide

-- The second piece asks for all words behind the first byte. Neither a sum that stops nor one that
-- keeps its low bits leaves a piece to cut.
theorem cuts_replay_high :
    let lengths := [1, 2 ^ 64 - 1]
    let bytes : Bytes := [7, 8]
    (∀ length ∈ lengths, length < 2 ^ 64) ∧ Divides lengths 0 bytes [[7], [8]] ∧
      cuts? lengths bytes = none ∧
      (∀ overflow, Divider.Ends overflow lengths bytes ⟨[], 0, 0⟩ none) := by
  intro lengths bytes
  have words : ∀ length ∈ lengths, length < 2 ^ 64 := by decide
  have divides : Divides lengths 0 bytes [[7], [8]] :=
    .cons (by decide) (.last (by decide) (by decide))
  have stuck : cutsFrom lengths 1 1 [8] = none := cutsFrom_high (by decide) (by decide)
  have none : cuts? lengths bytes = none := by
    rw [cuts?, cutsFrom_cons (by decide) (by decide)]
    exact congrArg (Option.map _) stuck
  refine ⟨words, divides, none, ?_⟩
  intro overflow
  exact (Divider.run_exact words (by decide) overflow _).mpr none.symm

end PageStream
