import Mathlib.Order.Bounds.Basic
import PageStream.Ledger

namespace PageStream.Ledger

variable {β : Type}

def Lists (ledger : Ledger β) (key : Nat) : Prop := ∃ entry ∈ ledger.entries, entry.1 = key

theorem getIn?_putIn (key : Nat) (value : β) (other : Nat) (entries : List (Nat × β)) :
    getIn? other (putIn key value entries) =
      if other = key then some value else getIn? other entries := by
  induction entries with
  | nil => simp only [putIn, getIn?, eq_comm]
  | cons first rest ih =>
    obtain ⟨k, v⟩ := first
    unfold putIn
    split
    · simp only [getIn?, eq_comm]
    · split
      · rename_i same
        subst same
        simp only [getIn?, eq_comm]
        split <;> rfl
      · rename_i apart
        simp only [getIn?, ih]
        by_cases found : k = other
        · subst found
          rw [if_pos rfl, if_pos rfl, if_neg (Ne.symm apart)]
        · rw [if_neg found, if_neg found]

theorem get?_put (ledger : Ledger β) (key : Nat) (value : β) (other : Nat) :
    (ledger.put key value).get? other = if other = key then some value else ledger.get? other :=
  getIn?_putIn key value other ledger.entries

theorem getIn?_isSome {key : Nat} {entries : List (Nat × β)} :
    (getIn? key entries).isSome = true ↔ ∃ entry ∈ entries, entry.1 = key := by
  induction entries with
  | nil => simp [getIn?]
  | cons first rest ih =>
    obtain ⟨k, v⟩ := first
    by_cases found : k = key
    · simp [getIn?, found]
    · simp [getIn?, found, ih]

theorem lists_iff {ledger : Ledger β} {key : Nat} :
    ledger.Lists key ↔ (ledger.get? key).isSome = true := getIn?_isSome.symm

theorem getIn?_some {key : Nat} {value : β} {entries : List (Nat × β)}
    (ascending : entries.Pairwise (·.1 < ·.1)) :
    getIn? key entries = some value ↔ (key, value) ∈ entries := by
  induction entries with
  | nil => simp [getIn?]
  | cons first rest ih =>
    obtain ⟨k, v⟩ := first
    obtain ⟨below, tail⟩ := List.pairwise_cons.mp ascending
    by_cases found : k = key
    · subst found
      have once : (k, value) ∉ rest := fun later => Nat.lt_irrefl k (below _ later)
      simp [getIn?, once, eq_comm]
    · simp [getIn?, found, ih tail, Ne.symm found]

-- Ledgers that answer alike are equal.
theorem ext_get? {one two : Ledger β} (same : ∀ key, one.get? key = two.get? key) : one = two := by
  have distinct (ledger : Ledger β) : ledger.entries.Nodup := by
    apply ledger.ascending.imp
    rintro first _ below rfl
    exact Nat.lt_irrefl first.1 below
  have perm : one.entries.Perm two.entries := by
    rw [List.perm_ext_iff_of_nodup (distinct one) (distinct two)]
    rintro ⟨key, value⟩
    rw [← getIn?_some one.ascending, ← getIn?_some two.ascending]
    exact iff_of_eq (congrArg (· = some value) (same key))
  apply ext
  apply perm.eq_of_pairwise _ one.ascending two.ascending
  intro first second _ _ below above
  omega

theorem getIn?_below {key : Nat} {entries : List (Nat × β)}
    (below : ∀ entry ∈ entries, key < entry.1) : getIn? key entries = none := by
  rw [← Option.not_isSome_iff_eq_none, getIn?_isSome]
  rintro ⟨entry, member, rfl⟩
  exact Nat.lt_irrefl _ (below entry member)

theorem below_all {key k : Nat} {v : β} {rest : List (Nat × β)} (before : key < k)
    (below : ∀ entry ∈ rest, k < entry.1) : ∀ entry ∈ (k, v) :: rest, key < entry.1 := by
  intro entry member
  cases member with
  | head => exact before
  | tail _ later => exact Nat.lt_trans before (below entry later)

theorem putIn_length {key : Nat} (value : β) {entries : List (Nat × β)}
    (ascending : entries.Pairwise (·.1 < ·.1)) :
    (putIn key value entries).length + (getIn? key entries).isSome.toNat = entries.length + 1 := by
  induction entries with
  | nil => rfl
  | cons first rest ih =>
    obtain ⟨k, v⟩ := first
    obtain ⟨below, tail⟩ := List.pairwise_cons.mp ascending
    unfold putIn
    split
    · rename_i before
      rw [getIn?_below (below_all before below)]
      rfl
    · split
      · rename_i same
        subst same
        simp [getIn?]
      · rename_i other
        have next := ih tail
        simp only [getIn?, Ne.symm other, if_false, List.length_cons]
        omega

theorem put_size (ledger : Ledger β) (key : Nat) (value : β) :
    (ledger.put key value).size + (ledger.get? key).isSome.toNat = ledger.size + 1 :=
  putIn_length value ledger.ascending

def total (ledger : Ledger Nat) : Nat := ledger.entries.foldr (fun entry sum => entry.2 + sum) 0

theorem putIn_total {key : Nat} (value : Nat) {entries : List (Nat × Nat)}
    (ascending : entries.Pairwise (·.1 < ·.1)) :
    (putIn key value entries).foldr (fun entry sum => entry.2 + sum) 0 +
      (getIn? key entries).getD 0 = entries.foldr (fun entry sum => entry.2 + sum) 0 + value := by
  induction entries with
  | nil => exact Nat.add_comm value 0
  | cons first rest ih =>
    obtain ⟨k, v⟩ := first
    obtain ⟨below, tail⟩ := List.pairwise_cons.mp ascending
    unfold putIn
    split
    · rename_i before
      rw [getIn?_below (below_all before below)]
      exact Nat.add_comm value _
    · split
      · rename_i same
        subst same
        simp only [getIn?, if_true, Option.getD_some, List.foldr_cons]
        omega
      · rename_i other
        have next := ih tail
        simp only [getIn?, Ne.symm other, if_false, List.foldr_cons]
        omega

theorem put_total (ledger : Ledger Nat) (key value : Nat) :
    (ledger.put key value).total + (ledger.get? key).getD 0 = ledger.total + value :=
  putIn_total value ledger.ascending

-- The least of some numbers; none if there are no such numbers.
def Finds (numbers : Set Nat) : Option Nat → Prop
  | some least => IsLeast numbers least
  | none => ∀ key, key ∉ numbers

theorem Finds.some_iff {numbers : Set Nat} {found : Option Nat} (finds : Finds numbers found)
    {least : Nat} : found = some least ↔ IsLeast numbers least := by
  cases found with
  | none => exact ⟨nofun, fun other => absurd other.1 (finds least)⟩
  | some key =>
    rw [Option.some.injEq]
    exact ⟨fun same => same ▸ finds, fun other => IsLeast.unique finds other⟩

theorem Finds.none_iff {numbers : Set Nat} {found : Option Nat} (finds : Finds numbers found) :
    found = none ↔ ∀ key, key ∉ numbers := by
  cases found with
  | none => exact ⟨fun _ => finds, fun _ => rfl⟩
  | some key => exact ⟨nofun, fun nowhere => absurd finds.1 (nowhere key)⟩

-- The numbers from `expected` up and below `count` that have no entry.
def gaps (expected count : Nat) (entries : List (Nat × β)) : Set Nat :=
  {key | expected ≤ key ∧ key < count ∧ ∀ entry ∈ entries, entry.1 ≠ key}

theorem finds_end {expected count : Nat} {entries : List (Nat × β)}
    (beyond : ∀ entry ∈ entries, count ≤ entry.1) :
    Finds (gaps expected count entries) (gapAt expected count) := by
  by_cases room : expected < count
  · rw [gapAt, if_pos room]
    refine ⟨⟨Nat.le_refl _, room, fun entry member same => ?_⟩, fun key later => later.1⟩
    have := beyond entry member
    omega
  · rw [gapAt, if_neg room]
    rintro key ⟨start, below, -⟩
    omega

theorem gaps_next (expected count : Nat) (value : β) (rest : List (Nat × β)) :
    gaps expected count ((expected, value) :: rest) = gaps (expected + 1) count rest := by
  ext key
  simp only [gaps, Set.mem_ofPred_eq, List.forall_mem_cons]
  constructor
  · rintro ⟨start, below, other, missing⟩
    exact ⟨by omega, below, missing⟩
  · rintro ⟨start, below, missing⟩
    exact ⟨by omega, below, by omega, missing⟩

-- The list is in ascending order, and starts at `expected` or above it.
theorem gapFrom_finds {expected count : Nat} {entries : List (Nat × β)}
    (ascending : entries.Pairwise (·.1 < ·.1)) (above : ∀ entry ∈ entries, expected ≤ entry.1) :
    Finds (gaps expected count entries) (gapFrom expected count entries) := by
  induction entries generalizing expected with
  | nil => exact finds_end nofun
  | cons first rest ih =>
    obtain ⟨k, v⟩ := first
    obtain ⟨below, tail⟩ := List.pairwise_cons.mp ascending
    have start : expected ≤ k := above (k, v) List.mem_cons_self
    have behind : ∀ entry ∈ (k, v) :: rest, k ≤ entry.1 := by
      intro entry member
      rcases List.mem_cons.mp member with rfl | later
      · exact Nat.le_refl k
      · exact Nat.le_of_lt (below entry later)
    unfold gapFrom
    by_cases past : count ≤ k
    · rw [if_pos past]
      exact finds_end fun entry member => Nat.le_trans past (behind entry member)
    · rw [if_neg past]
      by_cases found : k = expected
      · subst found
        rw [if_pos rfl, gaps_next]
        exact ih tail fun entry member => below entry member
      · rw [if_neg found]
        refine ⟨⟨Nat.le_refl _, by omega, fun entry member same => ?_⟩, fun key later => later.1⟩
        have := behind entry member
        omega

theorem firstMissing_finds (ledger : Ledger β) (count : Nat) :
    Finds {key | key < count ∧ ¬ ledger.Lists key} (ledger.firstMissing count) := by
  have same : {key | key < count ∧ ¬ ledger.Lists key} = gaps 0 count ledger.entries := by
    ext key
    simp only [gaps, Lists, Set.mem_ofPred_eq, Nat.zero_le, true_and, not_exists, not_and, ne_eq]
  rw [same]
  exact gapFrom_finds ledger.ascending fun entry _ => Nat.zero_le entry.1

theorem firstAtOrBeyond_finds (ledger : Ledger β) (count : Nat) :
    Finds {key | count ≤ key ∧ ledger.Lists key} (ledger.firstAtOrBeyond count) := by
  obtain ⟨entries, ascending⟩ := ledger
  simp only [firstAtOrBeyond, Lists]
  induction entries with
  | nil =>
    rintro key ⟨-, entry, impossible, -⟩
    cases impossible
  | cons first rest ih =>
    obtain ⟨k, v⟩ := first
    obtain ⟨below, tail⟩ := List.pairwise_cons.mp ascending
    by_cases found : count ≤ k
    · rw [List.find?_cons_of_pos (by simpa using found)]
      refine ⟨⟨found, (k, v), List.mem_cons_self, rfl⟩, ?_⟩
      rintro key ⟨-, entry, member, rfl⟩
      rcases List.mem_cons.mp member with rfl | later
      · exact Nat.le_refl k
      · exact Nat.le_of_lt (below entry later)
    · rw [List.find?_cons_of_neg (by simpa using found)]
      have same : {key | count ≤ key ∧ ∃ entry ∈ (k, v) :: rest, entry.1 = key} =
          {key | count ≤ key ∧ ∃ entry ∈ rest, entry.1 = key} := by
        ext key
        simp only [Set.mem_ofPred_eq, List.mem_cons, exists_eq_or_imp]
        refine and_congr_right fun beyond => or_iff_right fun low => ?_
        omega
      rw [same]
      exact ih tail

end PageStream.Ledger
