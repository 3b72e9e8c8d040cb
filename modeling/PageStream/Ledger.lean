namespace PageStream

structure Ledger (β : Type) where
  entries : List (Nat × β)
  ascending : entries.Pairwise (·.1 < ·.1)

namespace Ledger

variable {β : Type}

def empty : Ledger β := ⟨[], .nil⟩

def putIn (key : Nat) (value : β) : List (Nat × β) → List (Nat × β)
  | [] => [(key, value)]
  | (k, v) :: rest =>
    if key < k then (key, value) :: (k, v) :: rest
    else if key = k then (key, value) :: rest
    else (k, v) :: putIn key value rest

def getIn? (key : Nat) : List (Nat × β) → Option β
  | [] => none
  | (k, v) :: rest => if k = key then some v else getIn? key rest

theorem mem_putIn {key : Nat} {value : β} {entry : Nat × β} :
    ∀ {entries}, entry ∈ putIn key value entries → entry = (key, value) ∨ entry ∈ entries
  | [], h => .inl (by simpa [putIn] using h)
  | (k, v) :: rest, h => by
    simp only [putIn] at h
    split at h
    · exact (List.mem_cons.mp h).imp_right id
    · split at h
      · exact (List.mem_cons.mp h).imp_right (List.mem_cons_of_mem _)
      · rcases List.mem_cons.mp h with same | later
        · exact .inr (same ▸ List.mem_cons_self)
        · exact (mem_putIn later).imp_right (List.mem_cons_of_mem _)

theorem putIn_ascending (key : Nat) (value : β) :
    ∀ {entries : List (Nat × β)}, entries.Pairwise (·.1 < ·.1) →
      (putIn key value entries).Pairwise (·.1 < ·.1)
  | [], _ => by simp [putIn]
  | (k, v) :: rest, h => by
    have ⟨above, tail⟩ := List.pairwise_cons.mp h
    simp only [putIn]
    split
    · rename_i below
      refine List.pairwise_cons.mpr ⟨?_, h⟩
      intro entry member
      rcases List.mem_cons.mp member with rfl | later
      · exact below
      · exact Nat.lt_trans below (above entry later)
    · split
      · rename_i same
        subst same
        exact List.pairwise_cons.mpr ⟨above, tail⟩
      · refine List.pairwise_cons.mpr ⟨?_, putIn_ascending key value tail⟩
        intro entry member
        rcases mem_putIn member with rfl | old
        · show k < key
          omega
        · exact above entry old

def put (ledger : Ledger β) (key : Nat) (value : β) : Ledger β :=
  ⟨putIn key value ledger.entries, putIn_ascending key value ledger.ascending⟩

def get? (ledger : Ledger β) (key : Nat) : Option β := getIn? key ledger.entries

def size (ledger : Ledger β) : Nat := ledger.entries.length

def gapAt (expected count : Nat) : Option Nat := if expected < count then some expected else none

-- The least number from `expected` up that is below `count` and missing, `expected` being at most
-- every number listed.
def gapFrom (expected count : Nat) : List (Nat × β) → Option Nat
  | [] => gapAt expected count
  | (k, _) :: rest =>
    if count ≤ k then gapAt expected count
    else if k = expected then gapFrom (expected + 1) count rest
    else some expected

def firstMissing (ledger : Ledger β) (count : Nat) : Option Nat := gapFrom 0 count ledger.entries

def firstAtOrBeyond (ledger : Ledger β) (count : Nat) : Option Nat :=
  (ledger.entries.find? (count ≤ ·.1)).map (·.1)

theorem ext {a b : Ledger β} (same : a.entries = b.entries) : a = b := by
  cases a; cases b; cases same; rfl

end Ledger

end PageStream
