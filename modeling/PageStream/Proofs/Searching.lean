import PageStream.Proofs.Observing

namespace PageStream

namespace Ledger

variable {β : Type}

-- The search for a gap, and with it all values that the expected number takes.
def gapTrace (expected count : Nat) : List (Nat × β) → List Nat × Option Nat
  | [] => ([expected], gapAt expected count)
  | (k, _) :: rest =>
    if count ≤ k then ([expected], gapAt expected count)
    else if k = expected then
      let (later, gap) := gapTrace (expected + 1) count rest
      (expected :: later, gap)
    else ([expected], some expected)

theorem gapTrace_gap (expected count : Nat) (entries : List (Nat × β)) :
    (gapTrace expected count entries).2 = gapFrom expected count entries := by
  induction entries generalizing expected with
  | nil => rfl
  | cons first rest ih =>
    unfold gapTrace gapFrom
    split
    · rfl
    · split
      · exact ih (expected + 1)
      · rfl

-- What holds of the expected number while a search goes on that began with another one.
structure Passed (start count : Nat) (entries : List (Nat × β)) (expected : Nat) : Prop where
  within : expected ≤ count
  listed : ∀ key, start ≤ key → key < expected → ∃ entry ∈ entries, entry.1 = key

theorem Passed.begin {start count : Nat} (within : start ≤ count) (entries : List (Nat × β)) :
    Passed start count entries start := by
  refine ⟨within, ?_⟩
  intro key above below
  omega

theorem Passed.next {start count expected : Nat} {rest : List (Nat × β)} (value : β)
    (later : Passed (start + 1) count rest expected) :
    Passed start count ((start, value) :: rest) expected := by
  refine ⟨later.within, ?_⟩
  intro key above below
  by_cases here : key = start
  · exact ⟨(start, value), List.mem_cons_self, here.symm⟩
  · obtain ⟨entry, member, same⟩ := later.listed key (by omega) below
    exact ⟨entry, List.mem_cons_of_mem _ member, same⟩

theorem gapTrace_passed {start count : Nat} (within : start ≤ count) (entries : List (Nat × β)) :
    ∀ expected ∈ (gapTrace start count entries).1, Passed start count entries expected := by
  induction entries generalizing start with
  | nil =>
    intro expected member
    obtain rfl := List.mem_singleton.mp member
    exact Passed.begin within []
  | cons first rest ih =>
    intro expected member
    unfold gapTrace at member
    split at member
    · obtain rfl := List.mem_singleton.mp member
      exact Passed.begin within _
    · rename_i below
      split at member
      · rename_i found
        obtain ⟨k, value⟩ := first
        change k = start at found
        subst found
        rcases List.mem_cons.mp member with rfl | later
        · exact Passed.begin within _
        · exact (ih (by omega) expected later).next value
      · obtain rfl := List.mem_singleton.mp member
        exact Passed.begin within _

end Ledger

namespace Index

-- The numbers are those of the pages that were observed, whichever iterations wrote them.
theorem observeAll_searches (calls : List (Nat × Nat)) (count : Nat) :
    let index := (empty.observeAll calls).2
    let observed (page : Nat) : Prop := ∃ call ∈ calls, call.1 = page
    let scan := Ledger.gapTrace 0 count index.pages.entries
    (∀ page, index.firstMissing count = some page ↔
      IsLeast {page | page < count ∧ ¬ observed page} page) ∧
    (index.firstMissing count = none ↔ ∀ page < count, observed page) ∧
    (∀ page, index.firstAtOrBeyond count = some page ↔
      IsLeast {page | count ≤ page ∧ observed page} page) ∧
    (index.firstAtOrBeyond count = none ↔ ∀ page, observed page → page < count) ∧
    scan.2 = index.firstMissing count ∧
    ∀ expected ∈ scan.1, expected ≤ count ∧ ∀ page < expected, observed page := by
  intro index observed scan
  have known (page : Nat) : index.pages.Lists page ↔ observed page := by
    apply Ledger.lists_iff.trans
    exact observeAll_contains calls
  have missing := index.pages.firstMissing_finds count
  have beyond := index.pages.firstAtOrBeyond_finds count
  simp only [known] at missing beyond
  refine ⟨fun page => missing.some_iff, ?complete, fun page => beyond.some_iff, ?inside, ?same,
    ?expected⟩
  case complete =>
    apply missing.none_iff.trans
    simp only [Set.mem_ofPred_eq, not_and, not_not]
  case inside =>
    apply beyond.none_iff.trans
    simp only [Set.mem_ofPred_eq, not_and', Nat.not_le]
  case same =>
    exact Ledger.gapTrace_gap 0 count index.pages.entries
  case expected =>
    intro expected member
    have passed := Ledger.gapTrace_passed (Nat.zero_le count) index.pages.entries expected member
    refine ⟨passed.within, ?_⟩
    intro page below
    exact (known page).mp (passed.listed page (Nat.zero_le page) below)

-- A gap behind the first two pages, and a page that is far beyond the count.
example :
    let index := (empty.observeAll [(3, 0), (0, 5), (1, 0), (0, 2), (2 ^ 64 - 1, 0)]).2
    index.firstMissing 5 = some 2 ∧ index.firstMissing 2 = none ∧
      index.firstAtOrBeyond 4 = some (2 ^ 64 - 1) := by decide

end Index

end PageStream
