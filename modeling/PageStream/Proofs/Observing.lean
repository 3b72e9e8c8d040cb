import PageStream.Index
import PageStream.Proofs.Ledgers

namespace PageStream.Index

def observeAll (index : Index) : List (Nat × Nat) → List Observation × Index
  | [] => ([], index)
  | (page, iteration) :: rest =>
    let (observation, index) := index.observe page iteration
    let (observations, index) := index.observeAll rest
    (observation :: observations, index)

def iterationsOf (calls : List (Nat × Nat)) (page : Nat) : List Nat :=
  (calls.filter (·.1 = page)).map (·.2)

theorem iterationsOf_cons (call : Nat × Nat) (rest : List (Nat × Nat)) (page : Nat) :
    iterationsOf (call :: rest) page =
      if call.1 = page then call.2 :: iterationsOf rest page else iterationsOf rest page := by
  by_cases here : call.1 = page
  · rw [if_pos here, iterationsOf, List.filter_cons_of_pos (by simp [here]), List.map_cons]
    rfl
  · rw [if_neg here, iterationsOf, List.filter_cons_of_neg (by simp [here])]
    rfl

theorem mem_iterationsOf {calls : List (Nat × Nat)} {page iteration : Nat} :
    iteration ∈ iterationsOf calls page ↔ (page, iteration) ∈ calls := by
  simp [iterationsOf]

theorem isDuplicate_classify (previous : Option Nat) (iteration : Nat) :
    (classify previous iteration).isDuplicate = previous.isSome := by
  cases previous with
  | none => rfl
  | some previous =>
    simp only [classify]
    split
    · rfl
    · split <;> rfl

theorem isDuplicate_iff {observation : Observation} :
    observation.isDuplicate = true ↔ observation ≠ .first := by
  cases observation <;> simp [Observation.isDuplicate]

variable (index : Index)

theorem observe_exact (page iteration : Nat) : index.observe page iteration =
    (classify (index.pages.get? page) iteration, { index with
      pages := index.pages.put page iteration
      perIteration := index.perIteration.put iteration
        ((index.perIteration.get? iteration).getD 0 + 1)
      records := index.records + 1
      duplicates := index.duplicates + (index.contains page).toNat }) := by
  rw [contains, ← isDuplicate_classify _ iteration]
  rfl

theorem observeAll_cons (page iteration : Nat) (rest : List (Nat × Nat)) :
    index.observeAll ((page, iteration) :: rest) =
      ((index.observe page iteration).1 :: ((index.observe page iteration).2.observeAll rest).1,
        ((index.observe page iteration).2.observeAll rest).2) := rfl

variable (calls : List (Nat × Nat))

theorem observeAll_pages (page : Nat) :
    (index.observeAll calls).2.pages.get? page =
      (iterationsOf calls page).getLast?.or (index.pages.get? page) := by
  induction calls generalizing index with
  | nil => rfl
  | cons call rest ih =>
    rw [observeAll_cons, ih, observe_exact, iterationsOf_cons]
    simp only [Ledger.get?_put]
    by_cases here : call.1 = page
    · rw [if_pos here.symm, if_pos here, List.getLast?_cons]
      cases (iterationsOf rest page).getLast? <;> rfl
    · rw [if_neg (Ne.symm here), if_neg here]

theorem observeAll_perIteration (iteration : Nat) :
    (index.observeAll calls).2.perIteration.get? iteration =
      match calls.countP (·.2 = iteration) with
      | 0 => index.perIteration.get? iteration
      | more => some ((index.perIteration.get? iteration).getD 0 + more) := by
  induction calls generalizing index with
  | nil => rfl
  | cons call rest ih =>
    rw [observeAll_cons, ih, observe_exact]
    simp only [Ledger.get?_put]
    by_cases here : call.2 = iteration
    · subst here
      rw [if_pos rfl, List.countP_cons_of_pos (by simp)]
      split
      · rename_i none
        simp [none]
      · rename_i more some
        simp only [Option.getD_some, Option.some.injEq]
        omega
    · rw [if_neg (Ne.symm here), List.countP_cons_of_neg (by simp [here])]

theorem observeAll_records :
    (index.observeAll calls).2.records = index.records + calls.length := by
  induction calls generalizing index with
  | nil => rfl
  | cons call rest ih =>
    rw [observeAll_cons, ih, observe_exact, List.length_cons]
    exact Nat.add_right_comm index.records 1 rest.length

-- Every call is a duplicate or the first for its page.
theorem observeAll_counted :
    (index.observeAll calls).2.duplicates + (index.observeAll calls).2.distinctPages =
      index.duplicates + index.distinctPages + calls.length := by
  induction calls generalizing index with
  | nil => rfl
  | cons call rest ih =>
    have new := index.pages.put_size call.1 call.2
    rw [observeAll_cons, ih, observe_exact, List.length_cons]
    simp only [distinctPages, contains]
    omega

theorem observeAll_total :
    (index.observeAll calls).2.perIteration.total = index.perIteration.total + calls.length := by
  induction calls generalizing index with
  | nil => rfl
  | cons call rest ih =>
    have raised := index.perIteration.put_total call.2
      ((index.perIteration.get? call.2).getD 0 + 1)
    rw [observeAll_cons, ih, observe_exact, List.length_cons]
    simp only
    omega

theorem observeAll_answers :
    (index.observeAll calls).2.duplicates =
      index.duplicates + (index.observeAll calls).1.countP (· ≠ .first) := by
  induction calls generalizing index with
  | nil => rfl
  | cons call rest ih =>
    have known := isDuplicate_classify (index.pages.get? call.1) call.2
    rw [observeAll_cons, ih, observe_exact]
    simp only [List.countP_cons, decide_eq_true_eq, ← isDuplicate_iff, known, contains]
    cases (index.pages.get? call.1).isSome
    · simp
    · simp
      omega

theorem observeAll_length : (index.observeAll calls).1.length = calls.length := by
  induction calls generalizing index with
  | nil => rfl
  | cons call rest ih => exact congrArg (· + 1) (ih (index.observe call.1 call.2).2)

-- From no calls: the pages and the iterations that an index knows are those it was told of.
section Fresh

theorem observeAll_iterationOf (page : Nat) :
    (empty.observeAll calls).2.iterationOf page = (iterationsOf calls page).getLast? :=
  (empty.observeAll_pages calls page).trans Option.or_none

theorem observeAll_contains {page : Nat} :
    (empty.observeAll calls).2.contains page = true ↔ ∃ call ∈ calls, call.1 = page := by
  change ((empty.observeAll calls).2.iterationOf page).isSome = true ↔ _
  rw [observeAll_iterationOf, Option.isSome_iff_ne_none, ne_eq, List.getLast?_eq_none_iff]
  constructor
  · intro some
    obtain ⟨iteration, member⟩ := List.exists_mem_of_ne_nil _ some
    exact ⟨(page, iteration), mem_iterationsOf.mp member, rfl⟩
  · intro told
    obtain ⟨call, member, rfl⟩ := told
    exact List.ne_nil_of_mem (mem_iterationsOf.mpr member)

theorem observeAll_lists {iteration : Nat} :
    (empty.observeAll calls).2.perIteration.Lists iteration ↔
      ∃ call ∈ calls, call.2 = iteration := by
  have there : (∃ call ∈ calls, call.2 = iteration) ↔ 0 < calls.countP (·.2 = iteration) := by
    simp only [List.countP_pos_iff, decide_eq_true_eq]
  rw [Ledger.lists_iff, observeAll_perIteration, there]
  cases calls.countP (·.2 = iteration) with
  | zero => exact iff_of_false Bool.false_ne_true (Nat.lt_irrefl 0)
  | succ more => exact iff_of_true rfl (Nat.succ_pos more)

theorem observeAll_count {iteration count : Nat}
    (listed : (empty.observeAll calls).2.perIteration.get? iteration = some count) :
    count = calls.countP (·.2 = iteration) := by
  rw [observeAll_perIteration] at listed
  split at listed
  · cases listed
  · rename_i more
    cases listed
    exact Nat.zero_add _

end Fresh

-- Every call is counted once in each account: among the records, for its iteration, and as a new
-- page or a duplicate. A page is listed with the iteration of its last call.
theorem observeAll_balances :
    let answers := (empty.observeAll calls).1
    let index := (empty.observeAll calls).2
    index.records = calls.length ∧ index.records = index.perIteration.total ∧
    index.records = index.distinctPages + index.duplicates ∧
    (∀ iteration, (index.perIteration.Lists iteration ↔ ∃ call ∈ calls, call.2 = iteration) ∧
      ∀ count, index.perIteration.get? iteration = some count →
        count = calls.countP (·.2 = iteration)) ∧
    (∀ page, (index.contains page = true ↔ ∃ call ∈ calls, call.1 = page) ∧
      index.iterationOf page = ((calls.filter (·.1 = page)).getLast?).map (·.2)) ∧
    answers.length = calls.length ∧ answers.countP (· ≠ .first) = index.duplicates := by
  intro answers index
  have records : index.records = calls.length :=
    (empty.observeAll_records calls).trans (Nat.zero_add _)
  have counted : index.duplicates + index.distinctPages = calls.length :=
    (empty.observeAll_counted calls).trans (Nat.zero_add _)
  have total : index.perIteration.total = calls.length :=
    (empty.observeAll_total calls).trans (Nat.zero_add _)
  have duplicates : index.duplicates = answers.countP (· ≠ .first) :=
    (empty.observeAll_answers calls).trans (Nat.zero_add _)
  refine ⟨records, records.trans total.symm, by omega, ?perIteration, ?pages,
    empty.observeAll_length calls, duplicates.symm⟩
  case perIteration =>
    intro iteration
    refine ⟨observeAll_lists calls, ?_⟩
    intro count listed
    exact observeAll_count calls listed
  case pages =>
    intro page
    refine ⟨observeAll_contains calls, ?_⟩
    exact (observeAll_iterationOf calls page).trans List.getLast?_map

end PageStream.Index
