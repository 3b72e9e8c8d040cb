import PageStream.Proofs.Applying
import PageStream.Proofs.Observing

namespace PageStream

-- What is noted when an iteration writes a page that another, or none, wrote before.
def Policy.noted (policy : Policy) (page : Nat) (previous : Option Nat) (iteration : Nat) :
    List Anomaly :=
  (policy.objection iteration (Index.classify previous iteration)).toList.map
    fun (before, kind) => ⟨page, iteration, before, kind⟩

namespace Index

theorem enter_exact (policy : Policy) (index : Index) (header : PageHeader) :
    index.enter policy header =
      { pages := index.pages.put header.page header.iteration
        perIteration := index.perIteration.put header.iteration
          ((index.perIteration.get? header.iteration).getD 0 + 1)
        records := index.records + 1
        duplicates := index.duplicates + (index.contains header.page).toNat
        anomalies := index.anomalies ++
          policy.noted header.page (index.pages.get? header.page) header.iteration } := by
  simp only [enter, observe_exact, judge, Policy.noted]
  cases policy.objection header.iteration
      (classify (index.pages.get? header.page) header.iteration) with
  | none => simp
  | some objection => rfl

theorem enterAll_cons (policy : Policy) (index : Index) (record : Record) (rest : List Record) :
    index.enterAll policy (record :: rest) =
      (index.enter policy record.header).enterAll policy rest := rfl

theorem enter_duplicates (policy : Policy) (index : Index) (header : PageHeader) :
    (index.enter policy header).duplicates =
      index.duplicates + (index.contains header.page).toNat := by rw [enter_exact]

theorem contains_enter (policy : Policy) (index : Index) (header : PageHeader) (page : Nat) :
    (index.enter policy header).contains page = true ↔
      header.page = page ∨ index.contains page = true := by
  rw [contains, enter_exact, Ledger.get?_put]
  by_cases same : header.page = page
  · subst same
    simp only [if_true, Option.isSome_some, true_or]
  · rw [if_neg (Ne.symm same), contains]
    simp only [same, false_or]

theorem contains_enterAll (policy : Policy) (index : Index) (records : List Record) (page : Nat) :
    (index.enterAll policy records).contains page = true ↔
      page ∈ records.map (·.header.page) ∨ index.contains page = true := by
  induction records generalizing index with
  | nil => simp [enterAll]
  | cons record rest ih =>
    rw [enterAll_cons, ih, contains_enter, List.map_cons, List.mem_cons,
      @eq_comm _ record.header.page, or_left_comm, or_assoc]

theorem duplicates_le (policy : Policy) (index : Index) (records : List Record) :
    index.duplicates ≤ (index.enterAll policy records).duplicates := by
  induction records generalizing index with
  | nil => exact Nat.le_refl _
  | cons record rest ih =>
    have step := enter_duplicates policy index record.header
    exact Nat.le_trans (by omega) (ih (index.enter policy record.header))

-- No duplicate is counted just if the pages are new and different.
theorem duplicates_same (policy : Policy) (index : Index) (records : List Record) :
    (index.enterAll policy records).duplicates = index.duplicates ↔
      (∀ page ∈ records.map (·.header.page), index.contains page = false) ∧
        (records.map (·.header.page)).Nodup := by
  induction records generalizing index with
  | nil => simp [enterAll]
  | cons record rest ih =>
    have step := enter_duplicates policy index record.header
    have more := duplicates_le policy (index.enter policy record.header) rest
    have next := ih (index.enter policy record.header)
    rw [enterAll_cons, List.map_cons, List.nodup_cons, List.forall_mem_cons]
    cases known : index.contains record.header.page with
    | true =>
      rw [known] at step
      simp only [Bool.toNat_true] at step
      simp only [Bool.true_eq_false, false_and, iff_false]
      omega
    | false =>
      rw [known] at step
      simp only [Bool.toNat_false, Nat.add_zero] at step
      rw [step] at next
      rw [next]
      have new : ∀ page, (index.enter policy record.header).contains page = false ↔
          record.header.page ≠ page ∧ index.contains page = false := by
        intro page
        rw [← Bool.not_eq_true, contains_enter, not_or, Bool.not_eq_true]
      simp only [new]
      constructor
      · rintro ⟨fresh, distinct⟩
        exact ⟨⟨trivial, fun page member => (fresh page member).2⟩,
          fun member => (fresh _ member).1 rfl, distinct⟩
      · rintro ⟨⟨-, fresh⟩, other, distinct⟩
        exact ⟨fun page member => ⟨fun same => other (same ▸ member), fresh page member⟩, distinct⟩

theorem empty_contains (page : Nat) : empty.contains page = false := rfl

end Index

end PageStream
