import PageStream.Proofs.Indexing

namespace PageStream

def Record.generations (records : List Record) (page : Nat) : List Nat :=
  (records.filter (·.header.page = page)).map (·.header.iteration)

def Record.visit (record : Record) : Nat × Nat := (record.header.page, record.header.iteration)

namespace Policy

-- What is noted of a page that some iterations write one after another.
def notes (policy : Policy) (page : Nat) : Option Nat → List Nat → List Anomaly
  | _, [] => []
  | previous, iteration :: rest =>
    policy.noted page previous iteration ++ policy.notes page (some iteration) rest

theorem noted_page {policy : Policy} {page iteration : Nat} {previous : Option Nat}
    {anomaly : Anomaly} (noted : anomaly ∈ policy.noted page previous iteration) :
    anomaly.page = page := by
  obtain ⟨objection, -, rfl⟩ := List.mem_map.mp noted
  rfl

theorem noted_filter (policy : Policy) (page : Nat) (previous : Option Nat) (iteration other : Nat) :
    (policy.noted page previous iteration).filter (·.page = other) =
      if page = other then policy.noted page previous iteration else [] := by
  by_cases same : page = other
  · rw [if_pos same, List.filter_eq_self]
    intro anomaly noted
    simp [noted_page noted, same]
  · rw [if_neg same, List.filter_eq_nil_iff]
    intro anomaly noted
    simp [noted_page noted, same]

end Policy

namespace Record

theorem iterationsOf_visits (records : List Record) (page : Nat) :
    Index.iterationsOf (records.map visit) page = generations records page := by
  rw [Index.iterationsOf, List.filter_map, List.map_map]
  rfl

theorem generations_cons (record : Record) (rest : List Record) (page : Nat) :
    generations (record :: rest) page =
      if record.header.page = page then record.header.iteration :: generations rest page
      else generations rest page := by
  rw [← iterationsOf_visits, List.map_cons, Index.iterationsOf_cons, iterationsOf_visits]
  rfl

theorem mem_generations {records : List Record} {page iteration : Nat} :
    iteration ∈ generations records page ↔
      ∃ record ∈ records, record.header.page = page ∧ record.header.iteration = iteration := by
  simp [generations, and_assoc]

end Record

namespace Index

variable (policy : Policy) (index : Index) (records : List Record)

-- Records that are entered are observed; what is noted makes no difference to that.
theorem enterAll_observed (anomalies : List Anomaly) :
    ({ index with anomalies }.observeAll (records.map Record.visit)).2 =
      { index.enterAll policy records with anomalies } := by
  induction records generalizing index with
  | nil => rfl
  | cons record rest ih =>
    rw [enterAll_cons, ← ih (index.enter policy record.header), List.map_cons, Record.visit,
      observeAll_cons, observe_exact, enter_exact]
    rfl

theorem enterAll_pages (page : Nat) :
    (index.enterAll policy records).pages.get? page =
      (Record.generations records page).getLast?.or (index.pages.get? page) := by
  have observed := index.observeAll_pages (records.map Record.visit) page
  rwa [index.enterAll_observed policy records index.anomalies, Record.iterationsOf_visits]
    at observed

theorem enterAll_perIteration (iteration : Nat) :
    (index.enterAll policy records).perIteration.get? iteration =
      match records.countP (·.header.iteration = iteration) with
      | 0 => index.perIteration.get? iteration
      | more => some ((index.perIteration.get? iteration).getD 0 + more) := by
  have observed := index.observeAll_perIteration (records.map Record.visit) iteration
  rwa [index.enterAll_observed policy records index.anomalies, List.countP_map] at observed

theorem enterAll_records :
    (index.enterAll policy records).records = index.records + records.length := by
  have observed := index.observeAll_records (records.map Record.visit)
  rwa [index.enterAll_observed policy records index.anomalies, List.length_map] at observed

theorem enterAll_counted :
    (index.enterAll policy records).duplicates + (index.enterAll policy records).distinctPages =
      index.duplicates + index.distinctPages + records.length := by
  have observed := index.observeAll_counted (records.map Record.visit)
  rwa [index.enterAll_observed policy records index.anomalies, List.length_map] at observed

theorem enterAll_anomalies (page : Nat) :
    (index.enterAll policy records).anomalies.filter (·.page = page) =
      index.anomalies.filter (·.page = page) ++
        policy.notes page (index.pages.get? page) (Record.generations records page) := by
  induction records generalizing index with
  | nil => exact (List.append_nil _).symm
  | cons record rest ih =>
    rw [enterAll_cons, ih, enter_exact, List.filter_append, Policy.noted_filter, Ledger.get?_put,
      Record.generations_cons, List.append_assoc]
    by_cases here : record.header.page = page
    · subst here
      rw [if_pos rfl, if_pos rfl, if_pos rfl, Policy.notes]
    · rw [if_neg here, if_neg here, if_neg (Ne.symm here), List.nil_append]

end Index

end PageStream
