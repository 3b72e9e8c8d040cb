import PageStream.Ledger

namespace PageStream

inductive Observation where
  | first
  -- Written again by a later iteration than the one that wrote it last.
  | overwrite (previous : Nat)
  | sameIteration
  -- Written again by an earlier iteration.
  | regression (previous : Nat)
  deriving DecidableEq

def Observation.isDuplicate : Observation → Bool
  | .first => false
  | _ => true

-- How a second write of a page is judged: iterations may replace each other's pages, or nothing may
-- be written twice.
inductive Policy where
  | generationAware
  | strict
  deriving DecidableEq

def Policy.label : Policy → String
  | .generationAware => "GenerationAware"
  | .strict => "Strict"

inductive AnomalyKind where
  | sameGenerationDuplicate
  | generationRegression
  | duplicate
  deriving DecidableEq

def AnomalyKind.label : AnomalyKind → String
  | .sameGenerationDuplicate => "SameGenerationDuplicate"
  | .generationRegression => "GenerationRegression"
  | .duplicate => "Duplicate"

def AnomalyKind.key : AnomalyKind → String
  | .sameGenerationDuplicate => "same_generation_duplicate"
  | .generationRegression => "generation_regression"
  | .duplicate => "duplicate"

structure Anomaly where
  page : Nat
  iteration : Nat
  previous : Nat
  kind : AnomalyKind
  deriving DecidableEq

def Policy.objection (policy : Policy) (iteration : Nat) :
    Observation → Option (Nat × AnomalyKind)
  | .first => none
  | .overwrite previous =>
    match policy with
    | .strict => some (previous, .duplicate)
    | .generationAware => none
  | .sameIteration =>
    match policy with
    | .strict => some (iteration, .duplicate)
    | .generationAware => some (iteration, .sameGenerationDuplicate)
  | .regression previous =>
    match policy with
    | .strict => some (previous, .duplicate)
    | .generationAware => some (previous, .generationRegression)

structure Index where
  pages : Ledger Nat
  perIteration : Ledger Nat
  records : Nat
  duplicates : Nat
  anomalies : List Anomaly

namespace Index

def empty : Index := ⟨.empty, .empty, 0, 0, []⟩

def classify (previous : Option Nat) (iteration : Nat) : Observation :=
  match previous with
  | none => .first
  | some previous =>
    if previous = iteration then .sameIteration
    else if previous < iteration then .overwrite previous
    else .regression previous

def observe (index : Index) (page iteration : Nat) : Observation × Index :=
  let observation := classify (index.pages.get? page) iteration
  (observation, { index with
    pages := index.pages.put page iteration
    perIteration :=
      index.perIteration.put iteration ((index.perIteration.get? iteration).getD 0 + 1)
    records := index.records + 1
    duplicates := index.duplicates + observation.isDuplicate.toNat })

def noteAnomaly (index : Index) (anomaly : Anomaly) : Index :=
  { index with anomalies := index.anomalies ++ [anomaly] }

def judge (index : Index) (policy : Policy) (page iteration : Nat) (observation : Observation) :
    Index :=
  match policy.objection iteration observation with
  | none => index
  | some (previous, kind) => index.noteAnomaly ⟨page, iteration, previous, kind⟩

def contains (index : Index) (page : Nat) : Bool := (index.pages.get? page).isSome

def iterationOf (index : Index) (page : Nat) : Option Nat := index.pages.get? page

def distinctPages (index : Index) : Nat := index.pages.size

def firstMissing (index : Index) (count : Nat) : Option Nat := index.pages.firstMissing count

def firstAtOrBeyond (index : Index) (count : Nat) : Option Nat :=
  index.pages.firstAtOrBeyond count

end Index

end PageStream
