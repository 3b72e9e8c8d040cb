import PageStream.Image
import PageStream.Journal
import PageStream.PageHeader

namespace PageStream

structure Reconstructor (σ : Type) where
  sink : σ
  index : Index
  policy : Policy
  -- Where page offset zero lies in the image.
  base : Nat
  -- The iteration of the latest record, applied or not.
  current : Option Nat
  journal : Journal

def Observation.tallies : Observation → List Tally
  | .first => []
  | .overwrite _ => [.overwrite]
  | .sameIteration => [.sameIteration]
  | .regression _ => [.overwrite, .regression]

def Observation.notices (policy : Policy) (header : PageHeader) (offset : Nat) :
    Observation → List Notice
  | .first => [.pageWritten header.page header.iteration offset]
  | .overwrite previous =>
    .pageOverwritten header.page header.iteration previous ::
      (if policy = .strict then [.pageTwice header.page header.iteration previous] else [])
  | .sameIteration => [.pageTwiceInIteration header.page header.offset header.iteration]
  | .regression previous => [.pageRegressed header.page header.iteration previous]

namespace Reconstructor

variable {σ : Type}

def start (sink : σ) (policy : Policy) (base : Nat) (journal : Journal) : Reconstructor σ :=
  ⟨sink, .empty, policy, base, none, journal⟩

def enter (r : Reconstructor σ) (iteration : Nat) : Reconstructor σ :=
  match r.current with
  | none => { r with
      current := some iteration, journal := r.journal.note (.firstIteration iteration) }
  | some previous =>
    if previous = iteration then r
    else { r with
      current := some iteration
      journal := r.journal.note (.nextIteration iteration previous) }

def accept (r : Reconstructor σ) (header : PageHeader) (offset : Nat) :
    Observation × Reconstructor σ :=
  let (observation, index) := r.index.observe header.page header.iteration
  (observation, { r with
    index := index.judge r.policy header.page header.iteration observation
    journal := (observation.tallies.foldl Journal.count (r.journal.count .pageWritten)).noteAll
      (observation.notices r.policy header offset) })

variable [ImageSink σ]

def applyPage (r : Reconstructor σ) (header : PageHeader) (payload : Bytes) :
    Except Failure Observation × Reconstructor σ :=
  let r := r.enter header.iteration
  let offset := r.base + header.offset
  match ImageSink.perform r.sink (.write offset payload) with
  | (sink, some fault) => (.error (.write offset fault), { r with sink })
  | (sink, none) =>
    let (observation, r) := { r with sink }.accept header offset
    (.ok observation, r)

def apply (r : Reconstructor σ) (record : Record) :
    Except Failure (PageHeader × Observation) × Reconstructor σ :=
  match PageHeader.decode record.headerBytes with
  | .error failure => (.error failure, r)
  | .ok header =>
    match r.applyPage header record.payload with
    | (.error failure, r) => (.error failure, r)
    | (.ok observation, r) => (.ok (header, observation), r)

-- Pulling a record is counted whether or not it can be applied.
def pull (r : Reconstructor σ) : Reconstructor σ :=
  { r with journal := r.journal.count (.framed 1) }

-- Every complete record of a piece on its own; a failure does not keep the next ones from being
-- applied, and what is left over at the end is dropped.
def applyEach (r : Reconstructor σ) :
    List Record → List (Except Failure (PageHeader × Observation)) × Reconstructor σ
  | [] => ([], r)
  | record :: rest =>
    let (result, r) := r.pull.apply record
    let (results, r) := r.applyEach rest
    (result :: results, r)

-- Flushes the image; the index is then final.
def finish (r : Reconstructor σ) : Except Failure Index × Reconstructor σ :=
  match ImageSink.perform r.sink .flush with
  | (sink, some fault) => (.error (.write r.base fault), { r with sink })
  | (sink, none) => (.ok r.index, { r with sink })

end Reconstructor

end PageStream
