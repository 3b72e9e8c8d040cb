import PageStream.Handoff

namespace PageStream

inductive Source where
  | given (pieces : List Bytes)
  -- Asking stops for good after an end, not after a failure.
  | direct (reader : Reader) (chunk : Nat) (ended : Bool)
  | queued (handoff : Handoff)

namespace Source

-- None if there is no buffer of the read length.
def ofReader? (reader : Reader) (chunk : Nat) : Option Source :=
  if chunk ≤ longestBuffer then some (.direct reader (max 1 chunk) false) else none

def ofHandoff? (reader : Reader) (chunk : Nat) (capacity : Option Nat) : Option Source :=
  if Handoff.fits capacity then some (.queued (.start reader chunk capacity)) else none

def next : Source → Answer × Source
  | .given [] => (.ended, .given [])
  | .given (bytes :: rest) => (.piece bytes, .given rest)
  | .direct reader chunk true => (.ended, .direct reader chunk true)
  | .direct reader chunk false =>
    let (answer, reader) := reader.delivery chunk
    (answer, .direct reader chunk (answer == .ended))
  | .queued handoff =>
    let (answer, handoff) := handoff.next
    (answer, .queued handoff)

-- At least as many requests as there can be before the first last answer.
def budget : Source → Nat
  | .given pieces => pieces.length + 1
  | .direct reader _ _ => reader.budget + 1
  | .queued handoff => handoff.queue.length + handoff.reader.budget + 2

-- The answers to at most `count` requests, none after the first last one.
def answers : Nat → Source → Feed × Source
  | 0, source => ([], source)
  | count + 1, source =>
    let (answer, source) := source.next
    if answer.isLast then ([answer], source)
    else
      let (rest, source) := answers count source
      (answer :: rest, source)

def feed (source : Source) : Feed := (source.answers source.budget).1

def spent (source : Source) : Source := (source.answers source.budget).2

end Source

inductive Arrival where
  | present
  | appeared (attempt : Nat)
  -- There at the very last look.
  | late
  | missing
  deriving DecidableEq

-- Looks for the input at most `attempts` times and at least once, with one more look at the end;
-- `present` says whether the path is there at the given look.
def awaitInput (attempts : Nat) (present : Nat → Bool) : Arrival :=
  match (List.range (max 1 attempts)).find? present with
  | some 0 => .present
  | some attempt => .appeared attempt
  | none => if present (max 1 attempts) then .late else .missing

end PageStream
