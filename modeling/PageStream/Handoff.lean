import PageStream.Feed

namespace PageStream

inductive Message where
  | piece (bytes : Bytes)
  | failed (fault : DeviceFault)
  | finish
  deriving DecidableEq

-- After a failure or the end the producer sends nothing more.
def Message.isLast : Message → Bool
  | .piece _ => false
  | _ => true

def Message.answer : Message → Answer
  | .piece bytes => .piece bytes
  | .failed fault => .failed fault
  | .finish => .ended

inductive ProducerState where
  | running
  | stopped
  -- The reader broke down and took the producer with it; what was sent before stays sent.
  | crashed
  deriving DecidableEq

structure Handoff where
  reader : Reader
  chunk : Nat
  -- How many messages may wait; none for no limit, zero for messages that change hands directly.
  capacity : Option Nat
  held : Option Message
  queue : List Message
  producer : ProducerState
  total : Nat
  -- The consumer has had its last answer.
  closed : Bool
  deriving DecidableEq

inductive Move where
  | read
  | send
  | receive
  deriving DecidableEq

namespace Handoff

-- The bytes that a bounded queue sets aside for each message that may wait.
def slotLength : Nat := 32

def fits (capacity : Option Nat) : Bool := capacity.all (slotLength * · ≤ longestBuffer)

-- A read length of zero counts as one. With one for which there is no buffer the producer breaks
-- down before its first read.
def start (reader : Reader) (chunk : Nat) (capacity : Option Nat) : Handoff :=
  ⟨reader, max 1 chunk, capacity, none, [],
    if chunk ≤ longestBuffer then .running else .crashed, 0, false⟩

def hasRoom (h : Handoff) : Bool :=
  match h.capacity with
  | none => true
  | some capacity => h.queue.length < capacity

def afterSend (h : Handoff) (message : Message) : Handoff :=
  { h with held := none, producer := if message.isLast then .stopped else h.producer }

def deliver (h : Handoff) (message : Message) : Handoff × Option Answer :=
  ({ h with closed := message.isLast }, some message.answer)

def readOnce (h : Handoff) : Handoff :=
  let (answer, reader) := h.reader.read h.chunk
  match answer with
  | .got [] => { h with reader, held := some .finish }
  | .got bytes => { h with reader, held := some (.piece bytes), total := h.total + bytes.length }
  | .interrupted => { h with reader }
  | .fault fault => { h with reader, held := some (.failed fault) }
  | .crashed => { h with reader, producer := .crashed }

-- The consumer's request: refused while nothing has come and more may still come.
def receive (h : Handoff) : Option (Handoff × Option Answer) :=
  if h.closed then some (h, some .ended) else
  match h.queue, h.held with
  | message :: queue, _ => some ({ h with queue }.deliver message)
  | [], some message =>
    if h.capacity = some 0 then some ((h.afterSend message).deliver message) else none
  | [], none =>
    if h.producer = .running then none
    else some ({ h with closed := true }, some (.failed .producerGone))

def advance (h : Handoff) : Move → Option (Handoff × Option Answer)
  | .read =>
    if h.producer = .running ∧ h.held = none then some (h.readOnce, none) else none
  | .send =>
    match h.held with
    | none => none
    | some message =>
      if h.hasRoom then some ({ h.afterSend message with queue := h.queue ++ [message] }, none)
      else none
  | .receive => h.receive

-- Serves one request within `fuel` moves: receive if possible, else send, else read.
def serve : Nat → Handoff → Answer × Handoff
  | 0, h => (.failed .producerGone, h)
  | fuel + 1, h =>
    match h.advance .receive with
    | some (after, some answer) => (answer, after)
    | _ =>
      match h.advance .send with
      | some (after, _) => serve fuel after
      | none =>
        match h.advance .read with
        | some (after, _) => serve fuel after
        | none => (.failed .producerGone, h)

-- Every read but the last is an interruption, which uses up a step of the reader.
def next (h : Handoff) : Answer × Handoff := serve (h.reader.length + 4) h

end Handoff

end PageStream
