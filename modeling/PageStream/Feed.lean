import PageStream.Reader

namespace PageStream

inductive Answer where
  -- The next bytes of the stream; there may be none.
  | piece (bytes : Bytes)
  | ended
  | failed (fault : DeviceFault)
  deriving DecidableEq

def Answer.isLast : Answer → Bool
  | .piece _ => false
  | _ => true

abbrev Feed := List Answer

def Feed.next : Feed → Answer × Feed
  | [] => (.ended, [])
  | answer :: rest => (answer, rest)

-- Cuts of the given lengths, at least one byte each, repeated from the first when they run out; one
-- cut for everything when none is given. `position` is where the bytes start in the whole. A cut is
-- made from there to the sum of its position and length; if that sum does not fit in 64 bits there
-- is no result.
def cutsFrom (lengths : List Nat) (index position : Nat) (bytes : Bytes) : Option (List Bytes) :=
  if bytes = [] then some [] else
  let length := max 1 (lengths[index % max 1 lengths.length]?.getD bytes.length)
  if 2 ^ 64 ≤ position + length then none else
  (cutsFrom lengths (index + 1) (position + length) (bytes.drop length)).map (bytes.take length :: ·)
termination_by bytes.length
decreasing_by
  have := List.length_pos_iff.mpr ‹¬bytes = []›
  simp only [List.length_drop]; omega

def cuts? (lengths : List Nat) (bytes : Bytes) : Option (List Bytes) := cutsFrom lengths 0 0 bytes

-- Pieces of one length, the last one possibly shorter; a length of zero counts as one.
def chunks (length : Nat) (bytes : Bytes) : List Bytes :=
  if bytes = [] then []
  else bytes.take (max 1 length) :: chunks length (bytes.drop (max 1 length))
termination_by bytes.length
decreasing_by
  have := List.length_pos_iff.mpr ‹¬bytes = []›
  simp only [List.length_drop]; omega

def Reader.delivery (limit : Nat) : Reader → Answer × Reader
  | [] => (.ended, [])
  | .data bytes :: rest =>
    (.piece (bytes.take limit), (Reader.read limit (.data bytes :: rest)).2)
  | .interrupted :: rest => Reader.delivery limit rest
  | .endOfFile :: rest => (.ended, rest)
  | .fault fault :: rest => (.failed fault, rest)
  | .crash :: rest => (.failed .readerCrashed, rest)

end PageStream
