import PageStream.Failure

namespace PageStream

inductive ReadStep where
  -- Bytes that become available together; a read never joins them with the next step's.
  | data (bytes : Bytes)
  | interrupted
  | endOfFile
  | fault (fault : DeviceFault)
  | crash
  deriving DecidableEq

-- No buffer for reading is longer than this.
def longestBuffer : Nat := 2 ^ 63 - 1

-- After the last step a reader is at its end for good.
abbrev Reader := List ReadStep

inductive ReadAnswer where
  -- No bytes mean the end of the file.
  | got (bytes : Bytes)
  | interrupted
  | fault (fault : DeviceFault)
  | crashed

namespace Reader

-- Steps without bytes are no answers and are left out.
def ofSteps (steps : List ReadStep) : Reader := steps.filter (· != .data [])

def read (limit : Nat) : Reader → ReadAnswer × Reader
  | [] => (.got [], [])
  | .data bytes :: rest =>
    (.got (bytes.take limit),
      match bytes.drop limit with
      | [] => rest
      | more => .data more :: rest)
  | .interrupted :: rest => (.interrupted, rest)
  | .endOfFile :: rest => (.got [], rest)
  | .fault fault :: rest => (.fault fault, rest)
  | .crash :: rest => (.crashed, rest)

-- More reads than the reader can answer before it is at its end for good.
def budget : Reader → Nat
  | [] => 0
  | .data bytes :: rest => bytes.length + 1 + budget rest
  | _ :: rest => 1 + budget rest

inductive GatherEnd where
  | complete
  | atEnd
  | fault (fault : DeviceFault)

structure Gathered where
  bytes : Bytes
  stop : GatherEnd
  rest : Reader

def gather : Nat → Reader → Gathered
  | 0, reader => ⟨[], .complete, reader⟩
  | _, [] => ⟨[], .atEnd, []⟩
  | needed, .data bytes :: rest =>
    if bytes.length ≤ needed then
      let more := gather (needed - bytes.length) rest
      { more with bytes := bytes ++ more.bytes }
    else ⟨bytes.take needed, .complete, .data (bytes.drop needed) :: rest⟩
  | needed, .interrupted :: rest => gather needed rest
  | _, .endOfFile :: rest => ⟨[], .atEnd, rest⟩
  | _, .fault fault :: rest => ⟨[], .fault fault, rest⟩
  | _, .crash :: rest => ⟨[], .fault .readerCrashed, rest⟩

end Reader

end PageStream
