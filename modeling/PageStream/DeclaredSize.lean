import PageStream.Reader

namespace PageStream

structure DeclaredSize where
  bytes : Nat
  aligned : bytes % pageSize = 0
  deriving DecidableEq

namespace DeclaredSize

def pages (size : DeclaredSize) : Nat := size.bytes / pageSize

def toBytes (size : DeclaredSize) : Bytes := le sizeHeaderLength size.bytes

def ofBytes (bytes : Nat) : Except Failure DeclaredSize :=
  if aligned : bytes % pageSize = 0 then .ok ⟨bytes, aligned⟩
  else .error (.malformed (.sizeMisaligned bytes))

-- Reads the size at the start of a buffer; none while fewer than eight bytes are there.
def parse (buffer : Bytes) : Except Failure (Option DeclaredSize) :=
  if buffer.length < sizeHeaderLength then .ok none
  else (ofBytes (wordAt buffer 0 sizeHeaderLength)).map some

def readFrom (reader : Reader) : Except Failure (DeclaredSize × Reader) :=
  let word := reader.gather sizeHeaderLength
  match word.stop with
  | .atEnd => .error (.malformed (.sizeCut word.bytes.length))
  | .fault fault => .error (.read fault)
  | .complete => (ofBytes (ofLe word.bytes)).map (·, word.rest)

theorem pages_mul (size : DeclaredSize) : size.pages * pageSize = size.bytes :=
  Nat.div_mul_cancel (Nat.dvd_of_mod_eq_zero size.aligned)

end DeclaredSize

end PageStream
