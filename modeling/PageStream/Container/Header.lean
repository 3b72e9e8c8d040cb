import PageStream.Container.Compression
import PageStream.Failure

namespace PageStream.Container

inductive SaveState where
  | final
  | inProgress
  deriving DecidableEq

def SaveState.label : SaveState → String
  | .final => "Final"
  | .inProgress => "InProgress"

def SaveState.key : SaveState → String
  | .final => "final"
  | .inProgress => "in_progress"

structure Magic where
  bytes : Bytes
  length_eq : bytes.length = magicLength
  deriving DecidableEq

def Magic.final : Magic := ⟨magicFinal, rfl⟩
def Magic.inProgress : Magic := ⟨magicPartial, rfl⟩

def Magic.ofBytes? (bytes : Bytes) : Option Magic :=
  if length_eq : bytes.length = magicLength then some ⟨bytes, length_eq⟩ else none

structure Tag where
  magic : Magic
  state : SaveState
  deriving DecidableEq

structure Header where
  tag : Tag
  version : Nat
  wasRunning : Bool
  compression : Compression
  -- As stored, with the zero byte at its end and any zeros before that.
  descriptor : Bytes
  deriving DecidableEq

namespace Header

def ofText (tag : Tag) (text : String) (wasRunning : Bool) (compression : Compression) : Header :=
  ⟨tag, containerVersion, wasRunning, compression, Text.Utf8.encode text ++ [0]⟩

-- The length as the four-byte field holds it.
def descriptorLength (h : Header) : Nat := h.descriptor.length % 2 ^ 32

def descriptorText (h : Header) : String := Text.Utf8.lossy (dropTrailingZeros h.descriptor)

def payloadOffset (h : Header) : Nat := fixedLength + h.descriptor.length

def isAligned (h : Header) : Bool := h.payloadOffset == alignedLength

def encode (h : Header) : Bytes :=
  h.tag.magic.bytes ++ le 4 h.version ++ le 4 h.descriptorLength ++ le 4 h.wasRunning.toNat ++
    le 4 h.compression.code ++ List.replicate (4 * reservedWords) 0 ++ h.descriptor

-- The same header as it stands once the save is complete.
def finalized (h : Header) : Header := { h with tag := ⟨.final, .final⟩ }

def encodeAligned (h : Header) (boundary : Nat) : Except Failure Bytes :=
  if boundary < h.payloadOffset then .error (.overflow (.longHeader h.payloadOffset boundary))
  else
    let padding := List.replicate (boundary - h.payloadOffset) 0
    .ok { h with descriptor := h.descriptor ++ padding }.encode

theorem encode_length (h : Header) : h.encode.length = h.payloadOffset := by
  simp [encode, payloadOffset, fixedLength, reservedStart, reservedWords, h.tag.magic.length_eq,
    magicLength]
  omega

end Header

end PageStream.Container
