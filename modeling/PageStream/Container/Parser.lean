import PageStream.Container.Header
import PageStream.Reader

namespace PageStream.Container

structure Parser where
  tags : List Tag

structure FixedPart where
  tag : Tag
  descriptorLength : Nat
  wasRunning : Bool
  compression : Compression

namespace Parser

def standard : Parser := ⟨[⟨.final, .final⟩, ⟨.inProgress, .inProgress⟩]⟩

def withTag (parser : Parser) (tag : Tag) : Parser := ⟨parser.tags ++ [tag]⟩

def match? (parser : Parser) (magic : Bytes) : Option Tag :=
  parser.tags.find? (·.magic.bytes == magic)

def recognizes (parser : Parser) (buffer : Bytes) : Bool :=
  magicLength ≤ buffer.length && (parser.match? (buffer.take magicLength)).isSome

def reservedWord (fixed : Bytes) (index : Nat) : Nat := wordAt fixed (reservedStart + 4 * index) 4

def parseFixed (parser : Parser) (fixed : Bytes) : Except Failure FixedPart :=
  let magic := fixed.take magicLength
  let version := wordAt fixed versionStart 4
  match parser.match? magic with
  | none => .error (.malformed (.unknownMagic magic))
  | some tag =>
    if version ≠ containerVersion then .error (.malformed (.unsupportedVersion version)) else
    match (List.range reservedWords).find? (reservedWord fixed · != 0) with
    | some index => .error (.malformed (.reservedNotZero index (reservedWord fixed index)))
    | none => .ok {
        tag
        descriptorLength := wordAt fixed descriptorLengthStart 4
        wasRunning := wordAt fixed runningStart 4 != 0
        compression := .ofCode (wordAt fixed compressionStart 4) }

def complete (fixed : FixedPart) (descriptor : Bytes) : Except Failure Header :=
  if descriptor.getLast? = some 0 then
    .ok ⟨fixed.tag, containerVersion, fixed.wasRunning, fixed.compression, descriptor⟩
  else .error (.malformed .descriptorUnterminated)

-- A header at the start of the buffer; what follows it is not looked at.
def parse (parser : Parser) (buffer : Bytes) : Except Failure (Option Header) :=
  if buffer.length < fixedLength then .ok none else
  match parser.parseFixed (buffer.take fixedLength) with
  | .error failure => .error failure
  | .ok fixed =>
    if buffer.length < fixedLength + fixed.descriptorLength then .ok none
    else (complete fixed ((buffer.drop fixedLength).take fixed.descriptorLength)).map some

-- Leaves the reader behind the header. An end inside the fixed part is the stream's fault even when
-- the device reports it as a fault of its own; inside the descriptor only a plain end is.
def readFrom (parser : Parser) (reader : Reader) : Except Failure (Header × Reader) :=
  let fixedBytes := reader.gather fixedLength
  match fixedBytes.stop with
  | .atEnd => .error (.malformed .fixedPartCut)
  | .fault fault =>
    if fault.isEarlyEnd then .error (.malformed .fixedPartCut) else .error (.read fault)
  | .complete =>
    match parser.parseFixed fixedBytes.bytes with
    | .error failure => .error failure
    | .ok fixed =>
      let descriptor := fixedBytes.rest.gather fixed.descriptorLength
      match descriptor.stop with
      | .atEnd =>
        .error (.malformed (.descriptorCut descriptor.bytes.length fixed.descriptorLength))
      | .fault fault => .error (.read fault)
      | .complete => (complete fixed descriptor.bytes).map (·, descriptor.rest)

end Parser

end PageStream.Container
