import PageStream.Format
import PageStream.Stage
import PageStream.Text.Utf8
import PageStream.Text.Quoted

namespace PageStream

inductive DeviceFault where
  | noSuchFile
  | notDirectory
  | isDirectory
  | longName
  | nulInName
  -- A length that no file can have, and a place that no file has.
  | longFile
  | noSuchPlace
  -- The reading side of a hand-off disappeared without announcing an end.
  | producerGone
  -- A reader broke down instead of answering.
  | readerCrashed
  | neverAppeared (path : String) (attempts : Nat)
  -- Any other report; an early end is told apart because a header reader classifies it differently.
  | reported (earlyEnd : Bool) (text : String)
  deriving DecidableEq

def DeviceFault.message : DeviceFault → String
  | .noSuchFile => "No such file or directory (os error 2)"
  | .notDirectory => "Not a directory (os error 20)"
  | .isDirectory => "Is a directory (os error 21)"
  | .longName => "File name too long (os error 36)"
  | .nulInName => "file name contained an unexpected NUL byte"
  | .longFile => "out of range integral type conversion attempted"
  | .noSuchPlace => "Invalid argument (os error 22)"
  | .producerGone => "producer exited without end-of-stream"
  | .readerCrashed => "reader crashed"
  | .neverAppeared path attempts => s!"{path} did not appear after {attempts} attempt(s)"
  | .reported _ text => text

def DeviceFault.isEarlyEnd : DeviceFault → Bool
  | .reported earlyEnd _ => earlyEnd
  | _ => false

inductive Malformation where
  | unknownMagic (magic : Bytes)
  | unsupportedVersion (version : Nat)
  | reservedNotZero (index word : Nat)
  | descriptorUnterminated
  | fixedPartCut
  | descriptorCut (got needed : Nat)
  | containerCut (got : Nat)
  | sessionUsed (stage : Stage)
  | sizeMisaligned (bytes : Nat)
  | sizeCut (got : Nat)
  | pageHeaderCut (got : Nat)
  | pageMisaligned (word : Nat)
  | inRecord (number : Nat) (inner : Malformation)
  deriving DecidableEq

namespace Malformation

def phase : Malformation → Phase
  | .unknownMagic _ | .unsupportedVersion _ | .reservedNotZero _ _ | .descriptorUnterminated
  | .fixedPartCut | .descriptorCut _ _ | .containerCut _ | .sessionUsed _ => .containerHeader
  | .sizeMisaligned _ | .sizeCut _ => .sizeHeader
  | .pageHeaderCut _ | .pageMisaligned _ => .pageRecords
  | .inRecord _ inner => inner.phase

def message : Malformation → String
  | .unknownMagic magic => s!"invalid magic {Text.quoted (Text.Utf8.lossy magic)}"
  | .unsupportedVersion version => s!"unsupported version {version} (expected {containerVersion})"
  | .reservedNotZero index word => s!"reserved word #{index} is {Text.Numeral.hex word}, must be 0"
  | .descriptorUnterminated => "missing NUL byte after descriptor"
  | .fixedPartCut => s!"stream ended inside the fixed prefix ({fixedLength} bytes needed)"
  | .descriptorCut got needed => s!"stream ended inside the descriptor ({got} of {needed} bytes)"
  | .containerCut got => s!"stream ended inside the container header ({got} bytes)"
  | .sessionUsed stage => s!"session already used (state {stage.label})"
  | .sizeMisaligned bytes => s!"declared size {bytes} is not a multiple of {pageSize}"
  | .sizeCut got => s!"couldn't read size header: {got} of {sizeHeaderLength} bytes available"
  | .pageHeaderCut got => s!"chunk header needs {pageHeaderLength} bytes, got {got}"
  | .pageMisaligned word =>
    s!"chunk header {Text.Numeral.hex16 word}: page offset " ++
      s!"{Text.Numeral.hex (word % 2 ^ offsetBits)} is not aligned to {pageSize} bytes"
  | .inRecord number inner => s!"record #{number}: {inner.message}"

end Malformation

inductive FieldOverflow where
  | wideOffset (offset : Nat)
  | wideIteration (iteration : Nat)
  | longHeader (length boundary : Nat)
  deriving DecidableEq

def FieldOverflow.message : FieldOverflow → String
  | .wideOffset offset => s!"page offset {Text.Numeral.hex offset} does not fit in {offsetBits} bits"
  | .wideIteration iteration => s!"iteration seq {iteration} does not fit in {iterationBits} bits"
  | .longHeader length boundary =>
    s!"container header is {length} bytes, larger than the {boundary}-byte alignment"

inductive Failure where
  | malformed (cause : Malformation)
  | truncated (pending : Nat)
  | overflow (cause : FieldOverflow)
  | read (fault : DeviceFault)
  | write (offset : Nat) (fault : DeviceFault)
  | locked (path : String)
  -- A sum of words that is no word: the program stops without an answer.
  | brokeDown
  deriving DecidableEq

namespace Failure

def message : Failure → String
  | .malformed cause => s!"format error in {cause.phase.name}: {cause.message}"
  | .truncated pending =>
    s!"truncated final record: {pending} of {recordSize} byte(s) present at end of stream"
  | .overflow cause => s!"invalid field: {cause.message}"
  | .read fault => s!"source read failed: {fault.message}"
  | .write offset fault => s!"image write failed at offset {offset}: {fault.message}"
  | .locked path => s!"output image {path} is locked by another session"
  | .brokeDown => "attempt to add with overflow"

def isFormat : Failure → Bool
  | .malformed _ | .truncated _ => true
  | _ => false

-- The part of the stream that is to blame; a stream that stops early stops among the records.
def phase? : Failure → Option Phase
  | .malformed cause => some cause.phase
  | .truncated _ => some .pageRecords
  | _ => none

def fault? : Failure → Option DeviceFault
  | .read fault | .write _ fault => some fault
  | _ => none

-- A malformation found in a record carries the record's number; other failures speak for themselves.
def inRecord (number : Nat) : Failure → Failure
  | .malformed cause => .malformed (.inRecord number cause)
  | other => other

end Failure

end PageStream
