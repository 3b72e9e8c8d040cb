import PageStream.Bytes

namespace PageStream

def pageSize : Nat := 4096

def pageHeaderLength : Nat := 8
def recordSize : Nat := pageHeaderLength + pageSize

-- The page header word holds the page's byte offset in its low 48 bits and the iteration above them.
def iterationBits : Nat := 16
def offsetBits : Nat := 64 - iterationBits
def offsetMask : Nat := 2 ^ offsetBits - 1
def iterationMask : Nat := 2 ^ iterationBits - 1

def sizeHeaderLength : Nat := 8

def magicLength : Nat := 16
-- "LibvirtQemudSave": the save is complete.
def magicFinal : Bytes :=
  [0x4c, 0x69, 0x62, 0x76, 0x69, 0x72, 0x74, 0x51, 0x65, 0x6d, 0x75, 0x64, 0x53, 0x61, 0x76, 0x65]
-- "LibvirtQemudPart": the save was still running when these bytes were written.
def magicPartial : Bytes :=
  [0x4c, 0x69, 0x62, 0x76, 0x69, 0x72, 0x74, 0x51, 0x65, 0x6d, 0x75, 0x64, 0x50, 0x61, 0x72, 0x74]

def containerVersion : Nat := 2
def reservedWords : Nat := 15

def versionStart : Nat := 16
def descriptorLengthStart : Nat := 20
def runningStart : Nat := 24
def compressionStart : Nat := 28
def reservedStart : Nat := 32
def fixedLength : Nat := reservedStart + 4 * reservedWords

-- Where the payload is expected to start, and does in an image that keeps its container header.
def alignedLength : Nat := 2 * pageSize

def defaultReadChunk : Nat := 10 * pageSize
def defaultQueueCapacity : Nat := 64

end PageStream
