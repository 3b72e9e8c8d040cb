import PageStream.Bytes

namespace PageStream.Text.Utf8

-- What a first byte above 0x7F announces: how many bytes follow, and the bounds of the first of them.
structure Lead where
  tails : Nat
  low : UInt8
  high : UInt8

def lead? (a : UInt8) : Option Lead :=
  if a < 0xC2 then none
  else if a ≤ 0xDF then some ⟨1, 0x80, 0xBF⟩
  else if a = 0xE0 then some ⟨2, 0xA0, 0xBF⟩
  else if a = 0xED then some ⟨2, 0x80, 0x9F⟩
  else if a ≤ 0xEF then some ⟨2, 0x80, 0xBF⟩
  else if a = 0xF0 then some ⟨3, 0x90, 0xBF⟩
  else if a ≤ 0xF3 then some ⟨3, 0x80, 0xBF⟩
  else if a = 0xF4 then some ⟨3, 0x80, 0x8F⟩
  else none

def isTail (b : UInt8) : Bool := 0x80 ≤ b && b ≤ 0xBF

def low6 (b : UInt8) : Nat := b.toNat % 64

def two (a b : UInt8) : Char := Char.ofNat (a.toNat % 32 * 64 + low6 b)
def three (a b c : UInt8) : Char := Char.ofNat ((a.toNat % 16 * 64 + low6 b) * 64 + low6 c)
def four (a b c d : UInt8) : Char :=
  Char.ofNat (((a.toNat % 8 * 64 + low6 b) * 64 + low6 c) * 64 + low6 d)

-- The first character or gap of a non-empty byte string, and how many bytes after the first it takes.
def first (a : UInt8) (rest : Bytes) : Option Char × Nat :=
  if a < 0x80 then (some (Char.ofNat a.toNat), 0) else
  match lead? a, rest with
  | none, _ | some _, [] => (none, 0)
  | some l, b :: rest =>
    if b < l.low || l.high < b then (none, 0)
    else if l.tails = 1 then (some (two a b), 1) else
    match rest with
    | [] => (none, 1)
    | c :: rest =>
      if !isTail c then (none, 1)
      else if l.tails = 2 then (some (three a b c), 2) else
      match rest with
      | [] => (none, 2)
      | d :: _ => if isTail d then (some (four a b c d), 3) else (none, 2)

-- Characters and gaps in order; `none` is a gap.
def decode : Bytes → List (Option Char)
  | [] => []
  | a :: rest => (first a rest).1 :: decode (rest.drop (first a rest).2)
termination_by bytes => bytes.length
decreasing_by simp only [List.length_drop, List.length_cons]; omega

-- Reading that never fails: each gap shows as U+FFFD.
def lossy (bytes : Bytes) : String := String.ofList ((decode bytes).map (·.getD '\uFFFD'))

-- Reading that refuses a byte string with a gap.
def text? (bytes : Bytes) : Option String :=
  ((decode bytes).mapM id).map String.ofList

def encodeChar (c : Char) : Bytes :=
  let n := c.toNat
  let tail (k : Nat) : UInt8 := UInt8.ofNat (0x80 + n / 64 ^ k % 64)
  if n < 0x80 then [UInt8.ofNat n]
  else if n < 0x800 then [UInt8.ofNat (0xC0 + n / 64), tail 0]
  else if n < 0x10000 then [UInt8.ofNat (0xE0 + n / 64 ^ 2), tail 1, tail 0]
  else [UInt8.ofNat (0xF0 + n / 64 ^ 3), tail 2, tail 1, tail 0]

def encode (text : String) : Bytes := text.toList.flatMap encodeChar

end PageStream.Text.Utf8
