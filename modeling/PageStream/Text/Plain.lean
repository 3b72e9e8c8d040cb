import PageStream.Text.Utf8

namespace PageStream.Text.Plain

inductive Progress where
  | outside
  | begun
  -- After characters that put off the final one.
  | intermediate
  -- After an opening bracket.
  | parameters
  -- A command to the terminal, up to a bell.
  | command
  -- A string for a device or an application.
  | string
  deriving DecidableEq

def isWhite (c : Char) : Bool := ['\t', '\n', '\x0c', '\r'].contains c

-- In a sequence: a control character stands for itself, a character below `final` goes on with the
-- sequence, one from there up ends it, and others mean nothing.
def within (progress next : Progress) (final : Nat) (c : Char) : Progress × Bool :=
  if c.toNat < 0x20 then (if isWhite c then (.outside, true) else (progress, false))
  else if c.toNat < final then (next, false)
  else if c.toNat < 0x7f then (.outside, false)
  else (progress, false)

def afterEscape (c : Char) : Progress × Bool :=
  if c = '[' then (.parameters, false)
  else if c = ']' then (.command, false)
  else if ['P', 'X', '^', '_'].contains c then (.string, false)
  else within .begun .intermediate 0x30 c

def step (progress : Progress) (c : Char) : Progress × Bool :=
  if c = '\x1b' then (.begun, false)
  else if c = '\x18' ∨ c = '\x1a' then (.outside, false) else
  match progress with
  | .outside => (.outside, isWhite c || (0x20 ≤ c.toNat && c.toNat != 0x7f))
  | .begun => afterEscape c
  | .intermediate => within .intermediate .intermediate 0x30 c
  | .parameters => within .parameters .parameters 0x40 c
  | .command => (if c = '\x07' then .outside else .command, false)
  -- The byte 9C is the old way to end a string.
  | .string => (if (Utf8.encodeChar c).contains 0x9C then .outside else .string, false)

def keep (progress : Progress) : List Char → List Char
  | [] => []
  | c :: rest =>
    match step progress c with
    | (next, true) => c :: keep next rest
    | (next, false) => keep next rest

end PageStream.Text.Plain

namespace PageStream.Text

def plain (text : String) : String := String.ofList (Plain.keep .outside text.toList)

end PageStream.Text
