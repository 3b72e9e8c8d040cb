import PageStream.Text.Category
import PageStream.Text.Numeral

namespace PageStream.Text

-- Control, format, private use and unassigned characters and separators, but not the plain space.
def isUnprintable (c : Char) : Bool :=
  c != ' ' && [.cc, .cf, .cs, .co, .cn, .zl, .zp, .zs].contains (Category.of c)

-- Spacing marks that belong to the character before them all the same.
def joiningMarks : List (Nat × Nat) := [
  (0x9be, 0x9be), (0x9d7, 0x9d7), (0xb3e, 0xb3e), (0xb57, 0xb57), (0xbbe, 0xbbe), (0xbd7, 0xbd7),
  (0xcc0, 0xcc0), (0xcc2, 0xcc2), (0xcc7, 0xcc8), (0xcca, 0xccb), (0xcd5, 0xcd6), (0xd3e, 0xd3e),
  (0xd57, 0xd57), (0xdcf, 0xdcf), (0xddf, 0xddf), (0x1715, 0x1715), (0x1734, 0x1734),
  (0x1b35, 0x1b35), (0x1b3b, 0x1b3b), (0x1b3d, 0x1b3d), (0x1b43, 0x1b44), (0x1baa, 0x1baa),
  (0x1bf2, 0x1bf3), (0x302e, 0x302f), (0xa953, 0xa953), (0xa9c0, 0xa9c0), (0x111c0, 0x111c0),
  (0x11235, 0x11235), (0x1133e, 0x1133e), (0x1134d, 0x1134d), (0x11357, 0x11357),
  (0x113b8, 0x113b8), (0x113c2, 0x113c2), (0x113c5, 0x113c5), (0x113c7, 0x113c9),
  (0x113cf, 0x113cf), (0x114b0, 0x114b0), (0x114bd, 0x114bd), (0x115af, 0x115af),
  (0x116b6, 0x116b6), (0x11930, 0x11930), (0x1193d, 0x1193d), (0x11f41, 0x11f41),
  (0x16ff0, 0x16ff1), (0x1d165, 0x1d166), (0x1d16d, 0x1d172)]

def isJoined (c : Char) : Bool :=
  [.mn, .me].contains (Category.of c) ||
    joiningMarks.any fun (low, high) => low ≤ c.toNat && c.toNat ≤ high

-- Letters by category, but nothing is drawn for them: the Hangul fillers.
def isFiller (c : Char) : Bool := ['\u115f', '\u1160', '\u3164', '\uffa0'].contains c

def escape (c : Char) : List Char :=
  match c with
  | '\x00' => ['\\', '0']
  | '\t' => ['\\', 't']
  | '\r' => ['\\', 'r']
  | '\n' => ['\\', 'n']
  | '\\' => ['\\', '\\']
  | '"' => ['\\', '"']
  | c =>
    if isJoined c || isUnprintable c || isFiller c then
      '\\' :: 'u' :: '\x7b' :: Nat.toDigits 16 c.toNat ++ ['\x7d']
    else [c]

def quoted (text : String) : String :=
  String.ofList ('"' :: text.toList.flatMap escape ++ ['"'])

end PageStream.Text
