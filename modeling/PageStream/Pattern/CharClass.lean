import PageStream.Text.Blank
import PageStream.Text.CaseFold
import PageStream.Text.Category

namespace PageStream.Pattern

open PageStream.Text

inductive CharClass where
  | nothing
  | span (low high : Nat)
  | among (categories : List Category)
  | blank
  -- What the class has, and every letter that differs from one of those in case only.
  | folded (inner : CharClass)
  | except (inner : CharClass)
  | either (left right : CharClass)
  | both (left right : CharClass)

namespace CharClass

def has : CharClass → Nat → Bool
  | .nothing, _ => false
  | .span low high, code => low ≤ code && code ≤ high
  | .among categories, code => categories.contains (Category.ofCode code)
  | .blank, code => isBlank (Char.ofNat code)
  | .folded inner, code => (CaseFold.variants code).any inner.has || inner.has code
  | .except inner, code => !inner.has code
  | .either left right, code => left.has code || right.has code
  | .both left right, code => left.has code && right.has code

def one (c : Char) : CharClass := .span c.toNat c.toNat

def anyOf (classes : List CharClass) : CharClass := classes.foldr .either .nothing

def all : CharClass := .except .nothing

def ascii : CharClass := .span 0x00 0x7f

def minus (left right : CharClass) : CharClass := .both left (.except right)

def differ (left right : CharClass) : CharClass := .either (left.minus right) (right.minus left)

def digit : CharClass := .among [.nd]

-- Letters, marks, digits, connectors, the letters in circles and squares, and the two joiners.
def word : CharClass := anyOf [
  .among [.lu, .ll, .lt, .lm, .lo, .mn, .mc, .me, .nd, .nl, .pc], .span 0x24b6 0x24e9,
  .span 0x1f130 0x1f149, .span 0x1f150 0x1f169, .span 0x1f170 0x1f189, .span 0x200c 0x200d]

def asciiDigit : CharClass := .span 0x30 0x39
def asciiUpper : CharClass := .span 0x41 0x5a
def asciiLower : CharClass := .span 0x61 0x7a
def asciiLetter : CharClass := asciiUpper.either asciiLower
def asciiBlank : CharClass := .either (.span 0x09 0x0d) (one ' ')
def asciiWord : CharClass := anyOf [asciiLetter, asciiDigit, one '_']

def ofName? (name : String) : Option CharClass :=
  [("alnum", asciiLetter.either asciiDigit), ("alpha", asciiLetter), ("ascii", ascii),
    ("blank", (one '\t').either (one ' ')), ("cntrl", .either (.span 0x00 0x1f) (.span 0x7f 0x7f)),
    ("digit", asciiDigit), ("graph", .span 0x21 0x7e), ("lower", asciiLower),
    ("print", .span 0x20 0x7e),
    ("punct", anyOf [.span 0x21 0x2f, .span 0x3a 0x40, .span 0x5b 0x60, .span 0x7b 0x7e]),
    ("space", asciiBlank), ("upper", asciiUpper), ("word", asciiWord),
    ("xdigit", anyOf [asciiDigit, .span 0x41 0x46, .span 0x61 0x66])].lookup name

end CharClass

end PageStream.Pattern
