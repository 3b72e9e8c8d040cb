import PageStream.Pattern
import PageStream.Pattern.Property
import PageStream.Text.Numeral

namespace PageStream.Pattern.Parser

open PageStream.Text

structure Mode where
  -- Letters match in either case.
  caseless : Bool := false
  -- The ends of lines count as ends.
  multiline : Bool := false
  -- The point stands for line ends too.
  dotAll : Bool := false
  -- Carriage returns end lines.
  returns : Bool := false
  -- Classes and words know ASCII characters only.
  ascii : Bool := false
  -- Blanks and comments in the pattern are left out.
  spaced : Bool := false

abbrev Rest := List Char

def leaveOut (inComment : Bool) : List Char → Rest
  | [] => []
  | c :: rest =>
    if inComment then leaveOut (c ≠ '\n') rest
    else if c = '#' then leaveOut true rest
    else if isBlank c then leaveOut false rest
    else c :: rest

def Mode.skip (mode : Mode) (chars : List Char) : Rest :=
  if mode.spaced then leaveOut false chars else chars

theorem leaveOut_length (inComment : Bool) (chars : List Char) :
    (leaveOut inComment chars).length ≤ chars.length := by
  induction chars generalizing inComment with
  | nil => simp [leaveOut]
  | cons c rest ih =>
    have comment := ih true
    have blank := ih false
    have either := ih (c ≠ '\n')
    unfold leaveOut
    simp only [List.length_cons]
    split
    · omega
    · split
      · omega
      · split
        · omega
        · simp

theorem skip_length (mode : Mode) (chars : List Char) :
    (mode.skip chars).length ≤ chars.length := by
  unfold Mode.skip
  split
  · exact leaveOut_length false chars
  · exact Nat.le_refl _

def Mode.fold (mode : Mode) (made : CharClass) : CharClass :=
  if !mode.caseless then made
  else if mode.ascii then .both .ascii (.folded made)
  else .folded made

inductive Atom where
  | literal (code : Nat)
  | made (made : CharClass)
  | spot (spot : Spot)

def isScalar (code : Nat) : Bool := code < 0xd800 || (0xdfff < code && code < 0x110000)

def hexDigit? (c : Char) : Option Nat :=
  if '0' ≤ c ∧ c ≤ '9' then some (c.toNat - '0'.toNat)
  else if 'a' ≤ c ∧ c ≤ 'f' then some (c.toNat - 'a'.toNat + 10)
  else if 'A' ≤ c ∧ c ≤ 'F' then some (c.toNat - 'A'.toNat + 10)
  else none

def fixedHex (mode : Mode) : Nat → Nat → List Char → Option (Nat × Rest)
  | 0, value, chars => some (value, chars)
  | count + 1, value, chars =>
    match mode.skip chars with
    | [] => none
    | c :: rest => (hexDigit? c).bind fun digit => fixedHex mode count (16 * value + digit) rest

def braced (mode : Mode) (inside : List Char) : List Char → Option (List Char × Rest)
  | [] => none
  | c :: rest =>
    if c = '}' then some (inside.reverse, rest)
    else if mode.spaced && isBlank c then braced mode inside rest
    else braced mode (c :: inside) rest

def bracedHex? (digits : List Char) : Option Nat :=
  if digits = [] then none
  else digits.foldlM (fun value c => (hexDigit? c).map (16 * value + ·)) 0

-- Two digits name a byte, which is no character of its own beyond ASCII where only ASCII is known.
def byNumber (mode : Mode) (digits : Nat) (chars : List Char) : Option (Atom × Rest) :=
  let found :=
    match mode.skip chars with
    | '{' :: rest => (braced mode [] rest).bind fun (inside, rest) =>
      (bracedHex? inside).map fun code => (code, rest)
    | chars => (fixedHex mode digits 0 chars).filter fun (code, _) =>
      !(mode.ascii && digits == 2 && 0x7f < code)
  (found.filter fun (code, _) => isScalar code).map fun (code, rest) => (.literal code, rest)

def property (mode : Mode) (negated : Bool) (chars : List Char) : Option (Atom × Rest) :=
  let found :=
    match mode.skip chars with
    | [] => none
    | '{' :: rest => braced mode [] rest
    | c :: rest => if c = '\\' then none else some ([c], rest)
  if mode.ascii then none else
  found.bind fun (text, rest) => (Property.ofText? text).map fun made =>
    let made := mode.fold made
    (.made (if negated then .except made else made), rest)

def plainClass (mode : Mode) (known ascii : CharClass) (negated : Bool) (rest : Rest) :
    Option (Atom × Rest) :=
  let made := if mode.ascii then ascii else known
  if !negated then some (.made made, rest)
  else if mode.ascii then none
  else some (.made (.except made), rest)

def Mode.words (mode : Mode) : CharClass := if mode.ascii then .asciiWord else .word

def isPlaceName (c : Char) : Bool :=
  ('a' ≤ c && c ≤ 'z') || ('A' ≤ c && c ≤ 'Z') || c == '-'

def namedPlace? (mode : Mode) (name : List Char) : Option Spot :=
  match String.ofList name with
  | "start" => some (.word mode.words (some false) (some true))
  | "end" => some (.word mode.words (some true) (some false))
  | "start-half" => some (.word mode.words (some false) none)
  | "end-half" => some (.word mode.words none (some false))
  | _ => none

-- A brace behind the edge of a word names a special one if a name starts there; otherwise it says
-- how often the edge is to come.
def edge (mode : Mode) (rest : Rest) : Option (Atom × Rest) :=
  match rest with
  | '{' :: inside =>
    match mode.skip inside with
    | [] => none
    | c :: chars =>
      if isPlaceName c then
        (braced mode [] (c :: chars)).bind fun (name, rest) =>
          (namedPlace? mode name).map fun spot => (.spot spot, rest)
      else some (.spot (.edge mode.words true), rest)
  | rest => some (.spot (.edge mode.words true), rest)

def isQuotable (c : Char) : Bool := c.toNat < 0x80 && !c.isAlphanum

def escape (mode : Mode) : List Char → Option (Atom × Rest)
  | [] => none
  | c :: rest =>
    match c with
    | 'x' => byNumber mode 2 rest
    | 'u' => byNumber mode 4 rest
    | 'U' => byNumber mode 8 rest
    | 'p' => property mode false rest
    | 'P' => property mode true rest
    | 'd' => plainClass mode .digit .asciiDigit false rest
    | 'D' => plainClass mode .digit .asciiDigit true rest
    | 's' => plainClass mode .blank .asciiBlank false rest
    | 'S' => plainClass mode .blank .asciiBlank true rest
    | 'w' => plainClass mode .word .asciiWord false rest
    | 'W' => plainClass mode .word .asciiWord true rest
    | 'a' => some (.literal 0x07, rest)
    | 'f' => some (.literal 0x0c, rest)
    | 't' => some (.literal 0x09, rest)
    | 'n' => some (.literal 0x0a, rest)
    | 'r' => some (.literal 0x0d, rest)
    | 'v' => some (.literal 0x0b, rest)
    | 'A' => some (.spot .textStart, rest)
    | 'z' => some (.spot .textEnd, rest)
    | 'b' => edge mode rest
    | 'B' => some (.spot (.edge mode.words false), rest)
    | '<' => some (.spot (.word mode.words (some false) (some true)), rest)
    | '>' => some (.spot (.word mode.words (some true) (some false)), rest)
    | c => if isQuotable c then some (.literal c.toNat, rest) else none

inductive SetOp where
  | both
  | minus
  | differ

def SetOp.apply : SetOp → CharClass → CharClass → CharClass
  | .both => .both
  | .minus => .minus
  | .differ => .differ

abbrev Pending := Option (SetOp × CharClass)

-- Operators are applied from left to right.
def combine (mode : Mode) (pending : Pending) (right : CharClass) : CharClass :=
  match pending with
  | none => right
  | some (op, left) => op.apply (mode.fold left) (mode.fold right)

def hyphens (mode : Mode) (made : CharClass) : List Char → CharClass × Rest
  | '-' :: rest => hyphens mode (made.either (.one '-')) (mode.skip rest)
  | chars => (made, chars)
termination_by chars => chars.length
decreasing_by
  have := skip_length mode rest
  simp only [List.length_cons]; omega

-- Behind an opening bracket: whether the class is negated, and what stands for itself because it
-- comes first. A closing bracket does so too.
def setStart (mode : Mode) (chars : List Char) : Bool × CharClass × Rest :=
  let (negated, chars) :=
    match mode.skip chars with
    | '^' :: rest => (true, mode.skip rest)
    | chars => (false, chars)
  match chars with
  | ']' :: rest => (negated, .one ']', mode.skip rest)
  | chars => (negated, hyphens mode .nothing chars)

-- Where only ASCII is known there is no class of all the rest.
def setEnd (mode : Mode) (negated : Bool) (made : CharClass) : Option CharClass :=
  if !negated then some (mode.fold made)
  else if mode.ascii then none
  else some (.except (mode.fold made))

def setAtom (mode : Mode) : List Char → Option (Atom × Rest)
  | [] => none
  | '\\' :: rest => escape mode rest
  | c :: rest => if mode.ascii && 0x7f < c.toNat then none else some (.literal c.toNat, rest)

-- A class or character, or the range between two characters. A hyphen before a closing bracket or
-- another hyphen makes no range.
def setItem (mode : Mode) (chars : List Char) : Option (CharClass × Rest) :=
  match setAtom mode chars with
  | none | some (.spot _, _) => none
  | some (.made made, rest) =>
    match mode.skip rest with
    | '-' :: behind =>
      match mode.skip behind with
      | ']' :: _ | '-' :: _ => some (made, rest)
      | _ => none
    | _ => some (made, rest)
  | some (.literal low, rest) =>
    match mode.skip rest with
    | '-' :: behind =>
      match mode.skip behind with
      | ']' :: _ | '-' :: _ => some (.span low low, rest)
      | behind =>
        match setAtom mode behind with
        | some (.literal high, rest) => if low ≤ high then some (.span low high, rest) else none
        | _ => none
    | _ => some (.span low low, rest)

def namedClass? (mode : Mode) (chars : List Char) : Option (CharClass × Rest) :=
  match chars with
  | ':' :: chars =>
    let (negated, chars) :=
      match chars with
      | '^' :: rest => (true, rest)
      | chars => (false, chars)
    match chars.dropWhile (· ≠ ':') with
    | ':' :: ']' :: rest =>
      (CharClass.ofName? (String.ofList (chars.takeWhile (· ≠ ':')))).bind fun made =>
        if !negated then some (made, rest)
        else if mode.ascii then none
        else some (.except made, rest)
    | _ => none
  | _ => none

def setItems (mode : Mode) : Nat → Pending → CharClass → List Char → Option (CharClass × Rest)
  | 0, _, _, _ => none
  | fuel + 1, pending, made, chars =>
    let operator (op : SetOp) (rest : Rest) :=
      setItems mode fuel (some (op, combine mode pending made)) .nothing rest
    match mode.skip chars with
    | [] => none
    | ']' :: rest => some (combine mode pending made, rest)
    | '&' :: '&' :: rest => operator .both rest
    | '-' :: '-' :: rest => operator .minus rest
    | '~' :: '~' :: rest => operator .differ rest
    | '[' :: rest =>
      match namedClass? mode rest with
      | some (named, rest) => setItems mode fuel pending (made.either named) rest
      | none =>
        let (negated, first, rest) := setStart mode rest
        match setItems mode fuel none first rest with
        | none => none
        | some (inner, rest) =>
          match setEnd mode negated inner with
          | none => none
          | some inner => setItems mode fuel pending (made.either inner) rest
    | chars =>
      match setItem mode chars with
      | none => none
      | some (item, rest) => setItems mode fuel pending (made.either item) rest

def set (mode : Mode) (chars : List Char) : Option (CharClass × Rest) :=
  let (negated, first, rest) := setStart mode chars
  (setItems mode (chars.length + 1) none first rest).bind fun (made, rest) =>
    (setEnd mode negated made).map fun made => (made, rest)

structure Bounds where
  least : Nat
  most : Option Nat

-- A number of 32 bits with blanks around it; none inside if there is no digit.
def count? (mode : Mode) (chars : List Char) : Option (Option Nat × Rest) :=
  let chars := chars.dropWhile isBlank
  let digits := chars.takeWhile Char.isDigit
  let rest := mode.skip ((chars.dropWhile Char.isDigit).dropWhile isBlank)
  if digits = [] then some (none, rest)
  else (Numeral.unsigned? (2 ^ 32) (String.ofList digits)).map fun count => (some count, rest)

def ordered (bounds : Bounds) : Bool := bounds.most.all (bounds.least ≤ ·)

def bounds? (mode : Mode) (chars : List Char) : Option (Bounds × Rest) :=
  let found : Option (Bounds × Rest) :=
    match count? mode (mode.skip chars) with
    | some (some least, ',' :: rest) =>
      match mode.skip rest with
      | '}' :: rest => some (⟨least, none⟩, '}' :: rest)
      | rest =>
        match count? mode rest with
        | some (some most, rest) => some (⟨least, some most⟩, rest)
        | _ => none
    | some (some count, rest) => some (⟨count, some count⟩, rest)
    | _ => none
  match found with
  | some (bounds, '}' :: rest) => if ordered bounds then some (bounds, mode.skip rest) else none
  | _ => none

-- A question mark behind a repetition asks for as few as possible, which is all the same here.
def anyway : List Char → Rest
  | '?' :: rest => rest
  | rest => rest

def Mode.switch? (mode : Mode) (on : Bool) (c : Char) : Option Mode :=
  match c with
  | 'i' => some { mode with caseless := on }
  | 'm' => some { mode with multiline := on }
  | 's' => some { mode with dotAll := on }
  | 'R' => some { mode with returns := on }
  | 'u' => some { mode with ascii := !on }
  | 'x' => some { mode with spaced := on }
  -- Which repetitions are greedy does not matter here.
  | 'U' => some mode
  | _ => none

-- What an opening parenthesis begins: a group, or only a change of mode inside the present one.
inductive Opening where
  | group (mode : Mode) (name : Option (List Char))
  | change (mode : Mode)

-- Switches, each at most once, off behind a hyphen; `seen` lists them, last first.
def switches (mode : Mode) (seen : List Char) : List Char → Option (Opening × Rest)
  | [] => none
  | c :: rest =>
    if c = ':' then (if seen.head? = some '-' then none else some (.group mode none, rest))
    else if c = ')' then
      (if seen = [] ∨ seen.head? = some '-' then none else some (.change mode, rest))
    else if seen.contains c then none
    else if c = '-' then switches mode ('-' :: seen) rest
    else (mode.switch? (!seen.contains '-') c).bind fun mode => switches mode (c :: seen) rest

def isNameChar (first : Bool) (c : Char) : Bool :=
  let category := Category.of c
  c == '_' || [.lu, .ll, .lt, .lm, .lo, .nl].contains category ||
    (!first && ([.nd, .no].contains category || ['.', '[', ']'].contains c))

def groupName (mode : Mode) (chars : List Char) : Option (Opening × Rest) :=
  match chars.takeWhile (· ≠ '>'), chars.dropWhile (· ≠ '>') with
  | first :: others, _ :: rest =>
    if isNameChar true first && others.all (isNameChar false) then
      some (.group mode (some (first :: others)), rest)
    else none
  | _, _ => none

def opening (mode : Mode) (chars : List Char) : Option (Opening × Rest) :=
  match mode.skip chars with
  | '?' :: 'P' :: '<' :: rest => groupName mode rest
  | '?' :: '<' :: rest => groupName mode rest
  | '?' :: rest => switches mode [] rest
  | rest => some (.group mode none, rest)

structure Level where
  -- The choices before the present one, last first.
  choices : List Pattern
  -- What the present choice has so far, last first; none for a change of mode.
  items : List (Option Pattern)
  -- To go back to behind the group.
  outer : Mode

namespace Level

def start (outer : Mode) : Level := ⟨[], [], outer⟩

def present (level : Level) : Pattern :=
  level.items.foldl (fun behind item =>
    match item with
    | none => behind
    | some pattern => .seq pattern behind) .empty

def pattern (level : Level) : Pattern :=
  level.choices.foldl (fun others choice => .alt choice others) level.present

def push (level : Level) (pattern : Pattern) : Level :=
  { level with items := some pattern :: level.items }

def choose (level : Level) : Level :=
  { level with choices := level.present :: level.choices, items := [] }

def repeated? (level : Level) (bounds : Bounds) : Option Level :=
  match level.items with
  | some pattern :: items =>
    some { level with items := some (.times pattern bounds.least bounds.most) :: items }
  | _ => none

end Level

def Mode.literal? (mode : Mode) (code : Nat) : Option Pattern :=
  if mode.ascii && mode.caseless && 0x7f < code then none
  else some (.one (mode.fold (.span code code)))

def Mode.point? (mode : Mode) : Option Pattern :=
  if mode.ascii then none
  else if mode.dotAll then some (.one .all)
  else if mode.returns then some (.one (.except (.either (.one '\r') (.one '\n'))))
  else some (.one (.except (.one '\n')))

def Atom.pattern? (mode : Mode) : Atom → Option Pattern
  | .literal code => mode.literal? code
  | .made found => some (.one found)
  | .spot found => some (.place found)

def single (mode : Mode) (c : Char) (rest : List Char) : Option (Pattern × Rest) :=
  match c with
  | '\\' => (escape mode rest).bind fun (atom, rest) => (atom.pattern? mode).map (·, rest)
  | '[' => (set mode rest).map fun (made, rest) => (.one made, rest)
  | '.' => mode.point?.map (·, rest)
  | '^' => some (.place (if mode.multiline then .lineStart mode.returns else .textStart), rest)
  | '$' => some (.place (if mode.multiline then .lineEnd mode.returns else .textEnd), rest)
  | c => (mode.literal? c.toNat).map (·, rest)

-- The groups that are open around the present one, innermost first, and the names given so far.
def groups (mode : Mode) (names : List (List Char)) (level : Level) (around : List Level) :
    Nat → List Char → Option Pattern
  | 0, _ => none
  | fuel + 1, chars =>
    let again (level : Level) (rest : Rest) := groups mode names level around fuel rest
    match mode.skip chars with
    | [] => if around.isEmpty then some level.pattern else none
    | '(' :: rest =>
      match opening mode rest with
      | none => none
      | some (.change mode, rest) =>
        groups mode names { level with items := none :: level.items } around fuel rest
      | some (.group inner name, rest) =>
        if name.any names.contains then none
        else groups inner (name.toList ++ names) (.start mode) (level :: around) fuel rest
    | ')' :: rest =>
      match around with
      | [] => none
      | outside :: around =>
        groups level.outer names (outside.push level.pattern) around fuel rest
    | '|' :: rest => again level.choose rest
    | '*' :: rest => (level.repeated? ⟨0, none⟩).bind (again · (anyway rest))
    | '+' :: rest => (level.repeated? ⟨1, none⟩).bind (again · (anyway rest))
    | '?' :: rest => (level.repeated? ⟨0, some 1⟩).bind (again · (anyway rest))
    | '{' :: rest =>
      match bounds? mode rest with
      | none => none
      | some (bounds, rest) => (level.repeated? bounds).bind (again · (anyway rest))
    | c :: rest =>
      match single mode c rest with
      | none => none
      | some (pattern, rest) => again (level.push pattern) rest

end PageStream.Pattern.Parser

namespace PageStream.Pattern

-- Patterns beyond this weight are refused.
def heaviest : Nat := 2 ^ 18

def parse? (text : String) : Option Pattern :=
  let chars := text.toList
  (Parser.groups {} [] (.start {}) [] (chars.length + 1) chars).filter (·.weight ≤ heaviest)

end PageStream.Pattern
