import PageStream.Pattern.Parser

namespace PageStream.CommandLine

inductive Threshold where
  | off
  | error
  | warn
  | info
  | debug
  | trace
  deriving DecidableEq

def Threshold.ofText? (text : String) : Option Threshold :=
  [("off", .off), ("error", .error), ("warn", .warn), ("info", .info), ("debug", .debug),
    ("trace", .trace)].lookup (Text.lower text)

structure Directive where
  -- None for every target, which is not the same directive as one with an empty name.
  target : Option (List Char)
  threshold : Threshold

structure LogFilter where
  directives : List Directive
  pattern : Option Pattern

def splitAt (separator : Char) : List Char → List (List Char)
  | [] => [[]]
  | c :: rest =>
    match splitAt separator rest with
    | [] => [[c]]
    | part :: parts => if c = separator then [] :: part :: parts else (c :: part) :: parts

namespace Directive

def name (directive : Directive) : List Char := directive.target.getD []

-- A threshold alone holds for every target, a target alone lets everything through; what is neither
-- is left out.
def ofText? (chars : List Char) : Option Directive :=
  match splitAt '=' (Text.trimList chars) with
  | [[]] => none
  | [only] =>
    match Threshold.ofText? (String.ofList only) with
    | some threshold => some ⟨none, threshold⟩
    | none => some ⟨some only, .trace⟩
  | [target, value] =>
    let value := Text.trimList value
    if value = [] then some ⟨some target, .trace⟩
    else (Threshold.ofText? (String.ofList value)).map (⟨some target, ·⟩)
  | _ => none

def insert (directives : List Directive) (directive : Directive) : List Directive :=
  if directives.any (·.target == directive.target) then
    directives.map fun other => if other.target = directive.target then directive else other
  else directives ++ [directive]

-- Of two directives that apply the one with the longer name counts, of two names of one length the
-- later one.
def longest (best : Option Directive) (directive : Directive) : Option Directive :=
  match best with
  | none => some directive
  | some best => if best.name.length ≤ directive.name.length then some directive else some best

end Directive

namespace LogFilter

def directivesOf (chars : List Char) : List Directive :=
  ((splitAt ',' chars).filterMap Directive.ofText?).foldl Directive.insert []

-- With more than one slash nothing of the text counts, and neither does a pattern that is none.
def ofText (text : String) : LogFilter :=
  match splitAt '/' text.toList with
  | [directives] => ⟨directivesOf directives, none⟩
  | [directives, pattern] => ⟨directivesOf directives, Pattern.parse? (String.ofList pattern)⟩
  | _ => ⟨[], none⟩

-- Whether errors told by the target are let through at all; they are where nothing is said.
def enables (filter : LogFilter) (target : String) : Bool :=
  if filter.directives.isEmpty then true else
  match (filter.directives.filter fun d => d.name.isPrefixOf target.toList).foldl
      Directive.longest none with
  | none => false
  | some directive => directive.threshold ≠ .off

def admitsError (filter : LogFilter) (target message : String) : Bool :=
  filter.enables target && filter.pattern.all (·.occursIn message)

end LogFilter

end PageStream.CommandLine
