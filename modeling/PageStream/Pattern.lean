import PageStream.Pattern.CharClass

namespace PageStream.Pattern

inductive Spot where
  | textStart
  | textEnd
  -- The flag says whether a carriage return ends a line too, alone or before a line feed.
  | lineStart (returns : Bool)
  | lineEnd (returns : Bool)
  -- The class says what a word is made of; the first flag whether one has to be before the place, the
  -- second whether one has to be behind it, none if that does not matter.
  | word (made : CharClass) (before behind : Option Bool)
  -- A word on one side only, or on both or neither.
  | edge (made : CharClass) (wanted : Bool)

end PageStream.Pattern

namespace PageStream

inductive Pattern where
  | empty
  | one (made : Pattern.CharClass)
  | place (spot : Pattern.Spot)
  | seq (first second : Pattern)
  | alt (left right : Pattern)
  | times (inner : Pattern) (least : Nat) (most : Option Nat)

namespace Pattern

abbrev Places := List Nat

def merge : Places → Places → Places
  | [], right => right
  | left, [] => left
  | a :: left, b :: right =>
    if a < b then a :: merge left (b :: right)
    else if b < a then b :: merge (a :: left) right
    else a :: merge left right

def Spot.holds (text : Array Nat) (place : Nat) (spot : Spot) : Bool :=
  let before := if place = 0 then none else text[place - 1]?
  let behind := text[place]?
  let isIn (made : CharClass) (side : Option Nat) : Bool := side.any made.has
  match spot with
  | .textStart => before.isNone
  | .textEnd => behind.isNone
  | .lineStart returns =>
    before.isNone || before == some 0x0a ||
      (returns && before == some 0x0d && behind != some 0x0a)
  | .lineEnd returns =>
    behind.isNone || (behind == some 0x0a && !(returns && before == some 0x0d)) ||
      (returns && behind == some 0x0d)
  | .word made wanted other =>
    wanted.all (· == isIn made before) && other.all (· == isIn made behind)
  | .edge made wanted => (isIn made before != isIn made behind) == wanted

-- Exactly `count` steps; once a step changes nothing, no later one does.
def iterate (step : Places → Places) : Nat → Places → Places
  | 0, places => places
  | count + 1, places =>
    let after := step places
    if after = places then places else iterate step count after

-- Every place that at most `count` steps lead to. Only places that are new can lead to further ones.
def spread (step : Places → Places) : Nat → Places → Places → Places
  | 0, seen, _ => seen
  | count + 1, seen, latest =>
    match (step latest).filter (!seen.contains ·) with
    | [] => seen
    | new => spread step count (merge seen new) new

-- A step that goes on moves by a character at least, so there are no more of them than characters.
def reach (text : Array Nat) : Pattern → Places → Places
  | .empty, places => places
  | .one made, places =>
    places.filterMap fun place => if text[place]?.any made.has then some (place + 1) else none
  | .place spot, places => places.filter fun place => spot.holds text place
  | .seq first second, places => reach text second (reach text first places)
  | .alt left right, places => merge (reach text left places) (reach text right places)
  | .times inner least most, places =>
    let more := (most.map (· - least)).getD text.size
    let places := iterate (reach text inner) least places
    spread (reach text inner) (min more text.size) places places

def occursIn (pattern : Pattern) (text : String) : Bool :=
  let codes := (text.toList.map Char.toNat).toArray
  !(pattern.reach codes (List.range (codes.size + 1))).isEmpty

-- How large the pattern is when each repetition is written out.
def weight : Pattern → Nat
  | .empty | .one _ | .place _ => 1
  | .seq first second => first.weight + second.weight
  | .alt left right => left.weight + right.weight
  | .times inner least most => 1 + inner.weight * max 1 (max least (most.getD 0))

end Pattern

end PageStream
