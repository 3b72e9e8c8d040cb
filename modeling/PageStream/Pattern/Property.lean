import PageStream.Pattern.CharClass

namespace PageStream.Pattern.Property

open PageStream.Text

-- How names are compared: letter case, blanks, hyphens and underscores do not count, nor does a
-- leading `is`.
def normalized (name : List Char) : String :=
  let kept := (name.filter fun c => c.toNat < 0x80 ∧ ¬[' ', '-', '_'].contains c).map lowerAscii
  match kept with
  | 'i' :: 's' :: rest => if rest = ['c'] then "isc" else String.ofList rest
  | _ => String.ofList kept

def groups : List (List String × List Category) := [
  (["l", "letter"], [.lu, .ll, .lt, .lm, .lo]),
  (["lc", "casedletter"], [.lu, .ll, .lt]),
  (["lu", "uppercaseletter"], [.lu]),
  (["ll", "lowercaseletter"], [.ll]),
  (["lt", "titlecaseletter"], [.lt]),
  (["lm", "modifierletter"], [.lm]),
  (["lo", "otherletter"], [.lo]),
  (["m", "mark", "combiningmark"], [.mn, .mc, .me]),
  (["mn", "nonspacingmark"], [.mn]),
  (["mc", "spacingmark"], [.mc]),
  (["me", "enclosingmark"], [.me]),
  (["n", "number"], [.nd, .nl, .no]),
  (["nd", "decimalnumber", "digit"], [.nd]),
  (["nl", "letternumber"], [.nl]),
  (["no", "othernumber"], [.no]),
  (["p", "punctuation", "punct"], [.pc, .pd, .ps, .pe, .pi, .pf, .po]),
  (["pc", "connectorpunctuation"], [.pc]),
  (["pd", "dashpunctuation"], [.pd]),
  (["ps", "openpunctuation"], [.ps]),
  (["pe", "closepunctuation"], [.pe]),
  (["pi", "initialpunctuation"], [.pi]),
  (["pf", "finalpunctuation"], [.pf]),
  (["po", "otherpunctuation"], [.po]),
  (["s", "symbol"], [.sm, .sc, .sk, .so]),
  (["sm", "mathsymbol"], [.sm]),
  (["sc", "currencysymbol"], [.sc]),
  (["sk", "modifiersymbol"], [.sk]),
  (["so", "othersymbol"], [.so]),
  (["z", "separator"], [.zs, .zl, .zp]),
  (["zs", "spaceseparator"], [.zs]),
  (["zl", "lineseparator"], [.zl]),
  (["zp", "paragraphseparator"], [.zp]),
  (["c", "other"], [.cc, .cf, .cs, .co, .cn]),
  (["cc", "control", "cntrl"], [.cc]),
  (["cf", "format"], [.cf]),
  (["cs", "surrogate"], [.cs]),
  (["co", "privateuse"], [.co]),
  (["cn", "unassigned"], [.cn])]

def category? (name : String) : Option CharClass :=
  if name = "any" then some .all
  else if name = "ascii" then some .ascii
  else if name = "assigned" then some (.except (.among [.cn]))
  else (groups.find? fun group => group.1.contains name).map fun group => .among group.2

def binary? (name : List Char) : Option CharClass :=
  let name := normalized name
  if ["whitespace", "wspace", "space"].contains name then some .blank else category? name

def valued? (property value : List Char) : Option CharClass :=
  if ["gc", "generalcategory"].contains (normalized property) then category? (normalized value)
  else none

def cutAt (separator : List Char) : List Char → Option (List Char × List Char)
  | [] => none
  | c :: rest =>
    if separator.isPrefixOf (c :: rest) then some ([], (c :: rest).drop separator.length)
    else (cutAt separator rest).map fun (before, after) => (c :: before, after)

def ofText? (text : List Char) : Option CharClass :=
  match cutAt ['!', '='] text with
  | some (property, value) => (valued? property value).map .except
  | none =>
    match (cutAt [':'] text).or (cutAt ['='] text) with
    | some (property, value) => valued? property value
    | none => binary? text

end PageStream.Pattern.Property
