import PageStream.Text.Blank
import PageStream.Text.Numeral
import PageStream.Text.Utf8

namespace PageStream

inductive Variable where
  | unset
  | text (value : String)
  -- Set, but not to a text.
  | undecodable
  deriving DecidableEq

namespace Variable

def ofBytes (bytes : Bytes) : Variable :=
  match Text.Utf8.text? bytes with
  | some value => .text value
  | none => .undecodable

def text? : Variable → Option String
  | .text value => some value
  | _ => none

def trimmed? (v : Variable) : Option String := v.text?.map Text.trim

-- Whether the value says yes; anything else that is a text says no.
def flag? (v : Variable) : Option Bool :=
  v.trimmed?.map fun value => ["1", "true", "yes", "on"].contains (Text.lower value)

def unsigned? (bound : Nat) (v : Variable) : Option Nat :=
  v.trimmed?.bind (Text.Numeral.unsigned? bound)

def signed? (bound : Nat) (v : Variable) : Option Int :=
  v.trimmed?.bind (Text.Numeral.signed? bound)

def bool? (v : Variable) : Option Bool :=
  match v.trimmed? with
  | some "true" => some true
  | some "false" => some false
  | _ => none

def char? (v : Variable) : Option Char :=
  match v.trimmed?.map String.toList with
  | some [c] => some c
  | _ => none

end Variable

abbrev Environment := List (String × Variable)

def Environment.get (environment : Environment) (name : String) : Variable :=
  (environment.lookup name).getD .unset

end PageStream
