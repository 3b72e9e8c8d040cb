namespace PageStream.Text.Numeral

def digit? (c : Char) : Option Nat :=
  if '0' ≤ c ∧ c ≤ '9' then some (c.toNat - '0'.toNat) else none

def digits? : List Char → Nat → Option Nat
  | [], value => some value
  | c :: rest, value => (digit? c).bind fun d => digits? rest (10 * value + d)

def magnitude? : List Char → Option Nat
  | [] => none
  | chars => digits? chars 0

-- A number below `bound`; a plus sign may precede it, a minus sign may not, even before zero.
def unsigned? (bound : Nat) (text : String) : Option Nat :=
  let body := match text.toList with
    | '+' :: rest => rest
    | chars => chars
  (magnitude? body).filter (· < bound)

def signed? (bound : Nat) (text : String) : Option Int :=
  match text.toList with
  | '-' :: rest => ((magnitude? rest).filter (· ≤ bound)).map fun n => -(n : Int)
  | '+' :: rest => ((magnitude? rest).filter (· < bound)).map Int.ofNat
  | chars => ((magnitude? chars).filter (· < bound)).map Int.ofNat

def hexDigits (n : Nat) : String := String.ofList (Nat.toDigits 16 n)

def hex (n : Nat) : String := "0x" ++ hexDigits n

def hex16 (n : Nat) : String :=
  let digits := Nat.toDigits 16 n
  "0x" ++ String.ofList (List.replicate (16 - digits.length) '0' ++ digits)

end PageStream.Text.Numeral
