namespace PageStream.Container

inductive Compression where
  | raw
  | xz
  | cloudlet
  | unknown (code : Nat)
  deriving DecidableEq

namespace Compression

def ofCode : Nat → Compression
  | 0 => .raw
  | 3 => .xz
  | 4 => .cloudlet
  | code => .unknown code

def code : Compression → Nat
  | .raw => 0
  | .xz => 3
  | .cloudlet => 4
  | .unknown code => code

def name : Compression → String
  | .raw => "raw"
  | .xz => "xz"
  | .cloudlet => "cloudlet"
  | .unknown code => s!"unknown({code})"

theorem code_ofCode (n : Nat) : (ofCode n).code = n := by
  unfold ofCode; split <;> rfl

end Compression

end PageStream.Container
