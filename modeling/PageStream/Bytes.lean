namespace PageStream

-- A power of a number is Lean's own everywhere, also next to a library that brings another one.
attribute [default_instance 10000, instance (10000)] instPowNat

abbrev Bytes := List UInt8

-- The `width` low bytes of a number; what lies above them is dropped.
def le : Nat → Nat → Bytes
  | 0, _ => []
  | width + 1, n => UInt8.ofNat (n % 256) :: le width (n / 256)

def ofLe : Bytes → Nat
  | [] => 0
  | b :: rest => b.toNat + 256 * ofLe rest

def wordAt (bytes : Bytes) (start width : Nat) : Nat := ofLe ((bytes.drop start).take width)

@[simp] theorem le_length (width n : Nat) : (le width n).length = width := by
  induction width generalizing n with
  | zero => rfl
  | succ width ih => simp [le, ih]

theorem ofLe_lt (bytes : Bytes) : ofLe bytes < 256 ^ bytes.length := by
  induction bytes with
  | nil => simp [ofLe]
  | cons b rest ih =>
    have small : b.toNat < 256 := b.toNat_lt
    simp only [ofLe, List.length_cons, Nat.pow_succ]
    omega

theorem ofLe_le (width n : Nat) : ofLe (le width n) = n % 256 ^ width := by
  induction width generalizing n with
  | zero => simp [le, ofLe, Nat.mod_one]
  | succ width ih =>
    have low : (UInt8.ofNat (n % 256)).toNat = n % 256 := by
      simp [UInt8.toNat_ofNat']
    rw [le, ofLe, ih, low, Nat.pow_succ', Nat.mod_mul]

theorem le_ofLe (bytes : Bytes) : le bytes.length (ofLe bytes) = bytes := by
  induction bytes with
  | nil => rfl
  | cons b rest ih =>
    have small : b.toNat < 256 := b.toNat_lt
    have low : (b.toNat + 256 * ofLe rest) % 256 = b.toNat := by omega
    have high : (b.toNat + 256 * ofLe rest) / 256 = ofLe rest := by omega
    rw [List.length_cons, ofLe, le, low, high, ih, UInt8.ofNat_toNat]

def dropTrailingZeros (bytes : Bytes) : Bytes := (bytes.reverse.dropWhile (· == 0)).reverse

end PageStream
