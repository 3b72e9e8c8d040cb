import Mathlib.Data.List.DropRight
import PageStream.Settings

namespace PageStream

namespace Text

-- What is left of a text when the white space at its two ends is gone.
structure Trims (chars core : List Char) : Prop where
  inside : ∃ before after, chars = before ++ (core ++ after) ∧
    (∀ c ∈ before, isBlank c = true) ∧ ∀ c ∈ after, isBlank c = true
  head : ∀ c, core.head? = some c → isBlank c = false
  last : ∀ c, core.getLast? = some c → isBlank c = false

theorem trimList_eq (chars : List Char) :
    trimList chars = (chars.dropWhile isBlank).rdropWhile isBlank := rfl

theorem dropWhile_head {chars rest : List Char} {c : Char}
    (starts : chars.dropWhile isBlank = c :: rest) : isBlank c = false := by
  have solid := List.head?_dropWhile_not isBlank chars
  rw [starts] at solid
  exact solid

theorem rdropWhile_behind {chars after : List Char} (blank : ∀ c ∈ after, isBlank c = true) :
    (chars ++ after).rdropWhile isBlank = chars.rdropWhile isBlank := by
  unfold List.rdropWhile
  rw [List.reverse_append, List.dropWhile_append_of_pos]
  intro c member
  exact blank c (List.mem_reverse.mp member)

theorem trimList_trims (chars : List Char) : Trims chars (trimList chars) := by
  rw [trimList_eq]
  obtain ⟨after, whole⟩ := List.rdropWhile_prefix isBlank (chars.dropWhile isBlank)
  refine ⟨⟨chars.takeWhile isBlank, (chars.dropWhile isBlank).rtakeWhile isBlank, ?_, ?_, ?_⟩,
    ?head, ?last⟩
  · rw [List.rdropWhile_append_rtakeWhile, List.takeWhile_append_dropWhile]
  · exact fun c => List.mem_takeWhile_imp
  · exact fun c => List.mem_rtakeWhile_imp
  case head =>
    intro c head
    obtain ⟨rest, starts⟩ := List.head?_eq_some_iff.mp head
    rw [starts] at whole
    exact dropWhile_head whole.symm
  case last =>
    intro c last
    have filled : (chars.dropWhile isBlank).rdropWhile isBlank ≠ [] := by
      intro nothing
      rw [nothing] at last
      cases last
    have solid := List.rdropWhile_last_not isBlank _ filled
    rw [List.getLast?_eq_some_getLast filled] at last
    cases last
    exact Bool.eq_false_iff.mpr solid

theorem Trims.exact {chars core : List Char} (trims : Trims chars core) :
    trimList chars = core := by
  obtain ⟨⟨before, after, rfl, front, back⟩, head, last⟩ := trims
  rw [trimList_eq, List.dropWhile_append_of_pos front]
  cases core with
  | nil =>
    rw [List.nil_append, List.dropWhile_eq_nil_iff.mpr back]
    rfl
  | cons c rest =>
    have solid := head c rfl
    rw [List.cons_append, List.dropWhile_cons_of_neg (by rw [solid]; exact Bool.false_ne_true),
      ← List.cons_append, rdropWhile_behind back, List.rdropWhile_eq_self_iff]
    intro filled blank
    rw [last _ (List.getLast?_eq_some_getLast filled)] at blank
    cases blank

theorem trim_iff {text core : String} : trim text = core ↔ Trims text.toList core.toList := by
  constructor
  · intro trimmed
    subst trimmed
    unfold trim
    rw [String.toList_ofList]
    exact trimList_trims text.toList
  · intro trims
    unfold trim
    rw [trims.exact, String.ofList_toList]

namespace Numeral

def digitValue (c : Char) : Nat := c.toNat - '0'.toNat

-- The number that digits write, each worth ten times as much as if it stood one place later.
def value : List Char → Nat
  | [] => 0
  | c :: rest => 10 ^ rest.length * digitValue c + value rest

-- ASCII digits, at least one, after a plus sign or none.
def Spells (text : String) (number : Nat) : Prop :=
  ∃ sign digits : List Char, text.toList = sign ++ digits ∧ (sign = [] ∨ sign = ['+']) ∧
    digits ≠ [] ∧ (∀ c ∈ digits, c.isDigit = true) ∧ number = value digits

theorem digit?_iff {c : Char} {digit : Nat} :
    digit? c = some digit ↔ c.isDigit = true ∧ digit = digitValue c := by
  have range : c.isDigit = true ↔ '0' ≤ c ∧ c ≤ '9' := by
    unfold Char.isDigit
    rw [Bool.and_eq_true, decide_eq_true_iff, decide_eq_true_iff]
    rfl
  unfold digit?
  rw [range]
  split
  · rename_i inside
    rw [and_iff_right inside, Option.some_inj, eq_comm]
    rfl
  · rename_i outside
    constructor
    · intro impossible
      cases impossible
    · intro claimed
      exact absurd claimed.1 outside

theorem digits?_iff {chars : List Char} {before number : Nat} :
    digits? chars before = some number ↔ (∀ c ∈ chars, c.isDigit = true) ∧
      number = 10 ^ chars.length * before + value chars := by
  induction chars generalizing before with
  | nil =>
    have nothing : 10 ^ ([] : List Char).length * before + value [] = before := by simp [value]
    rw [nothing, digits?, Option.some_inj, eq_comm]
    simp
  | cons c rest ih =>
    have places (digit : Nat) : 10 ^ rest.length * (10 * before + digit) =
        10 ^ (c :: rest).length * before + 10 ^ rest.length * digit := by
      rw [List.length_cons, Nat.pow_succ, Nat.mul_add, Nat.mul_assoc]
    rw [value, digits?, Option.bind_eq_some_iff, List.forall_mem_cons, ← Nat.add_assoc,
      ← places, and_assoc]
    constructor
    · intro read
      obtain ⟨digit, first, others⟩ := read
      obtain ⟨good, rfl⟩ := digit?_iff.mp first
      exact ⟨good, ih.mp others⟩
    · intro spelt
      obtain ⟨good, others⟩ := spelt
      exact ⟨_, digit?_iff.mpr ⟨good, rfl⟩, ih.mpr others⟩

theorem magnitude?_iff {chars : List Char} {number : Nat} :
    magnitude? chars = some number ↔
      chars ≠ [] ∧ (∀ c ∈ chars, c.isDigit = true) ∧ number = value chars := by
  cases chars with
  | nil => simp [magnitude?]
  | cons c rest =>
    change digits? (c :: rest) 0 = some number ↔ _
    rw [digits?_iff, Nat.mul_zero, Nat.zero_add]
    simp

theorem unsigned?_iff {bound : Nat} {text : String} {number : Nat} :
    unsigned? bound text = some number ↔ Spells text number ∧ number < bound := by
  unfold unsigned? Spells
  simp only [Option.filter_eq_some_iff, decide_eq_true_eq, magnitude?_iff]
  apply and_congr_left
  intro _
  split
  · rename_i rest signed
    rw [signed]
    constructor
    · intro spelt
      exact ⟨['+'], rest, rfl, .inr rfl, spelt⟩
    · intro spelt
      obtain ⟨sign, digits, same, rfl | rfl, filled, good, number⟩ := spelt
      · rw [List.nil_append] at same
        subst same
        have impossible := good '+' List.mem_cons_self
        cases impossible
      · cases same
        exact ⟨filled, good, number⟩
  · rename_i unsigned
    constructor
    · intro spelt
      exact ⟨[], text.toList, rfl, .inl rfl, spelt⟩
    · intro signed
      obtain ⟨sign, digits, same, rfl | rfl, spelt⟩ := signed
      · rw [same]
        exact spelt
      · exact absurd same (unsigned digits)

end Numeral

end Text

namespace Variable

def Gives (v : Variable) (core : String) : Prop :=
  ∃ text : String, v = .text text ∧ Text.Trims text.toList core.toList

theorem trimmed?_iff {v : Variable} {core : String} : v.trimmed? = some core ↔ v.Gives core := by
  unfold Gives
  cases v with
  | unset => simp [trimmed?, text?]
  | undecodable => simp [trimmed?, text?]
  | text value =>
    unfold trimmed? text?
    rw [Option.map_some, Option.some_inj, Text.trim_iff]
    simp

end Variable

def ContainerMode.words : ContainerMode → List String
  | .auto => ["auto"]
  | .required => ["required", "require"]
  | .absent => ["none", "absent", "off"]

def Variable.yes : List String := ["1", "true", "yes", "on"]

def Variable.TellsYes (v : Variable) : Prop := ∃ core, v.Gives core ∧ Text.lower core ∈ yes

theorem Variable.unsigned?_iff {v : Variable} {bound number : Nat} :
    v.unsigned? bound = some number ↔
      ∃ core, v.Gives core ∧ Text.Numeral.Spells core number ∧ number < bound := by
  unfold unsigned?
  simp only [Option.bind_eq_some_iff, trimmed?_iff, Text.Numeral.unsigned?_iff]

theorem Variable.flag?_iff {v : Variable} : v.flag? = some true ↔ v.TellsYes := by
  unfold flag? TellsYes yes
  simp only [Option.map_eq_some_iff, trimmed?_iff, List.contains_iff_mem]

theorem ContainerMode.ofText?_iff {text : String} {mode : ContainerMode} :
    ofText? text = some mode ↔ Text.lower (Text.trim text) ∈ mode.words := by
  unfold ofText? normalized
  generalize Text.lower (Text.trim text) = word
  dsimp only
  split
  · rename_i same
    subst same
    cases mode <;> simp [words]
  · split
    · rename_i same
      rcases same with rfl | rfl <;> cases mode <;> simp [words]
    · split
      · rename_i same
        rcases same with rfl | rfl | rfl <;> cases mode <;> simp [words]
      · cases mode <;> simp_all [words]

end PageStream
