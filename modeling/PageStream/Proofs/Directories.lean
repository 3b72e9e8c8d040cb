import PageStream.Proofs.Images

namespace PageStream

theorem toOption_some {ε α : Type} {result : Except ε α} {value : α} :
    result.toOption = some value ↔ result = .ok value := by
  cases result <;> simp [Except.toOption]

namespace Directory

-- Two directories that hold the same, but for what is no directory in either of them.
structure Beside (place : Place) (one two : Directory) : Prop where
  elsewhere : ∀ other, other ≠ place → two.entry? other = one.entry? other
  before : one.entry? place ≠ some .directory
  now : two.entry? place ≠ some .directory

namespace Beside

variable {place : Place} {one two : Directory}

theorem trans {three : Directory} (first : Beside place one two) (second : Beside place two three) :
    Beside place one three := by
  refine ⟨?_, first.before, second.now⟩
  intro other apart
  rw [second.elsewhere other apart, first.elsewhere other apart]

theorem directory_iff (beside : Beside place one two) (other : Place) :
    two.entry? other = some .directory ↔ one.entry? other = some .directory := by
  by_cases here : other = place
  · subst here
    exact iff_of_false beside.now beside.before
  · rw [beside.elsewhere other here]

end Beside

theorem resolve_relative (directory : Directory) {path : String} {c : Char} {chars : List Char}
    (spelled : path.toList = c :: chars) (relative : c ≠ '/') (plain : '\x00' ∉ c :: chars)
    (short : path.utf8ByteSize ≤ longestPath) :
    directory.resolve path = (directory.walk [] (pathNames (c :: chars))).map
      (·, (c :: chars).getLast? == some '/') := by
  have named : path.contains '\x00' = false := by
    rw [String.contains_char_eq, spelled]
    exact decide_eq_false plain
  rw [resolve, named, spelled, if_neg Bool.false_ne_true, if_neg (Nat.not_lt.mpr short)]
  split
  · rename_i nothing
    cases nothing
  · rename_i absolute
    cases absolute
    exact absurd rfl relative
  · rfl

def named (directory : Directory) (place : Place) (asDirectory : Bool) : Option Entry :=
  Option.filter (fun entry => entry = .directory ∨ asDirectory = false) (directory.entry? place)

theorem lookUp_toOption (directory : Directory) (path : String) :
    (directory.lookUp path).toOption =
      (directory.resolve path).toOption.bind fun found => directory.named found.1 found.2 := by
  unfold lookUp
  cases directory.resolve path with
  | error fault => rfl
  | ok found =>
    obtain ⟨place, asDirectory⟩ := found
    simp only [named, Except.toOption, Option.bind_some]
    cases directory.entry? place with
    | none => rfl
    | some entry =>
      cases entry with
      | directory => simp [Option.filter]
      | file content => cases asDirectory <;> simp [Option.filter]

theorem walk_stuck {directory : Directory} {place : Place}
    (stuck : directory.entry? place ≠ some .directory) (c : Char) (name : List Char)
    (rest : List (List Char)) :
    (directory.walk place ((c :: name) :: rest)).toOption = none := by
  unfold walk
  split
  · rfl
  · rfl
  · rename_i found
    exact absurd found stuck

theorem walk_on {directory : Directory} {place : Place}
    (found : directory.entry? place = some .directory) (c : Char) (name : List Char)
    (rest : List (List Char)) :
    directory.walk place ((c :: name) :: rest) =
      if c :: name = ['.'] then directory.walk place rest
      else if c :: name = ['.', '.'] then directory.walk (parentOf place) rest
      else if longestName < (String.ofList (c :: name)).utf8ByteSize then .error .longName
      else directory.walk (place ++ [String.ofList (c :: name)]) rest := by
  simp only [walk, found]

namespace Beside

variable {place : Place} {one two : Directory}

theorem walk (beside : Beside place one two) (start : Place) (names : List (List Char)) :
    (two.walk start names).toOption = (one.walk start names).toOption := by
  induction names generalizing start with
  | nil => rfl
  | cons name rest ih =>
    cases name with
    | nil => exact ih start
    | cons c name =>
      by_cases found : one.entry? start = some .directory
      · rw [walk_on found, walk_on ((beside.directory_iff start).mpr found)]
        split
        · exact ih start
        · split
          · exact ih (parentOf start)
          · split
            · rfl
            · exact ih _
      · have blocked : two.entry? start ≠ some .directory := by
          rwa [ne_eq, beside.directory_iff start]
        rw [walk_stuck found, walk_stuck blocked]

theorem resolve (beside : Beside place one two) (path : String) :
    (two.resolve path).toOption = (one.resolve path).toOption := by
  have map {α β : Type} {f : α → β} {a b : Except DeviceFault α}
      (same : b.toOption = a.toOption) : (b.map f).toOption = (a.map f).toOption := by
    cases a <;> cases b <;> cases same <;> rfl
  unfold Directory.resolve
  split
  · rfl
  · split
    · rfl
    · split
      · rfl
      · exact map (beside.walk rootPlace _)
      · exact map (beside.walk [] _)

-- Whether a path names something, and what, unless it leads to where the two differ.
theorem lookUp (beside : Beside place one two) {path : String}
    (distinct : ∀ asDirectory, one.resolve path ≠ .ok (place, asDirectory)) :
    (two.lookUp path).toOption = (one.lookUp path).toOption := by
  rw [lookUp_toOption, lookUp_toOption, beside.resolve]
  cases leads : (one.resolve path).toOption with
  | none => rfl
  | some found =>
    obtain ⟨other, asDirectory⟩ := found
    have apart : other ≠ place := by
      rintro rfl
      exact distinct asDirectory (toOption_some.mp leads)
    simp only [Option.bind_some, named, beside.elsewhere other apart]

end Beside

theorem createImage_anew (old : Bytes) :
    createImage ⟨[(["image.bin"], .file old)], []⟩ "image.bin" =
      .ok (["image.bin"], ⟨[(["image.bin"], .file [])], [["image.bin"]]⟩) := by
  have spelled : "image.bin".toList = ['i', 'm', 'a', 'g', 'e', '.', 'b', 'i', 'n'] := rfl
  have leads : resolve ⟨[(["image.bin"], .file old)], []⟩ "image.bin" =
      .ok (["image.bin"], false) :=
    resolve_relative _ spelled (by decide) (by decide) (by decide)
  rw [createImage, creationPlace, leads]
  rfl

end Directory

end PageStream
