import PageStream.Proofs.Stages

namespace PageStream.Container

def announced (buffer : Bytes) : Nat := wordAt buffer descriptorLengthStart 4

-- The header that a buffer's bytes encode, whether or not they are in order.
def Header.ofBytes (tag : Tag) (buffer : Bytes) : Header where
  tag
  version := wordAt buffer versionStart 4
  wasRunning := wordAt buffer runningStart 4 != 0
  compression := .ofCode (wordAt buffer compressionStart 4)
  descriptor := (buffer.drop fixedLength).take (announced buffer)

def Closed (buffer : Bytes) : Prop :=
  1 ≤ announced buffer ∧ buffer[fixedLength + announced buffer - 1]? = some 0

namespace Parser

structure First (parser : Parser) (buffer : Bytes) (tag : Tag) : Prop where
  starts : tag.magic.bytes <+: buffer
  earliest : ∃ before after, parser.tags = before ++ tag :: after ∧
    ∀ other ∈ before, other.magic ≠ tag.magic

structure Sound (parser : Parser) (buffer : Bytes) (tag : Tag) : Prop where
  first : parser.First buffer tag
  version : wordAt buffer versionStart 4 = containerVersion
  reserved : ∀ index < reservedWords, wordAt buffer (reservedStart + 4 * index) 4 = 0

-- The first thing that is wrong before the descriptor.
inductive Flaw (parser : Parser) (buffer : Bytes) : Malformation → Prop where
  | magic (unknown : ¬ parser.Accepts buffer) :
      Flaw parser buffer (.unknownMagic (buffer.take magicLength))
  | version (known : parser.Accepts buffer) {version : Nat}
      (read : wordAt buffer versionStart 4 = version) (other : version ≠ containerVersion) :
      Flaw parser buffer (.unsupportedVersion version)
  | reserved (known : parser.Accepts buffer)
      (version : wordAt buffer versionStart 4 = containerVersion) {index word : Nat}
      (inside : index < reservedWords)
      (read : wordAt buffer (reservedStart + 4 * index) 4 = word) (set : word ≠ 0)
      (clear : ∀ earlier < index, wordAt buffer (reservedStart + 4 * earlier) 4 = 0) :
      Flaw parser buffer (.reservedNotZero index word)

-- The first thing that is wrong. Nothing is wrong with the descriptor before all of it is there.
inductive Refuses (parser : Parser) (buffer : Bytes) : Malformation → Prop where
  | flawed {cause : Malformation} (long : fixedLength ≤ buffer.length)
      (flaw : parser.Flaw buffer cause) : Refuses parser buffer cause
  | unclosed {tag : Tag} (sound : parser.Sound buffer tag)
      (enough : fixedLength + announced buffer ≤ buffer.length) (opened : ¬ Closed buffer) :
      Refuses parser buffer .descriptorUnterminated

inductive Answers (parser : Parser) (buffer : Bytes) : Except Failure (Option Header) → Prop where
  | short (few : buffer.length < fixedLength) : Answers parser buffer (.ok none)
  | waiting {tag : Tag} (sound : parser.Sound buffer tag)
      (few : buffer.length < fixedLength + announced buffer) : Answers parser buffer (.ok none)
  | found {tag : Tag} (sound : parser.Sound buffer tag)
      (enough : fixedLength + announced buffer ≤ buffer.length) (closed : Closed buffer) :
      Answers parser buffer (.ok (some (.ofBytes tag buffer)))
  | refused {cause : Malformation} (refuses : parser.Refuses buffer cause) :
      Answers parser buffer (.error (.malformed cause))

theorem first_exact {parser : Parser} {buffer : Bytes} {tag : Tag} :
    parser.First buffer tag ↔
      parser.tags.find? (·.magic.bytes == buffer.take magicLength) = some tag := by
  have apart (other : Tag) (same : buffer.take magicLength = tag.magic.bytes) :
      (!(other.magic.bytes == buffer.take magicLength)) = true ↔ other.magic ≠ tag.magic := by
    have bytes : other.magic.bytes = tag.magic.bytes ↔ other.magic = tag.magic := by
      cases other.magic
      cases tag.magic
      simp only [Magic.mk.injEq]
    simp only [same, Bool.not_eq_true', beq_eq_false_iff_ne, ne_eq, bytes]
  simp only [List.find?_eq_some_iff_append, beq_iff_eq]
  constructor
  · intro first
    have same : buffer.take magicLength = tag.magic.bytes := by
      have cut := List.prefix_iff_eq_take.mp first.starts
      simpa only [tag.magic.length_eq] using cut.symm
    obtain ⟨before, after, tags, others⟩ := first.earliest
    exact ⟨same.symm, before, after, tags,
      fun other member => (apart other same).mpr (others other member)⟩
  · intro known
    obtain ⟨same, before, after, tags, others⟩ := known
    exact {
      starts := same ▸ List.take_prefix _ _
      earliest := ⟨before, after, tags,
        fun other member => (apart other same.symm).mp (others other member)⟩ }

theorem accepts_iff {parser : Parser} {buffer : Bytes} :
    parser.Accepts buffer ↔ ∃ tag, parser.First buffer tag := by
  constructor
  · intro accepts
    have known := recognizes_iff.mpr accepts
    simp only [recognizes, Bool.and_eq_true, Option.isSome_iff_exists] at known
    obtain ⟨-, tag, found⟩ := known
    exact ⟨tag, first_exact.mpr found⟩
  · intro known
    obtain ⟨tag, first⟩ := known
    obtain ⟨before, after, tags, -⟩ := first.earliest
    exact ⟨tag, tags ▸ List.mem_append_right before List.mem_cons_self, first.starts⟩

-- The first word that is set, and the check of the words in their order stops at it.
theorem reserved_some {buffer : Bytes} {index : Nat} :
    (List.range reservedWords).find? (reservedWord (buffer.take fixedLength) · != 0) = some index ↔
      index < reservedWords ∧ wordAt buffer (reservedStart + 4 * index) 4 ≠ 0 ∧
        ∀ earlier < index, wordAt buffer (reservedStart + 4 * earlier) 4 = 0 := by
  have word {place : Nat} (inside : place < reservedWords) :
      reservedWord (buffer.take fixedLength) place = wordAt buffer (reservedStart + 4 * place) 4 :=
    wordAt_take (reserved_inside inside)
  simp only [List.find?_range_eq_some, List.mem_range, bne_iff_ne, Bool.not_eq_true',
    bne_eq_false_iff_eq]
  constructor
  · intro found
    obtain ⟨set, inside, clear⟩ := found
    refine ⟨inside, word inside ▸ set, ?_⟩
    intro earlier before
    exact word (Nat.lt_trans before inside) ▸ clear earlier before
  · intro found
    obtain ⟨inside, set, clear⟩ := found
    refine ⟨word inside ▸ set, inside, ?_⟩
    intro earlier before
    exact (word (Nat.lt_trans before inside)).trans (clear earlier before)

theorem parseFixed_flaw {parser : Parser} {buffer : Bytes} {failure : Failure} :
    parser.parseFixed (buffer.take fixedLength) = .error failure ↔
      ∃ cause, failure = .malformed cause ∧ parser.Flaw buffer cause := by
  have front : (buffer.take fixedLength).take magicLength = buffer.take magicLength := by
    rw [List.take_take, Nat.min_eq_left (by decide)]
  have version : wordAt (buffer.take fixedLength) versionStart 4 = wordAt buffer versionStart 4 :=
    wordAt_take (by decide)
  have accepts : parser.Accepts buffer ↔ (parser.match? (buffer.take magicLength)).isSome := by
    simp only [accepts_iff, first_exact, match?, Option.isSome_iff_exists]
  unfold parseFixed
  simp only [front, version]
  constructor
  · intro refused
    split at refused
    · rename_i unknown
      cases refused
      exact ⟨_, rfl, .magic (by simp [accepts, unknown])⟩
    · rename_i tag known
      have known : parser.Accepts buffer := by simp [accepts, known]
      split at refused
      · rename_i other
        cases refused
        exact ⟨_, rfl, .version known rfl other⟩
      · rename_i same
        split at refused
        · rename_i index found
          cases refused
          obtain ⟨inside, set, clear⟩ := reserved_some.mp found
          have word : reservedWord (buffer.take fixedLength) index =
              wordAt buffer (reservedStart + 4 * index) 4 := wordAt_take (reserved_inside inside)
          exact ⟨_, rfl, .reserved known (Decidable.not_not.mp same) inside word.symm
            (word ▸ set) clear⟩
        · cases refused
  · intro flawed
    obtain ⟨cause, rfl, flaw⟩ := flawed
    cases flaw with
    | magic unknown =>
      have nothing : parser.match? (buffer.take magicLength) = none := by
        simpa [accepts] using unknown
      simp only [nothing]
    | version known read other =>
      obtain ⟨tag, found⟩ := Option.isSome_iff_exists.mp (accepts.mp known)
      simp only [found, read, other, ne_eq, not_false_eq_true, if_true]
    | @reserved known version index word inside read set clear =>
      obtain ⟨tag, found⟩ := Option.isSome_iff_exists.mp (accepts.mp known)
      have first := reserved_some.mpr ⟨inside, read ▸ set, clear⟩
      have same : reservedWord (buffer.take fixedLength) index = word :=
        (wordAt_take (reserved_inside inside)).trans read
      simp only [found, version, ne_eq, not_true, if_false, first, same]

theorem parseFixed_sound {parser : Parser} {buffer : Bytes} {fixed : FixedPart} :
    parser.parseFixed (buffer.take fixedLength) = .ok fixed ↔
      parser.Sound buffer fixed.tag ∧ fixed.descriptorLength = announced buffer ∧
        fixed.wasRunning = (wordAt buffer runningStart 4 != 0) ∧
        fixed.compression = .ofCode (wordAt buffer compressionStart 4) := by
  rw [fixed_exact, ← first_exact]
  constructor
  · intro parsed
    obtain ⟨first, version, reserved, rest⟩ := parsed
    exact ⟨⟨first, version, reserved⟩, rest⟩
  · intro parsed
    obtain ⟨sound, rest⟩ := parsed
    exact ⟨sound.first, sound.version, sound.reserved, rest⟩

theorem closed_iff {buffer : Bytes} (enough : fixedLength + announced buffer ≤ buffer.length) :
    ((buffer.drop fixedLength).take (announced buffer)).getLast? = some 0 ↔ Closed buffer := by
  have size : ((buffer.drop fixedLength).take (announced buffer)).length = announced buffer := by
    simp only [List.length_take, List.length_drop]
    omega
  rw [List.getLast?_eq_getElem?, size, Closed]
  by_cases empty : announced buffer = 0
  · simp [empty]
  · have last : announced buffer - 1 < announced buffer := by omega
    have place : fixedLength + (announced buffer - 1) = fixedLength + announced buffer - 1 := by
      omega
    simp only [List.getElem?_take_of_lt last, List.getElem?_drop, place]
    constructor
    · intro zero
      exact ⟨by omega, zero⟩
    · exact And.right

theorem complete_sound {buffer : Bytes} {fixed : FixedPart} {parser : Parser}
    (parsed : parser.parseFixed (buffer.take fixedLength) = .ok fixed)
    (enough : fixedLength + announced buffer ≤ buffer.length) :
    parser.Answers buffer ((complete fixed ((buffer.drop fixedLength).take fixed.descriptorLength)).map
      some) := by
  obtain ⟨sound, length, running, compression⟩ := parseFixed_sound.mp parsed
  unfold complete
  rw [length]
  split
  · rename_i last
    have header : (⟨fixed.tag, containerVersion, fixed.wasRunning, fixed.compression,
        (buffer.drop fixedLength).take (announced buffer)⟩ : Header) = .ofBytes fixed.tag buffer := by
      simp only [Header.ofBytes, sound.version, running, compression]
    simp only [header]
    exact .found sound enough ((closed_iff enough).mp last)
  · rename_i other
    exact .refused (.unclosed sound enough fun closed => other ((closed_iff enough).mpr closed))

theorem Sound.parsed {parser : Parser} {buffer : Bytes} {tag : Tag} (sound : parser.Sound buffer tag) :
    parser.parseFixed (buffer.take fixedLength) = .ok ⟨tag, announced buffer,
      wordAt buffer runningStart 4 != 0, .ofCode (wordAt buffer compressionStart 4)⟩ :=
  parseFixed_sound.mpr ⟨sound, rfl, rfl, rfl⟩

theorem parse_sound (parser : Parser) (buffer : Bytes) :
    parser.Answers buffer (parser.parse buffer) := by
  unfold parse
  split
  · rename_i few
    exact .short few
  · rename_i long
    cases parsed : parser.parseFixed (buffer.take fixedLength) with
    | error failure =>
      obtain ⟨cause, rfl, flaw⟩ := parseFixed_flaw.mp parsed
      exact .refused (.flawed (Nat.le_of_not_lt long) flaw)
    | ok fixed =>
      obtain ⟨sound, length, -⟩ := parseFixed_sound.mp parsed
      dsimp only
      split
      · rename_i few
        exact .waiting sound (length ▸ few)
      · rename_i enough
        exact complete_sound parsed (length ▸ Nat.le_of_not_lt enough)

theorem parse_complete {parser : Parser} {buffer : Bytes} {answer : Except Failure (Option Header)}
    (answers : parser.Answers buffer answer) : parser.parse buffer = answer := by
  cases answers with
  | short few => simp only [parse, few, if_true]
  | waiting sound few =>
    by_cases short : buffer.length < fixedLength
    · simp only [parse, short, if_true]
    · simp only [parse, short, if_false, sound.parsed, few, if_true]
  | found sound enough closed =>
    have long : ¬ buffer.length < fixedLength := by omega
    have last := (closed_iff enough).mpr closed
    simp only [parse, long, if_false, sound.parsed, Nat.not_lt.mpr enough, complete, last, if_true,
      Header.ofBytes, sound.version]
    rfl
  | refused refuses =>
    cases refuses with
    | flawed long flaw =>
      have stopped := parseFixed_flaw.mpr ⟨_, rfl, flaw⟩
      simp only [parse, Nat.not_lt.mpr long, if_false, stopped]
    | unclosed sound enough opened =>
      have long : ¬ buffer.length < fixedLength := by omega
      have other := mt (closed_iff enough).mp opened
      simp only [parse, long, if_false, sound.parsed, Nat.not_lt.mpr enough, complete, other]
      rfl

theorem parse_answers {parser : Parser} {buffer : Bytes} {answer : Except Failure (Option Header)} :
    parser.parse buffer = answer ↔ parser.Answers buffer answer :=
  ⟨fun made => made ▸ parse_sound parser buffer, parse_complete⟩

-- Whatever has come so far is a header, the beginning of one, or a failure that names what is wrong.
-- Of these only the beginning can become something else.
theorem parse_decides (parser : Parser) (buffer : Bytes) :
    (∀ header, parser.parse buffer = .ok (some header) ↔ ∃ tag, parser.Sound buffer tag ∧
      Closed buffer ∧ fixedLength + announced buffer ≤ buffer.length ∧
      header = .ofBytes tag buffer) ∧
    (parser.parse buffer = .ok none ↔ buffer.length < fixedLength ∨
      (∃ tag, parser.Sound buffer tag) ∧ buffer.length < fixedLength + announced buffer) ∧
    (∀ failure, parser.parse buffer = .error failure ↔
      ∃ cause, failure = .malformed cause ∧ parser.Refuses buffer cause) ∧
    (∀ failure, parser.parse buffer = .error failure → failure.Blames .containerHeader) ∧
    ∀ more, (∀ header, parser.parse buffer = .ok (some header) →
        parser.parse (buffer ++ more) = .ok (some header)) ∧
      ∀ failure, parser.parse buffer = .error failure →
        parser.parse (buffer ++ more) = .error failure := by
  simp only [parse_answers]
  refine ⟨?found, ?waiting, ?refused, ?blames, ?stable⟩
  case found =>
    intro header
    constructor
    · intro answers
      cases answers with
      | found sound enough closed => exact ⟨_, sound, closed, enough, rfl⟩
    · intro found
      obtain ⟨tag, sound, closed, enough, rfl⟩ := found
      exact .found sound enough closed
  case waiting =>
    constructor
    · intro answers
      cases answers with
      | short few => exact .inl few
      | waiting sound few => exact .inr ⟨⟨_, sound⟩, few⟩
    · intro waits
      cases waits with
      | inl few => exact .short few
      | inr later =>
        obtain ⟨⟨tag, sound⟩, few⟩ := later
        exact .waiting sound few
  case refused =>
    intro failure
    constructor
    · intro answers
      cases answers with
      | refused refuses => exact ⟨_, rfl, refuses⟩
    · intro refused
      obtain ⟨cause, rfl, refuses⟩ := refused
      exact .refused refuses
  case blames =>
    intro failure answers
    exact parse_refused (parse_answers.mpr answers)
  case stable =>
    intro more
    constructor
    · intro header answers
      have parsed := parse_answers.mpr answers
      have decided : parser.parse buffer ≠ .ok none := by simp [parsed]
      exact parse_answers.mp ((parse_append decided more).trans parsed)
    · intro failure answers
      have parsed := parse_answers.mpr answers
      have decided : parser.parse buffer ≠ .ok none := by simp [parsed]
      exact parse_answers.mp ((parse_append decided more).trans parsed)

end Parser

end PageStream.Container
