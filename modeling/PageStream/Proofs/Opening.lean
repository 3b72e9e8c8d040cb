import PageStream.Proofs.ContainerHeader
import PageStream.Proofs.Streaming

namespace PageStream

namespace Inlet

def remainder (inlet : Inlet) : Feed := if inlet.ended then [] else inlet.feed

def content (inlet : Inlet) : Bytes := inlet.buffer ++ inlet.remainder.bytes

-- The bytes not used yet, and the way the stream stops.
structure Holds (inlet : Inlet) (bytes : Bytes) (fault? : Option DeviceFault) : Prop where
  content : inlet.content = bytes
  fault : inlet.remainder.fault? = fault?

end Inlet

namespace Whole

-- What comes of bytes that stop before they tell whether a container header starts them.
def undecided (mode : ContainerMode) (length : Nat) (fault? : Option DeviceFault) :
    Except Failure (Option Container.Header) :=
  match fault? with
  | some fault => .error (.read fault)
  | none =>
    if mode ≠ .required ∧ length < magicLength then .ok none
    else .error (.malformed (.containerCut length))

-- The container header in all bytes of a stream that is looked through for one.
def scan (mode : ContainerMode) (parser : Container.Parser) (bytes : Bytes)
    (fault? : Option DeviceFault) : Except Failure (Option Container.Header) :=
  if magicLength ≤ bytes.length ∧ ¬ parser.recognizes bytes then
    if mode = .required then .error (.malformed (.unknownMagic (bytes.take magicLength)))
    else .ok none
  else
    match parser.parse bytes with
    | .error failure => .error failure
    | .ok (some header) => .ok (some header)
    | .ok none => undecided mode bytes.length fault?

-- The container header of a stream, if it is to be looked through for one.
def header (settings : Settings) (bytes : Bytes) (fault? : Option DeviceFault) :
    Except Failure (Option Container.Header) :=
  match settings.container with
  | .absent => .ok none
  | mode => scan mode settings.parser bytes fault?

def unsized (length : Nat) (fault? : Option DeviceFault) : Except Failure DeclaredSize :=
  match fault? with
  | some fault => .error (.read fault)
  | none => .error (.malformed (.sizeCut length))

def size (bytes : Bytes) (fault? : Option DeviceFault) : Except Failure DeclaredSize :=
  match DeclaredSize.parse bytes with
  | .error failure => .error failure
  | .ok (some size) => .ok size
  | .ok none => unsized bytes.length fault?

def frontLength : Option Container.Header → Nat
  | none => 0
  | some header => header.payloadOffset

end Whole

namespace DeclaredSize

theorem parse_append {buffer : Bytes} (decided : parse buffer ≠ .ok none) (more : Bytes) :
    parse (buffer ++ more) = parse buffer := by
  by_cases short : buffer.length < sizeHeaderLength
  · simp only [parse, short, if_true, ne_eq, not_true] at decided
  · have long : ¬ (buffer ++ more).length < sizeHeaderLength := by
      simp only [List.length_append]; omega
    have inside : 0 + sizeHeaderLength ≤ buffer.length := by omega
    simp only [parse, short, long, if_false, Container.Parser.wordAt_append inside]

theorem parse_long {buffer : Bytes} (decided : parse buffer ≠ .ok none) :
    sizeHeaderLength ≤ buffer.length := by
  by_contra short
  exact decided (by simp only [parse, Nat.lt_of_not_le short, if_true])

end DeclaredSize

namespace Whole

theorem scan_unknown {mode : ContainerMode} {parser : Container.Parser} {buffer : Bytes}
    (unknown : magicLength ≤ buffer.length ∧ ¬ parser.recognizes buffer = true) (more : Bytes)
    (fault? : Option DeviceFault) : scan mode parser (buffer ++ more) fault? =
      if mode = .required then .error (.malformed (.unknownMagic (buffer.take magicLength)))
      else .ok none := by
  have same := Container.Parser.recognizes_append parser unknown.1 more
  have still : magicLength ≤ (buffer ++ more).length ∧
      ¬ parser.recognizes (buffer ++ more) = true :=
    ⟨by simp only [List.length_append]; omega, same ▸ unknown.2⟩
  rw [scan, if_pos still, List.take_append_of_le_length unknown.1]

-- Once enough bytes for a verdict are there, more of them do not change it.
theorem scan_settled {mode : ContainerMode} {parser : Container.Parser} {buffer : Bytes}
    (known : ¬ (magicLength ≤ buffer.length ∧ ¬ parser.recognizes buffer = true))
    (decided : parser.parse buffer ≠ .ok none) (more : Bytes) (fault? : Option DeviceFault) :
    scan mode parser (buffer ++ more) fault? = parser.parse buffer := by
  have fixed := Container.Parser.parse_long decided
  have long : magicLength ≤ buffer.length := Nat.le_trans (by decide) fixed
  have same := Container.Parser.recognizes_append parser long more
  have still : ¬ (magicLength ≤ (buffer ++ more).length ∧
      ¬ parser.recognizes (buffer ++ more) = true) := by
    rintro ⟨_, unknown⟩
    exact known ⟨long, same ▸ unknown⟩
  rw [scan, if_neg still, Container.Parser.parse_append decided]
  rcases parsed : parser.parse buffer with failure | _ | header
  · rfl
  · exact absurd parsed decided
  · rfl

theorem scan_open {mode : ContainerMode} {parser : Container.Parser} {buffer : Bytes}
    (known : ¬ (magicLength ≤ buffer.length ∧ ¬ parser.recognizes buffer = true))
    (waiting : parser.parse buffer = .ok none) (fault? : Option DeviceFault) :
    scan mode parser buffer fault? = undecided mode buffer.length fault? := by
  rw [scan, if_neg known, waiting]

-- Too few bytes for a size are all the bytes there are, once nothing more is to come.
theorem size_open {buffer : Bytes} (waiting : DeclaredSize.parse buffer = .ok none)
    (fault? : Option DeviceFault) :
    size buffer fault? = unsized buffer.length fault? := by
  rw [size, waiting]

end Whole

namespace Session

theorem takeHeader_exact (mode : ContainerMode) (parser : Container.Parser) (buffer : Bytes)
    (feed : Feed) (journal : Journal) :
    (takeHeader mode parser buffer feed journal).1 =
        Whole.scan mode parser (buffer ++ feed.bytes) feed.fault? ∧
      ∀ header, (takeHeader mode parser buffer feed journal).1 = .ok header →
        (takeHeader mode parser buffer feed journal).2.Holds
          ((buffer ++ feed.bytes).drop (Whole.frontLength header)) feed.fault? := by
  induction buffer, feed, journal using takeHeader.induct mode parser with
  | case1 feed buffer journal unknown wanted =>
    rw [takeHeader, if_pos unknown, if_pos wanted, Whole.scan_unknown unknown, if_pos wanted]
    exact ⟨rfl, fun header impossible => by cases impossible⟩
  | case2 feed buffer journal unknown optional =>
    rw [takeHeader, if_pos unknown, if_neg optional, Whole.scan_unknown unknown, if_neg optional]
    exact ⟨rfl, fun header found => by cases found; exact ⟨rfl, rfl⟩⟩
  | case3 feed buffer journal known failure parsed =>
    have decided : parser.parse buffer ≠ .ok none := by rw [parsed]; exact nofun
    rw [Whole.scan_settled known decided, takeHeader, if_neg known, parsed]
    exact ⟨rfl, fun header impossible => by cases impossible⟩
  | case4 feed buffer journal known header parsed =>
    have decided : parser.parse buffer ≠ .ok none := by rw [parsed]; exact nofun
    have inside := (Container.Parser.parse_exact.mp parsed).enough
    rw [Whole.scan_settled known decided, takeHeader, if_neg known, parsed]
    refine ⟨rfl, fun header found => ?_⟩
    cases found
    exact ⟨(List.drop_append_of_le_length inside).symm, rfl⟩
  | case5 buffer journal known waiting =>
    rw [takeHeader, if_neg known, waiting]
    simp only [Feed.bytes, Feed.fault?, List.append_nil, Whole.scan_open known waiting,
      Whole.undecided]
    split
    · exact ⟨rfl, fun header found => by cases found; exact ⟨List.append_nil _, rfl⟩⟩
    · exact ⟨rfl, fun header impossible => by cases impossible⟩
  | case6 buffer journal known waiting rest =>
    rw [takeHeader, if_neg known, waiting]
    simp only [Feed.bytes, Feed.fault?, List.append_nil, Whole.scan_open known waiting,
      Whole.undecided]
    split
    · exact ⟨rfl, fun header found => by cases found; exact ⟨List.append_nil _, rfl⟩⟩
    · exact ⟨rfl, fun header impossible => by cases impossible⟩
  | case7 buffer journal known waiting fault rest =>
    rw [takeHeader, if_neg known, waiting]
    simp only [Feed.bytes, Feed.fault?, List.append_nil, Whole.scan_open known waiting,
      Whole.undecided]
    exact ⟨trivial, fun header impossible => by cases impossible⟩
  | case8 buffer journal known waiting bytes rest ih =>
    rw [takeHeader, if_neg known, waiting]
    simp only [Feed.bytes, Feed.fault?, ← List.append_assoc]
    exact ih

theorem readHeader_exact (settings : Settings) (feed : Feed) (journal : Journal) :
    (readHeader settings feed journal).1 = Whole.header settings feed.bytes feed.fault? ∧
      ∀ header, (readHeader settings feed journal).1 = .ok header →
        (readHeader settings feed journal).2.Holds
          (feed.bytes.drop (Whole.frontLength header)) feed.fault? := by
  cases mode : settings.container with
  | absent =>
    simp only [readHeader, Whole.header, mode]
    exact ⟨trivial, fun header found => by cases found; exact ⟨rfl, rfl⟩⟩
  | auto =>
    simp only [readHeader, Whole.header, mode]
    exact takeHeader_exact .auto settings.parser [] feed journal
  | required =>
    simp only [readHeader, Whole.header, mode]
    exact takeHeader_exact .required settings.parser [] feed journal

theorem takeSize_exact (buffer : Bytes) (ended : Bool) (feed : Feed) (journal : Journal) :
    (takeSize buffer ended feed journal).1 =
        Whole.size (Inlet.content ⟨buffer, feed, ended, journal⟩)
          (Inlet.remainder ⟨buffer, feed, ended, journal⟩).fault? ∧
      ∀ size, (takeSize buffer ended feed journal).1 = .ok size →
        (takeSize buffer ended feed journal).2.Holds
          ((Inlet.content ⟨buffer, feed, ended, journal⟩).drop sizeHeaderLength)
          (Inlet.remainder ⟨buffer, feed, ended, journal⟩).fault? := by
  induction buffer, ended, feed, journal using takeSize.induct with
  | case1 feed buffer ended journal failure parsed =>
    have decided : DeclaredSize.parse buffer ≠ .ok none := by rw [parsed]; exact nofun
    rw [takeSize, parsed, Whole.size, Inlet.content, DeclaredSize.parse_append decided, parsed]
    exact ⟨rfl, fun size impossible => by cases impossible⟩
  | case2 feed buffer ended journal size parsed =>
    have decided : DeclaredSize.parse buffer ≠ .ok none := by rw [parsed]; exact nofun
    have enough := DeclaredSize.parse_long decided
    rw [takeSize, parsed, Whole.size, Inlet.content, DeclaredSize.parse_append decided, parsed]
    refine ⟨rfl, fun size found => ?_⟩
    cases found
    exact ⟨(List.drop_append_of_le_length enough).symm, rfl⟩
  | case3 feed buffer journal waiting =>
    rw [takeSize, waiting]
    simp only [Inlet.content, Inlet.remainder, if_true, Feed.bytes, Feed.fault?, List.append_nil,
      Whole.size_open waiting, Whole.unsized]
    exact ⟨trivial, fun size impossible => by cases impossible⟩
  | case4 buffer ended journal waiting running =>
    rw [takeSize, waiting]
    simp only [Inlet.content, Inlet.remainder, if_neg running, Feed.bytes, Feed.fault?,
      List.append_nil, Whole.size_open waiting, Whole.unsized]
    exact ⟨trivial, fun size impossible => by cases impossible⟩
  | case5 buffer ended journal waiting running rest =>
    rw [takeSize, waiting]
    simp only [Inlet.content, Inlet.remainder, if_neg running, Feed.bytes, Feed.fault?,
      List.append_nil, Whole.size_open waiting, Whole.unsized]
    exact ⟨trivial, fun size impossible => by cases impossible⟩
  | case6 buffer ended journal waiting running fault rest =>
    rw [takeSize, waiting]
    simp only [Inlet.content, Inlet.remainder, if_neg running, Feed.bytes, Feed.fault?,
      List.append_nil, Whole.size_open waiting, Whole.unsized]
    exact ⟨trivial, fun size impossible => by cases impossible⟩
  | case7 buffer ended journal waiting running piece rest ih =>
    rw [takeSize, waiting]
    simp only [Inlet.content, Inlet.remainder, if_neg running, Feed.bytes, Feed.fault?,
      ← List.append_assoc] at ih ⊢
    exact ih

end Session

end PageStream
