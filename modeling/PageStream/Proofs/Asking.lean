import PageStream.Proofs.Coupling
import PageStream.Proofs.Grammar

namespace PageStream

def Answer.stop? (answer : Answer) : Option Answer := if answer.isLast then some answer else none

namespace Feed

-- Requests made one after another. A state is the last answer, once there was one, and what is
-- still to come; only while there was none can there be another request.
inductive Asked : Option Answer × Feed → List Answer → Option Answer × Feed → Prop where
  | rest (state : Option Answer × Feed) : Asked state [] state
  | more {feed left : Feed} {answer : Answer} {answers : List Answer} {after : Option Answer × Feed}
      (answered : feed.next = (answer, left)) (later : Asked (answer.stop?, left) answers after) :
      Asked (none, feed) (answer :: answers) after

theorem Asked.append {before middle after : Option Answer × Feed} {front later : List Answer}
    (one : Asked before front middle) (two : Asked middle later after) :
    Asked before (front ++ later) after := by
  induction one with
  | rest state => exact two
  | more answered _ ih => exact .more answered (ih two)

theorem Asked.stopped {last : Answer} {feed : Feed} {answers : List Answer}
    {after : Option Answer × Feed} (asked : Asked (some last, feed) answers after) :
    answers = [] ∧ after = (some last, feed) := by
  cases asked
  exact ⟨rfl, rfl⟩

theorem Asked.pieces {feed left : Feed} {answers : List Answer} {stop : Option Answer}
    (asked : Asked (none, feed) answers (stop, left)) :
    ∃ pieces : List Bytes, answers = pieces.map .piece ++ stop.toList := by
  induction answers generalizing feed with
  | nil =>
    cases asked
    exact ⟨[], rfl⟩
  | cons answer answers ih =>
    cases asked with
    | more answered later =>
      cases answer with
      | piece bytes =>
        obtain ⟨pieces, same⟩ := ih later
        exact ⟨bytes :: pieces, congrArg (.piece bytes :: ·) same⟩
      | ended =>
        obtain ⟨rfl, same⟩ := later.stopped
        cases same
        exact ⟨[], rfl⟩
      | failed fault =>
        obtain ⟨rfl, same⟩ := later.stopped
        cases same
        exact ⟨[], rfl⟩

end Feed

namespace Session

-- What has been heard when a phase says whether the stream has ended.
def heard (ended : Bool) : Option Answer := if ended then some .ended else none

-- The requests of a phase that is given a feed. What it did not ask for it does not know.
structure Asks {ε α : Type} (phase : Feed → Except ε α × Inlet) (ended : Bool) (feed : Feed)
    (answers : List Answer) : Prop where
  asked : ∃ stop, Feed.Asked (heard ended, feed) answers (stop, (phase feed).2.feed) ∧
    ∀ value, (phase feed).1 = .ok value → stop = heard (phase feed).2.ended
  blind : ∀ beyond,
    phase (answers ++ beyond) = ((phase feed).1, { (phase feed).2 with feed := beyond })

variable {ε α : Type}

theorem Asks.still {phase : Feed → Except ε α × Inlet} {result : Except ε α}
    {buffer : Bytes} {ended : Bool} {journal : Journal}
    (same : ∀ feed, phase feed = (result, ⟨buffer, feed, ended, journal⟩)) (feed : Feed) :
    Asks phase ended feed [] := by
  refine ⟨⟨heard ended, ?_, ?_⟩, ?_⟩
  · rw [same]
    exact .rest _
  · intro value done
    rw [same]
  · intro beyond
    rw [List.nil_append, same, same]

theorem Asks.once {phase : Feed → Except ε α × Inlet} {feed left : Feed} {answer : Answer}
    {result : Except ε α} {buffer : Bytes} {ended : Bool} {journal : Journal}
    (answered : feed.next = (answer, left)) (last : answer.stop? = some answer)
    (made : phase feed = (result, ⟨buffer, left, ended, journal⟩))
    (same : ∀ rest, phase (answer :: rest) = (result, ⟨buffer, rest, ended, journal⟩))
    (stops : ∀ value, result = .ok value → some answer = heard ended) :
    Asks phase false feed [answer] := by
  refine ⟨⟨some answer, ?_, ?_⟩, ?_⟩
  · rw [made, ← last]
    exact .more answered (.rest _)
  · intro value done
    rw [made] at done ⊢
    exact stops value done
  · intro beyond
    rw [List.singleton_append, same, made]

theorem Asks.piece {phase next : Feed → Except ε α × Inlet} {bytes : Bytes}
    (same : ∀ rest, phase (.piece bytes :: rest) = next rest) {rest : Feed}
    {answers : List Answer} (later : Asks next false rest answers) :
    Asks phase false (.piece bytes :: rest) (.piece bytes :: answers) := by
  obtain ⟨⟨stop, asked, stops⟩, blind⟩ := later
  refine ⟨⟨stop, ?_, ?_⟩, ?_⟩
  · rw [same]
    exact .more rfl asked
  · rw [same]
    exact stops
  · intro beyond
    rw [List.cons_append, same, same, blind]

theorem takeHeader_ended (mode : ContainerMode) {parser : Container.Parser} {buffer : Bytes}
    (known : ¬ (magicLength ≤ buffer.length ∧ ¬ parser.recognizes buffer = true))
    (waiting : parser.parse buffer = .ok none) (journal : Journal) :
    takeHeader mode parser buffer [] journal =
        (Whole.undecided mode buffer.length none, ⟨buffer, [], true, journal⟩) ∧
      ∀ rest, takeHeader mode parser buffer (.ended :: rest) journal =
        (Whole.undecided mode buffer.length none, ⟨buffer, rest, true, journal⟩) := by
  rw [takeHeader, if_neg known, waiting]
  by_cases short : mode ≠ .required ∧ buffer.length < magicLength
  · simp only [Whole.undecided, if_pos short]
    refine ⟨trivial, fun rest => ?_⟩
    rw [takeHeader, if_neg known, waiting]
    exact if_pos short
  · simp only [Whole.undecided, if_neg short]
    refine ⟨trivial, fun rest => ?_⟩
    rw [takeHeader, if_neg known, waiting]
    exact if_neg short

theorem takeHeader_asks (mode : ContainerMode) (parser : Container.Parser) (buffer : Bytes)
    (feed : Feed) (journal : Journal) :
    ∃ answers, Asks (takeHeader mode parser buffer · journal) false feed answers := by
  induction buffer, feed, journal using takeHeader.induct mode parser with
  | case1 feed buffer journal unknown wanted =>
    exact ⟨[], .still (fun feed => by rw [takeHeader, if_pos unknown, if_pos wanted]) feed⟩
  | case2 feed buffer journal unknown optional =>
    exact ⟨[], .still (fun feed => by rw [takeHeader, if_pos unknown, if_neg optional]) feed⟩
  | case3 feed buffer journal known failure parsed =>
    exact ⟨[], .still (fun feed => by rw [takeHeader, if_neg known, parsed]) feed⟩
  | case4 feed buffer journal known header parsed =>
    exact ⟨[], .still (fun feed => by rw [takeHeader, if_neg known, parsed]) feed⟩
  | case5 buffer journal known waiting =>
    obtain ⟨here, behind⟩ := takeHeader_ended mode known waiting journal
    exact ⟨[.ended], .once rfl rfl here behind fun _ _ => rfl⟩
  | case6 buffer journal known waiting rest =>
    obtain ⟨-, behind⟩ := takeHeader_ended mode known waiting journal
    exact ⟨[.ended], .once rfl rfl (behind rest) behind fun _ _ => rfl⟩
  | case7 buffer journal known waiting fault rest =>
    have failed (rest : Feed) : takeHeader mode parser buffer (.failed fault :: rest) journal =
        (.error (.read fault), ⟨buffer, rest, false, journal⟩) := by
      rw [takeHeader, if_neg known, waiting]
    exact ⟨[.failed fault], .once rfl rfl (failed rest) failed fun _ done => by cases done⟩
  | case8 buffer journal known waiting bytes rest ih =>
    obtain ⟨answers, later⟩ := ih
    refine ⟨.piece bytes :: answers, .piece (fun rest => ?_) later⟩
    rw [takeHeader, if_neg known, waiting]

theorem readHeader_asks (settings : Settings) (feed : Feed) (journal : Journal) :
    ∃ answers, Asks (readHeader settings · journal) false feed answers := by
  cases mode : settings.container with
  | absent =>
    exact ⟨[], .still (fun feed => by simp only [readHeader, mode]; rfl) feed⟩
  | auto =>
    simp only [readHeader, mode]
    exact takeHeader_asks .auto settings.parser [] feed journal
  | required =>
    simp only [readHeader, mode]
    exact takeHeader_asks .required settings.parser [] feed journal

theorem takeSize_ended {buffer : Bytes} (waiting : DeclaredSize.parse buffer = .ok none)
    (journal : Journal) :
    takeSize buffer false [] journal =
        (.error (.malformed (.sizeCut buffer.length)), ⟨buffer, [], true, journal⟩) ∧
      ∀ rest, takeSize buffer false (.ended :: rest) journal =
        (.error (.malformed (.sizeCut buffer.length)), ⟨buffer, rest, true, journal⟩) := by
  refine ⟨?_, fun rest => ?_⟩
  · rw [takeSize, waiting]
    rfl
  · rw [takeSize, waiting]
    rfl

theorem takeSize_asks (buffer : Bytes) (ended : Bool) (feed : Feed) (journal : Journal) :
    ∃ answers, Asks (takeSize buffer ended · journal) ended feed answers := by
  induction buffer, ended, feed, journal using takeSize.induct with
  | case1 feed buffer ended journal failure parsed =>
    exact ⟨[], .still (fun feed => by rw [takeSize, parsed]) feed⟩
  | case2 feed buffer ended journal size parsed =>
    exact ⟨[], .still (fun feed => by rw [takeSize, parsed]) feed⟩
  | case3 feed buffer journal waiting =>
    exact ⟨[], .still (fun feed => by rw [takeSize, waiting]; rfl) feed⟩
  | case4 buffer ended journal waiting running =>
    rw [Bool.not_eq_true] at running
    subst running
    obtain ⟨here, behind⟩ := takeSize_ended waiting journal
    exact ⟨[.ended], .once rfl rfl here behind fun _ done => by cases done⟩
  | case5 buffer ended journal waiting running rest =>
    rw [Bool.not_eq_true] at running
    subst running
    obtain ⟨-, behind⟩ := takeSize_ended waiting journal
    exact ⟨[.ended], .once rfl rfl (behind rest) behind fun _ done => by cases done⟩
  | case6 buffer ended journal waiting running fault rest =>
    rw [Bool.not_eq_true] at running
    subst running
    have failed (rest : Feed) : takeSize buffer false (.failed fault :: rest) journal =
        (.error (.read fault), ⟨buffer, rest, false, journal⟩) := by
      rw [takeSize, waiting]
      rfl
    exact ⟨[.failed fault], .once rfl rfl (failed rest) failed fun _ done => by cases done⟩
  | case7 buffer ended journal waiting running bytes rest ih =>
    rw [Bool.not_eq_true] at running
    subst running
    obtain ⟨answers, later⟩ := ih
    refine ⟨.piece bytes :: answers, .piece (fun rest => ?_) later⟩
    rw [takeSize, waiting]
    rfl

def headers (settings : Settings) (feed : Feed) (journal : Journal) :
    Except (Stage × Failure) (Option Container.Header × DeclaredSize) × Inlet :=
  match readHeader settings feed journal with
  | (.error failure, inlet) => (.error (.readingContainerHeader, failure), inlet)
  | (.ok header, inlet) =>
    match takeSize inlet.buffer inlet.ended inlet.feed inlet.journal with
    | (.error failure, inlet) => (.error (.readingSizeHeader, failure), inlet)
    | (.ok declared, inlet) => (.ok (header, declared), inlet)

theorem headers_asks (settings : Settings) (feed : Feed) (journal : Journal) :
    ∃ answers, Asks (headers settings · journal) false feed answers := by
  obtain ⟨front, ⟨stop, asked, stops⟩, blind⟩ := readHeader_asks settings feed journal
  rcases found : readHeader settings feed journal with ⟨failure | header, inlet⟩
  · rw [found] at asked stops
    refine ⟨front, ⟨stop, ?_, ?_⟩, ?_⟩
    · simpa only [headers, found] using asked
    · simp only [headers, found]
      intro value done
      cases done
    · intro beyond
      simp only [headers, blind, found]
  · rw [found] at asked stops
    obtain rfl := stops header rfl
    obtain ⟨later, ⟨stop, asks, stops⟩, blind'⟩ :=
      takeSize_asks inlet.buffer inlet.ended inlet.feed inlet.journal
    rcases sized : takeSize inlet.buffer inlet.ended inlet.feed inlet.journal
      with ⟨failure | declared, inlet'⟩
    · rw [sized] at asks
      refine ⟨front ++ later, ⟨stop, ?_, ?_⟩, ?_⟩
      · simp only [headers, found, sized]
        exact asked.append asks
      · simp only [headers, found, sized]
        intro value done
        cases done
      · intro beyond
        simp only [headers, List.append_assoc, blind, found, blind', sized]
    · rw [sized] at asks stops
      refine ⟨front ++ later, ⟨stop, ?_, ?_⟩, ?_⟩
      · simp only [headers, found, sized]
        exact asked.append asks
      · simp only [headers, found, sized]
        intro value done
        exact stops declared rfl
      · intro beyond
        simp only [headers, List.append_assoc, blind, found, blind', sized]

variable {σ : Type} [ImageSink σ]

theorem absorbAll_asks (d : Decoder σ) (feed : Feed) :
    ∃ answers stop, Feed.Asked (none, feed) answers (stop, (absorbAll d feed).2.2) ∧
      ((absorbAll d feed).1 = .ok () → stop = some .ended) ∧
      ∀ beyond, absorbAll d (answers ++ beyond) =
        ((absorbAll d feed).1, (absorbAll d feed).2.1, beyond) := by
  induction feed generalizing d with
  | nil => exact ⟨[.ended], some .ended, .more rfl (.rest _), fun _ => rfl, fun _ => rfl⟩
  | cons answer rest ih =>
    cases answer with
    | ended => exact ⟨[.ended], some .ended, .more rfl (.rest _), fun _ => rfl, fun _ => rfl⟩
    | failed fault =>
      exact ⟨[.failed fault], some (.failed fault), .more rfl (.rest _),
        (fun done => by cases done), fun _ => rfl⟩
    | piece bytes =>
      rcases absorbed : absorb (countDelivery d bytes.length) bytes with ⟨failure | done, middle⟩
      · have stopped (rest : Feed) : absorbAll d (.piece bytes :: rest) =
            (.error failure, middle, rest) := by simp only [absorbAll, absorbed]
        rw [stopped]
        exact ⟨[.piece bytes], none, .more rfl (.rest _), (fun done => by cases done), stopped⟩
      · have goes (rest : Feed) : absorbAll d (.piece bytes :: rest) = absorbAll middle rest := by
          simp only [absorbAll, absorbed]
        obtain ⟨answers, stop, asked, stops, blind⟩ := ih middle
        rw [goes]
        exact ⟨.piece bytes :: answers, stop, .more rfl asked, stops, fun beyond => by
          rw [List.cons_append, goes, blind]⟩

-- The requests of a run, from the headers on or from behind them.
structure Run.Asks (run : Feed → Run σ) (ended : Bool) (feed : Feed) (answers : List Answer) :
    Prop where
  asked : ∃ stop, Feed.Asked (heard ended, feed) answers (stop, (run feed).feed) ∧
    ∀ outcome, (run feed).result = .ok outcome → stop = some .ended
  blind : ∀ beyond, run (answers ++ beyond) = { run feed with feed := beyond }

theorem completed_feed (policy : Policy) (header : Option Container.Header)
    (declared : DeclaredSize) (base : Nat) (result : Except Failure Unit) (d : Decoder σ)
    (feed : Feed) :
    (completed policy header declared base (result, d, feed)).feed = feed ∧
      ∀ beyond, completed policy header declared base (result, d, beyond) =
        { completed policy header declared base (result, d, feed) with feed := beyond } := by
  cases result with
  | error failure => exact ⟨rfl, fun beyond => rfl⟩
  | ok done =>
    simp only [completed]
    rcases conclude d with ⟨failure | ⟨records, index⟩, r⟩ <;> exact ⟨rfl, fun beyond => rfl⟩

-- What was collected along with the headers is used before anything more is asked for.
theorem stream_asks (policy : Policy) (header : Option Container.Header) (declared : DeclaredSize)
    (base : Nat) (inlet : Inlet) (sink : σ) (journal : Journal) :
    ∃ answers, Run.Asks
        (fun feed => stream policy header declared base { inlet with feed } sink journal)
        inlet.ended inlet.feed answers ∧
      (answers ≠ [] → ∃ d,
        absorb ⟨.empty, .start sink policy base journal, 0⟩ inlet.buffer = (.ok (), d)) := by
  obtain ⟨buffer, feed, ended, told⟩ := inlet
  rcases first : absorb ⟨.empty, .start sink policy base journal, 0⟩ buffer
    with ⟨failure | done, d⟩
  · have stopped (feed : Feed) :
        stream policy header declared base ⟨buffer, feed, ended, told⟩ sink journal =
          completed policy header declared base (.error failure, d, feed) := by
      rw [stream_completed]
      simp only [first]
    refine ⟨[], ⟨⟨heard ended, ?_, ?_⟩, ?_⟩, fun asks => absurd rfl asks⟩
    · simp only [stopped]
      exact .rest _
    · intro outcome done
      simp only [stopped] at done
      cases done
    · intro beyond
      simp only [stopped, List.nil_append]
      rfl
  · cases ended with
    | true =>
      have stays (feed : Feed) :
          stream policy header declared base ⟨buffer, feed, true, told⟩ sink journal =
            completed policy header declared base (.ok (), d, feed) := by
        rw [stream_completed]
        simp only [first, if_true]
      obtain ⟨left, other⟩ := completed_feed policy header declared base (.ok ()) d feed
      refine ⟨[], ⟨⟨some .ended, ?_, fun _ _ => rfl⟩, ?_⟩, fun asks => absurd rfl asks⟩
      · simp only [stays, left]
        exact .rest _
      · intro beyond
        simp only [stays, List.nil_append]
        exact other beyond
    | false =>
      have goes (feed : Feed) :
          stream policy header declared base ⟨buffer, feed, false, told⟩ sink journal =
            completed policy header declared base (absorbAll d feed) := by
        rw [stream_completed]
        simp only [first]
        rfl
      obtain ⟨answers, stop, asked, stops, blind⟩ := absorbAll_asks d feed
      obtain ⟨left, other⟩ := completed_feed policy header declared base (absorbAll d feed).1
        (absorbAll d feed).2.1 (absorbAll d feed).2.2
      refine ⟨answers, ⟨⟨stop, ?_, ?_⟩, ?_⟩, fun _ => ⟨d, rfl⟩⟩
      · simp only [goes]
        rw [left]
        exact asked
      · intro outcome done
        simp only [goes] at done
        rcases absorbed : absorbAll d feed with ⟨failure | finished, after, rest⟩
        · rw [absorbed] at done
          cases done
        · rw [absorbed] at stops
          exact stops rfl
      · intro beyond
        simp only [goes]
        rw [blind, other beyond]

-- All records of a stream have been taken by the image, and so has what is announced before them.
structure Taken (opened : Opened) (sink : σ) : Prop where
  aligned : ∀ record ∈ opened.records, record.aligned = true
  performed : (ImageSink.performAll sink (opened.announcing ++ opened.writes)).2 = none

theorem prepare_word {layout : Layout} {opened : Opened} {base : Nat} {sink next : σ}
    {journal told : Journal} (kept : Whole.kept layout opened.header = .ok opened.kept)
    (prepared : prepare layout opened.header opened.declared sink journal =
      (.ok base, next, told)) : opened.Fits := by
  by_contra overruns
  have broken := prepare_overruns kept overruns sink journal
  rcases performed : ImageSink.performAll sink opened.keeping with ⟨after, _ | ⟨step, fault⟩⟩
  all_goals
    rw [performed] at broken
    obtain ⟨told', same⟩ := broken
    rw [prepared] at same
    cases same

theorem absorbed_taken {settings : Settings} {opened : Opened} {base : Nat} {sink next : σ}
    {journal told : Journal} {d : Decoder σ}
    (kept : Whole.kept settings.layout opened.header = .ok opened.kept)
    (prepared : prepare settings.layout opened.header opened.declared sink journal =
      (.ok base, next, told))
    (absorbed : absorb ⟨.empty, .start next settings.policy base told, 0⟩ opened.payload =
      (.ok (), d)) : Taken opened sink := by
  have announced := prepare_exact kept (prepare_word kept prepared) sink journal
  rcases made : ImageSink.performAll sink opened.announcing with ⟨after, _ | ⟨step, fault⟩⟩
  · rw [made] at announced
    obtain ⟨told', same⟩ := announced
    rw [prepared] at same
    cases same
    have one := absorb_exact
      (d := ⟨.empty, .start next settings.policy opened.base told, 0⟩) ⟨rfl, rfl⟩ opened.payload
    have ran : Decoder.ran ⟨.empty, .start next settings.policy opened.base told, 0⟩
        opened.payload = Bench.applyAll settings.policy opened.base ⟨next, .empty⟩ 0
          opened.records := rfl
    rw [ran] at one
    rcases result : Bench.applyAll settings.policy opened.base ⟨next, .empty⟩ 0 opened.records
      with ⟨failure | count, bench⟩
    · rw [result] at one
      obtain ⟨after, stopped, -⟩ := one
      rw [absorbed] at stopped
      cases stopped
    · obtain ⟨aligned, -⟩ := Bench.applyAll_ok result
      refine ⟨aligned, ?_⟩
      have written :=
        Bench.applyAll_performs settings.policy opened.base ⟨next, .empty⟩ 0 opened.records
      have writes : (Record.sound opened.records).map (·.step opened.base) = opened.writes := rfl
      rw [result, writes] at written
      rw [ImageSink.performAll_append, made]
      rcases performed : ImageSink.performAll next opened.writes with ⟨last, _ | ⟨step, fault⟩⟩
      · simp only [performed]
      · rw [performed] at written
        cases written.1
  · rw [made] at announced
    obtain ⟨told', same⟩ := announced
    rw [prepared] at same
    cases same

theorem proceed_asks (settings : Settings) (header : Option Container.Header)
    (declared : DeclaredSize) (inlet : Inlet) (sink : σ) :
    ∃ answers, Run.Asks (fun feed => proceed settings header declared { inlet with feed } sink)
        inlet.ended inlet.feed answers ∧
      (answers ≠ [] → ∃ kept, Whole.kept settings.layout header = .ok kept ∧
        Taken ⟨header, declared, kept, inlet.buffer⟩ sink) := by
  rcases prepared : prepare settings.layout header declared sink inlet.journal
    with ⟨failure | base, next, told⟩
  · have stopped (feed : Feed) : proceed settings header declared { inlet with feed } sink =
        ⟨.readingSizeHeader, .error failure, feed, next, told⟩ := by
      simp only [proceed, prepared]
    refine ⟨[], ⟨⟨heard inlet.ended, ?_, ?_⟩, fun beyond => ?_⟩, fun asks => absurd rfl asks⟩
    · simp only [stopped]
      exact .rest _
    · intro outcome done
      simp only [stopped] at done
      cases done
    · simp only [stopped, List.nil_append]
  · have goes (feed : Feed) : proceed settings header declared { inlet with feed } sink =
        stream settings.policy header declared base { inlet with feed } next told := by
      simp only [proceed, prepared]
    obtain ⟨answers, asks, first⟩ :=
      stream_asks settings.policy header declared base inlet next told
    refine ⟨answers, by simpa only [goes] using asks, fun some => ?_⟩
    obtain ⟨d, absorbed⟩ := first some
    rcases keeps : Whole.kept settings.layout header with failure | kept
    · obtain ⟨told', failed⟩ := prepare_failed keeps declared sink inlet.journal
      rw [prepared] at failed
      cases failed
    · let opened : Opened := ⟨header, declared, kept, inlet.buffer⟩
      have keeps : Whole.kept settings.layout opened.header = .ok opened.kept := keeps
      exact ⟨kept, rfl, absorbed_taken keeps prepared absorbed⟩

theorem decode_headers (settings : Settings) (feed : Feed) (sink : σ) (journal : Journal) :
    decode settings feed sink journal =
      match headers settings feed journal with
      | (.error (stage, failure), inlet) =>
        ⟨stage, .error failure, inlet.feed, sink, inlet.journal⟩
      | (.ok (header, declared), inlet) => proceed settings header declared inlet sink := by
  rw [decode, headers]
  rcases readHeader settings feed journal with ⟨failure | header, inlet⟩
  · rfl
  · dsimp only
    rcases takeSize inlet.buffer inlet.ended inlet.feed inlet.journal
      with ⟨failure | declared, inlet⟩ <;> rfl

-- What is collected along with the headers of a stream is all of it that they leave over.
theorem headers_holds {settings : Settings} {feed : Feed} {journal : Journal} {inlet : Inlet}
    {header : Option Container.Header} {declared : DeclaredSize}
    (read : headers settings feed journal = (.ok (header, declared), inlet)) :
    inlet.content = feed.bytes.drop (Whole.frontLength header + sizeHeaderLength) := by
  obtain ⟨-, behind⟩ := readHeader_exact settings feed journal
  rw [headers] at read
  rcases found : readHeader settings feed journal with ⟨failure | header', middle⟩
  · rw [found] at read
    cases read
  · obtain ⟨-, behind'⟩ := takeSize_exact middle.buffer middle.ended middle.feed middle.journal
    rw [found] at read behind
    rcases sized : takeSize middle.buffer middle.ended middle.feed middle.journal
      with ⟨failure | declared', last⟩
    · simp only [sized] at read
      cases read
    · simp only [sized] at read behind'
      cases read
      have content := (behind' declared rfl).content
      have front : Inlet.content ⟨middle.buffer, middle.feed, middle.ended, middle.journal⟩ =
        feed.bytes.drop (Whole.frontLength header) := (behind header rfl).content
      rw [content, front, List.drop_drop]

-- The answers of a run in two parts: those that the headers were read from, and those that were
-- asked for afterwards. What the first part leaves over goes to the image before there is a second
-- part, and the second part goes behind it.
structure HandsOn (settings : Settings) (feed : Feed) (sink : σ) (run : Run σ)
    (header : Option Container.Header) (declared : DeclaredSize) (inlet : Inlet)
    (front later : List Answer) : Prop where
  asked : Feed.Asked (none, feed) front (heard inlet.ended, inlet.feed)
  leftover :
    inlet.buffer = (Feed.bytes front).drop (Whole.frontLength header + sizeHeaderLength)
  taken : later ≠ [] → ∃ kept, Whole.kept settings.layout header = .ok kept ∧
    Taken ⟨header, declared, kept, inlet.buffer⟩ sink
  ended : ∀ kept, Whole.kept settings.layout header = .ok kept →
    let opened : Opened := ⟨header, declared, kept, inlet.buffer ++ Feed.bytes later⟩
    run.ended = (opened.decoding settings.policy (Feed.fault? later)).carryOut sink

theorem decode_asks (settings : Settings) (feed : Feed) (sink : σ) (journal : Journal) :
    ∃ answers, Run.Asks (decode settings · sink journal) false feed answers ∧
      ∀ header declared inlet, headers settings feed journal = (.ok (header, declared), inlet) →
        ∃ front later, answers = front ++ later ∧
          HandsOn settings feed sink (decode settings feed sink journal) header declared inlet front
            later := by
  obtain ⟨front, ⟨stop, asked, stops⟩, blind⟩ := headers_asks settings feed journal
  rcases read : headers settings feed journal with ⟨⟨stage, failure⟩ | ⟨header, declared⟩, inlet⟩
  · rw [read] at asked
    refine ⟨front, ⟨⟨stop, ?_, ?_⟩, fun beyond => ?_⟩, fun header declared inlet got => ?_⟩
    · simp only [decode_headers, read]
      exact asked
    · intro outcome done
      simp only [decode_headers, read] at done
      cases done
    · simp only [decode_headers, blind, read]
    · cases got
  · simp only [read] at asked stops blind
    obtain rfl := stops (header, declared) rfl
    obtain ⟨later, ⟨⟨stop, asks, ends⟩, blind'⟩, first⟩ :=
      proceed_asks settings header declared inlet sink
    have decoded : decode settings feed sink journal =
        proceed settings header declared { inlet with feed := inlet.feed } sink := by
      rw [decode_headers, read]
    refine ⟨front ++ later, ⟨⟨stop, ?_, ?_⟩, fun beyond => ?_⟩, ?_⟩
    · simp only [decoded]
      exact asked.append asks
    · simp only [decoded]
      exact ends
    · simp only [decoded, List.append_assoc]
      rw [decode_headers, blind]
      exact blind' beyond
    · rintro header' declared' inlet' ⟨⟩
      have whole := headers_holds (blind [])
      rw [List.append_nil] at whole
      have spent : Inlet.remainder { inlet with feed := [] } = [] := by
        simp only [Inlet.remainder, ite_self]
      have unread : Inlet.remainder { inlet with feed := later } = later := by
        rcases ended : inlet.ended with _ | _
        · simp only [Inlet.remainder]
          rfl
        · rw [ended] at asks
          rw [asks.stopped.1]
          simp only [Inlet.remainder, ite_self]
      refine ⟨front, later, rfl, asked, ?_, first, fun kept keeps => ?_⟩
      · rw [← whole, Inlet.content, spent]
        exact (List.append_nil _).symm
      · intro opened
        have holds : Inlet.Holds { inlet with feed := later } opened.payload
            (Feed.fault? later) := ⟨by rw [Inlet.content, unread], by rw [unread]⟩
        have keeps : Whole.kept settings.layout opened.header = .ok opened.kept := keeps
        rw [← proceed_exact keeps holds sink, decoded]
        have same := congrArg Run.ended (blind' [])
        rw [List.append_nil] at same
        exact same.symm

omit [ImageSink σ] in
theorem settle_feed (session : Session) (run : Run σ) (beyond : Feed) :
    session.settle { run with feed := beyond } =
      ((session.settle run).1, { (session.settle run).2 with feed := beyond }) := by
  obtain ⟨stage, failure | outcome, feed, sink, journal⟩ := run
  · by_cases broken : failure = .brokeDown <;>
      simp only [settle, broken, if_true, if_false]
  · rfl

-- Nothing is asked of a source behind its last answer, whichever part of the stream that answer
-- came in, and a run that succeeds has heard the end. What the headers leave over comes before
-- everything that is asked for later.
theorem run_asks (session : Session) (feed : Feed) (sink : σ) (journal : Journal) :
    ∃ answers stop,
      Feed.Asked (none, feed) answers (stop, (session.run feed sink journal).2.feed) ∧
      (∃ pieces : List Bytes, answers = pieces.map .piece ++ stop.toList) ∧
      (∀ beyond, session.run (answers ++ beyond) sink journal =
        ((session.run feed sink journal).1,
          { (session.run feed sink journal).2 with feed := beyond })) ∧
      (∀ outcome, (session.run feed sink journal).2.result = .ok outcome → stop = some .ended) ∧
      ∀ header declared inlet, session.stage = .init →
        headers session.settings feed journal = (.ok (header, declared), inlet) →
        ∃ front later, answers = front ++ later ∧
          HandsOn session.settings feed sink (session.run feed sink journal).2 header declared inlet
            front later := by
  by_cases fresh : session.stage = .init
  · obtain ⟨answers, ⟨⟨stop, asked, stops⟩, blind⟩, leftover⟩ :=
      decode_asks session.settings feed sink journal
    obtain ⟨left, result, ended⟩ :=
      session.settle_keeps (decode session.settings feed sink journal)
    rw [← run_settle fresh] at left result ended
    refine ⟨answers, stop, left ▸ asked, asked.pieces, fun beyond => ?_, ?_, ?_⟩
    · rw [run_settle fresh, run_settle fresh, blind, settle_feed]
    · rw [result]
      exact stops
    · intro header declared inlet _ read
      obtain ⟨front, later, parts, hands⟩ := leftover header declared inlet read
      refine ⟨front, later, parts, hands.asked, hands.leftover, hands.taken, ?_⟩
      rw [ended]
      exact hands.ended
  · rw [run_used fresh]
    refine ⟨[], none, .rest _, ⟨[], rfl⟩, fun beyond => ?_, fun _ done => ?_, fun _ _ _ first => ?_⟩
    · rw [run_used fresh, List.nil_append]
    · cases done
    · exact absurd first fresh

-- A page that comes in one piece with the size, and a source that would go on behind its end.
theorem run_asks_whole :
    let session : Session := { settings := { container := .absent } }
    let first : Answer := .piece ([0, 16, 0, 0, 0, 0, 0, 0] ++ Record.zeros.bytes)
    let feed : Feed := [first, .ended, .piece [7]]
    let run := (session.run feed (MemoryImage.mk []) .empty).2
    (∃ outcome, run.result = .ok outcome) ∧ run.feed = [.piece [7]] ∧
      Taken ⟨none, ⟨pageSize, rfl⟩, [], Record.zeros.bytes⟩ (MemoryImage.mk []) := by
  intro session first feed run
  have bytes : feed.bytes = [0, 16, 0, 0, 0, 0, 0, 0] ++ Record.join [Record.zeros] := by
    simp [feed, first, Feed.bytes]
  have zeros : Grammar session.settings feed.bytes none [] [0, 16, 0, 0, 0, 0, 0, 0]
      ⟨pageSize, rfl⟩ [Record.zeros] := .of_absent rfl bytes rfl (by decide) (by decide +kernel)
  obtain ⟨kept, -, accepted⟩ :=
    run_grammar rfl rfl (memory_undisturbed ⟨[]⟩ session feed .empty) zeros (by decide)
  have sized : DeclaredSize.parse ([0, 16, 0, 0, 0, 0, 0, 0] ++ Record.zeros.bytes) =
      .ok (some ⟨pageSize, rfl⟩) := DeclaredSize.parse_append (by decide) _
  have nothing : DeclaredSize.parse [] = .ok none := rfl
  have read : ∃ journal, headers session.settings feed .empty = (.ok (none, ⟨pageSize, rfl⟩),
      ⟨Record.zeros.bytes, [.ended, .piece [7]], false, journal⟩) := by
    simp only [headers, session, readHeader, feed, first, takeSize, nothing, List.nil_append, sized]
    exact ⟨_, rfl⟩
  obtain ⟨journal, read⟩ := read
  obtain ⟨answers, stop, asked, -, -, ends, reads⟩ :=
    run_asks session feed (MemoryImage.mk []) .empty
  obtain rfl := ends _ accepted
  obtain ⟨front, later, parts, hands⟩ := reads none _ _ rfl read
  have twice (bytes : Bytes) {left : Feed}
      (asked : Feed.Asked (none, [.piece bytes, .ended, .piece [7]]) answers (some .ended, left)) :
      answers = [.piece bytes, .ended] ∧ left = [.piece [7]] := by
    rcases asked with _ | ⟨⟨⟩, asked⟩
    rcases (asked : Feed.Asked (none, [.ended, .piece [7]]) _ _) with _ | ⟨⟨⟩, asked⟩
    obtain ⟨rfl, same⟩ := Feed.Asked.stopped asked
    exact ⟨rfl, congrArg Prod.snd same⟩
  obtain ⟨pieces, given⟩ := hands.asked.pieces
  obtain ⟨kept, keeps, taken⟩ := hands.taken <| by
    rintro rfl
    have ended : Answer.ended ∈ front := by
      rw [← List.append_nil front, ← parts, (twice _ asked).1]
      exact List.mem_cons_of_mem _ List.mem_cons_self
    rw [given] at ended
    simp [heard] at ended
  cases keeps
  exact ⟨⟨_, accepted⟩, (twice _ asked).2, taken⟩

end Session

end PageStream
