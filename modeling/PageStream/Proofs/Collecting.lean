import PageStream.Proofs.Gathering

namespace PageStream

namespace Reader

-- Bytes in pieces of any length, none of them empty, interruptions anywhere, and then the end.
inductive Serves : Reader → Bytes → Prop where
  | exhausted : Serves [] []
  | ended (rest : Reader) : Serves (.endOfFile :: rest) []
  | interrupted {rest : Reader} {bytes : Bytes} (serves : Serves rest bytes) :
      Serves (.interrupted :: rest) bytes
  | piece {rest : Reader} {bytes piece : Bytes} (some : piece ≠ []) (serves : Serves rest bytes) :
      Serves (.data piece :: rest) (piece ++ bytes)

-- One read after another until enough bytes are there. Each asks for some of those that are missing,
-- and is made again when it is interrupted.
inductive Collects : Nat → Reader → Gathered → Prop where
  | complete (reader : Reader) : Collects 0 reader ⟨[], .complete, reader⟩
  | got {needed limit : Nat} {reader rest : Reader} {bytes : Bytes} {more : Gathered}
      (asks : 0 < limit) (missing : limit ≤ needed) (answer : reader.read limit = (.got bytes, rest))
      (some : bytes ≠ []) (goes : Collects (needed - bytes.length) rest more) :
      Collects needed reader { more with bytes := bytes ++ more.bytes }
  | atEnd {needed limit : Nat} {reader rest : Reader} (asks : 0 < limit) (missing : limit ≤ needed)
      (answer : reader.read limit = (.got [], rest)) : Collects needed reader ⟨[], .atEnd, rest⟩
  | interrupted {needed limit : Nat} {reader rest : Reader} {gathered : Gathered}
      (asks : 0 < limit) (missing : limit ≤ needed)
      (answer : reader.read limit = (.interrupted, rest)) (goes : Collects needed rest gathered) :
      Collects needed reader gathered
  | fault {needed limit : Nat} {reader rest : Reader} {report : DeviceFault} (asks : 0 < limit)
      (missing : limit ≤ needed) (answer : reader.read limit = (.fault report, rest)) :
      Collects needed reader ⟨[], .fault report, rest⟩
  | crashed {needed limit : Nat} {reader rest : Reader} (asks : 0 < limit)
      (missing : limit ≤ needed) (answer : reader.read limit = (.crashed, rest)) :
      Collects needed reader ⟨[], .fault .readerCrashed, rest⟩

theorem gather_zero (reader : Reader) : reader.gather 0 = ⟨[], .complete, reader⟩ := by
  cases reader <;> rfl

theorem gather_parts {limit needed : Nat} {bytes : Bytes} (asks : 0 < limit)
    (missing : limit ≤ needed) (shorter : limit < bytes.length) (rest : Reader) :
    gather needed (.data bytes :: rest) =
      { gather (needed - limit) (.data (bytes.drop limit) :: rest) with
        bytes := bytes.take limit ++
          (gather (needed - limit) (.data (bytes.drop limit) :: rest)).bytes } := by
  obtain ⟨wanted, rfl⟩ := Nat.exists_eq_add_of_lt (Nat.lt_of_lt_of_le asks missing)
  simp only [Nat.zero_add] at missing ⊢
  rw [gather_data]
  cases left : wanted + 1 - limit with
  | zero =>
    have whole : limit = wanted + 1 := by omega
    subst whole
    rw [if_neg (by omega)]
    simp only [gather, List.append_nil]
  | succ more =>
    have sum : wanted + 1 = limit + (more + 1) := by omega
    rw [gather_data, List.length_drop]
    by_cases within : bytes.length ≤ wanted + 1
    · have same : more + 1 - (bytes.length - limit) = wanted + 1 - bytes.length := by omega
      rw [if_pos within, if_pos (by omega), same]
      simp only [← List.append_assoc, List.take_append_drop]
    · rw [if_neg within, if_neg (by omega), sum]
      simp only [List.take_add, List.drop_drop]

theorem gather_read {needed limit : Nat} (asks : 0 < limit) (missing : limit ≤ needed)
    {reader : Reader} (solid : reader.Solid) :
    reader.gather needed =
      match reader.read limit with
      | (.got bytes, rest) =>
        if bytes = [] then ⟨[], .atEnd, rest⟩
        else
          let more := rest.gather (needed - bytes.length)
          { more with bytes := bytes ++ more.bytes }
      | (.interrupted, rest) => rest.gather needed
      | (.fault report, rest) => ⟨[], .fault report, rest⟩
      | (.crashed, rest) => ⟨[], .fault .readerCrashed, rest⟩ := by
  cases needed with
  | zero => omega
  | succ needed =>
    cases reader with
    | nil => rfl
    | cons step rest =>
      cases step with
      | data bytes =>
        obtain ⟨-, -, taken, -⟩ := read_data asks solid
        simp only [read, taken, if_false]
        by_cases shorter : limit < bytes.length
        · have length : (bytes.take limit).length = limit := by
            simp only [List.length_take]
            omega
          rw [gather_parts asks missing shorter, length]
          cases left : bytes.drop limit with
          | nil =>
            have nothing := congrArg List.length left
            simp only [List.length_drop, List.length_nil] at nothing
            omega
          | cons byte more => rfl
        · have whole : bytes.length ≤ limit := Nat.le_of_not_lt shorter
          rw [gather_data, if_pos (Nat.le_trans whole missing)]
          simp only [List.take_of_length_le whole, List.drop_of_length_le whole]
      | interrupted => rfl
      | endOfFile => rfl
      | fault report => rfl
      | crash => rfl

-- What a read leaves is without empty pieces too, and less unless the read came to an end.
theorem read_rest {limit : Nat} (asks : 0 < limit) {reader : Reader} (solid : reader.Solid) :
    (reader.read limit).2.Solid ∧
      (reader ≠ [] → (reader.read limit).2.budget < reader.budget) := by
  cases reader with
  | nil => exact ⟨solid, fun some => absurd rfl some⟩
  | cons step rest =>
    cases step with
    | data bytes =>
      obtain ⟨after, answer, -, solid, less, -⟩ := read_data asks solid
      rw [answer]
      exact ⟨solid, fun _ => less⟩
    | interrupted | endOfFile | crash => exact ⟨solid.tail, fun _ => by simp only [read, budget]; omega⟩
    | fault report => exact ⟨solid.tail, fun _ => by simp only [read, budget]; omega⟩

theorem collects_gather {needed : Nat} {reader : Reader} {gathered : Gathered}
    (collects : Collects needed reader gathered) (solid : reader.Solid) :
    gathered = reader.gather needed := by
  induction collects with
  | complete reader => exact (gather_zero reader).symm
  | got asks missing answer some goes ih =>
    have rest := (read_rest asks solid).1
    rw [answer] at rest
    rw [gather_read asks missing solid, answer, ih rest]
    exact (if_neg some).symm
  | atEnd asks missing answer =>
    rw [gather_read asks missing solid, answer]
    rfl
  | interrupted asks missing answer goes ih =>
    have rest := (read_rest asks solid).1
    rw [answer] at rest
    rw [gather_read asks missing solid, answer]
    exact ih rest
  | fault asks missing answer => rw [gather_read asks missing solid, answer]
  | crashed asks missing answer => rw [gather_read asks missing solid, answer]

theorem gather_collects {needed : Nat} {reader : Reader} (solid : reader.Solid) :
    Collects needed reader (reader.gather needed) := by
  induction size : reader.budget using Nat.strongRecOn generalizing reader needed with
  | ind size ih =>
    subst size
    by_cases nothing : needed = 0
    · subst nothing
      rw [gather_zero]
      exact .complete reader
    · have asks : 0 < needed := by omega
      obtain ⟨rest, less⟩ := read_rest asks solid
      have read := gather_read asks (Nat.le_refl needed) solid
      rcases answer : reader.read needed with ⟨answered, left⟩
      rw [answer] at read rest less
      rw [read]
      cases answered with
      | got bytes =>
        by_cases ended : bytes = []
        · subst ended
          exact .atEnd asks (Nat.le_refl needed) answer
        · have some : reader ≠ [] := by
            intro nothing
            subst nothing
            cases answer
            exact ended rfl
          simp only [ended, if_false]
          exact .got asks (Nat.le_refl needed) answer ended (ih _ (less some) rest rfl)
      | interrupted =>
        have some : reader ≠ [] := by
          intro nothing
          subst nothing
          cases answer
        exact .interrupted asks (Nat.le_refl needed) answer (ih _ (less some) rest rfl)
      | fault report => exact .fault asks (Nat.le_refl needed) answer
      | crashed => exact .crashed asks (Nat.le_refl needed) answer

theorem collects_exact {needed : Nat} {reader : Reader} {gathered : Gathered}
    (solid : reader.Solid) : Collects needed reader gathered ↔ gathered = reader.gather needed :=
  ⟨fun collects => collects_gather collects solid, fun same => same ▸ gather_collects solid⟩

theorem Serves.served {reader : Reader} {bytes : Bytes} (serves : reader.Serves bytes) :
    reader.served = bytes ∧ reader.stop = .endOfFile := by
  induction serves with
  | exhausted => exact ⟨rfl, rfl⟩
  | ended rest => exact ⟨rfl, rfl⟩
  | interrupted serves ih => exact ih
  | piece some serves ih => exact ⟨congrArg _ ih.1, ih.2⟩

theorem Serves.rest {reader : Reader} {bytes : Bytes} (serves : reader.Serves bytes) {needed : Nat}
    (enough : needed ≤ bytes.length) :
    (reader.gather needed).rest.Serves (bytes.drop needed) := by
  induction serves generalizing needed with
  | exhausted =>
    obtain rfl : needed = 0 := Nat.le_zero.mp enough
    exact .exhausted
  | ended rest =>
    obtain rfl : needed = 0 := Nat.le_zero.mp enough
    exact .ended rest
  | @interrupted rest bytes serves ih =>
    cases needed with
    | zero => exact .interrupted serves
    | succ needed => exact ih enough
  | @piece rest bytes piece some serves ih =>
    cases needed with
    | zero => exact .piece some serves
    | succ needed =>
      rw [gather_data]
      by_cases within : piece.length ≤ needed + 1
      · have left : needed + 1 - piece.length ≤ bytes.length := by
          simp only [List.length_append] at enough
          omega
        rw [if_pos within, List.drop_append, List.drop_of_length_le within]
        exact ih left
      · have more : piece.drop (needed + 1) ≠ [] := by
          intro nothing
          have length := congrArg List.length nothing
          simp only [List.length_drop, List.length_nil] at length
          omega
        rw [if_neg within, List.drop_append_of_le_length (by omega)]
        exact .piece more serves

theorem Serves.complete {reader : Reader} {bytes : Bytes} (serves : reader.Serves bytes)
    {needed : Nat} (complete : (reader.gather needed).stop = .complete) :
    needed ≤ bytes.length ∧ (reader.gather needed).bytes = bytes.take needed ∧
      (reader.gather needed).rest.Serves (bytes.drop needed) := by
  obtain ⟨served, ends⟩ := serves.served
  by_cases enough : needed ≤ bytes.length
  · have taken := (gather_enough (served ▸ enough)).1
    exact ⟨enough, served ▸ taken, serves.rest enough⟩
  · have halts := (gather_short (served ▸ Nat.lt_of_not_le enough)).2.1
    rw [ends, complete] at halts
    cases halts

end Reader

namespace Container.Parser

theorem readFrom_ok {parser : Parser} {reader rest : Reader} {header : Header}
    (read : parser.readFrom reader = .ok (header, rest)) :
    (reader.gather fixedLength).stop = .complete ∧
      ∃ fixed, parser.parseFixed (reader.gather fixedLength).bytes = .ok fixed ∧
        ∃ descriptor, (reader.gather fixedLength).rest.gather fixed.descriptorLength = descriptor ∧
          descriptor.stop = .complete ∧ complete fixed descriptor.bytes = .ok header ∧
          rest = descriptor.rest := by
  unfold readFrom at read
  dsimp only at read
  split at read
  · cases read
  · split at read <;> cases read
  · rename_i whole
    refine ⟨whole, ?_⟩
    split at read
    · cases read
    · rename_i fixed known
      split at read
      · cases read
      · cases read
      · rename_i all
        cases done : complete fixed
            ((reader.gather fixedLength).rest.gather fixed.descriptorLength).bytes with
        | error failure =>
          rw [done] at read
          cases read
        | ok found =>
          rw [done] at read
          cases read
          exact ⟨fixed, known, _, rfl, all, done, rfl⟩

theorem readFrom_rest {parser : Parser} {reader rest : Reader} {bytes : Bytes} {header : Header}
    (serves : reader.Serves bytes) (read : parser.readFrom reader = .ok (header, rest)) :
    header.payloadOffset ≤ bytes.length ∧ rest.Serves (bytes.drop header.payloadOffset) := by
  obtain ⟨whole, fixed, -, descriptor, rfl, all, done, rfl⟩ := readFrom_ok read
  obtain ⟨long, -, behind⟩ := serves.complete whole
  obtain ⟨enough, taken, left⟩ := behind.complete all
  obtain ⟨-, rfl⟩ := complete_ok.mp done
  have offset : fixedLength + ((reader.gather fixedLength).rest.gather
      fixed.descriptorLength).bytes.length = fixedLength + fixed.descriptorLength := by
    rw [taken, List.length_take_of_le enough]
  simp only [List.length_drop] at enough
  simp only [Header.payloadOffset, offset]
  rw [List.drop_drop] at left
  exact ⟨by omega, left⟩

-- The same header, the same failure, or one that says that the stream ended too early.
theorem readFrom_serves (parser : Parser) {reader : Reader} {bytes : Bytes}
    (serves : reader.Serves bytes) :
    (∀ header, (∃ rest, parser.readFrom reader = .ok (header, rest)) ↔
      parser.parse bytes = .ok (some header)) ∧
    (∀ failure, parser.parse bytes = .error failure → parser.readFrom reader = .error failure) ∧
    (parser.parse bytes = .ok none →
      ∃ failure, parser.readFrom reader = .error failure ∧ failure.Blames .containerHeader) := by
  obtain ⟨rfl, ends⟩ := serves.served
  have reads := parser.readFrom_served ends
  cases parsed : parser.parse reader.served with
  | error failure =>
    rw [parsed] at reads
    have refused : parser.readFrom reader = .error failure := reads
    simp [refused]
  | ok found =>
    rw [parsed] at reads
    cases found with
    | none =>
      obtain ⟨failure, refused, blames⟩ := reads
      simp [refused, blames]
    | some known =>
      obtain ⟨rest, read, -⟩ := reads
      simp [read]

end Container.Parser

theorem DeclaredSize.readFrom_serves {reader : Reader} {bytes : Bytes}
    (serves : reader.Serves bytes) :
    (∀ size, (∃ rest, readFrom reader = .ok (size, rest)) ↔ parse bytes = .ok (some size)) ∧
    (∀ failure, parse bytes = .error failure → readFrom reader = .error failure) ∧
    (bytes.length < sizeHeaderLength →
      readFrom reader = .error (.malformed (.sizeCut bytes.length))) := by
  obtain ⟨rfl, ends⟩ := serves.served
  have reads := readFrom_served ends
  have short : reader.served.length < sizeHeaderLength → parse reader.served = .ok none := by
    intro few
    simp only [parse, few, if_true]
  cases parsed : parse reader.served with
  | error failure =>
    rw [parsed] at reads short
    have refused : readFrom reader = .error failure := reads
    refine ⟨by simp [refused], by simp [refused], ?_⟩
    intro few
    cases short few
  | ok found =>
    rw [parsed] at reads short
    cases found with
    | none =>
      have cut : readFrom reader = .error (.malformed (.sizeCut reader.served.length)) := reads
      simp [cut]
    | some known =>
      obtain ⟨rest, read, -⟩ := reads
      refine ⟨by simp [read], by simp, ?_⟩
      intro few
      cases short few

-- A reader and a buffer with the same bytes give the same headers and refuse the same ones. The
-- declared size is then read from just behind the container header.
theorem Container.Parser.readFrom_agrees (parser : Container.Parser) {reader : Reader}
    {bytes : Bytes} (serves : reader.Serves bytes) :
    (∀ header, (∃ rest, parser.readFrom reader = .ok (header, rest)) ↔
      parser.parse bytes = .ok (some header)) ∧
    (∀ failure, parser.parse bytes = .error failure → parser.readFrom reader = .error failure) ∧
    (parser.parse bytes = .ok none →
      ∃ failure, parser.readFrom reader = .error failure ∧ failure.Blames .containerHeader) ∧
    ∀ header rest, parser.readFrom reader = .ok (header, rest) →
      header.payloadOffset ≤ bytes.length ∧ rest.Serves (bytes.drop header.payloadOffset) ∧
      (∀ size, (∃ left, DeclaredSize.readFrom rest = .ok (size, left)) ↔
        DeclaredSize.parse (bytes.drop header.payloadOffset) = .ok (some size)) ∧
      (∀ failure, DeclaredSize.parse (bytes.drop header.payloadOffset) = .error failure →
        DeclaredSize.readFrom rest = .error failure) ∧
      (bytes.length < header.payloadOffset + sizeHeaderLength → DeclaredSize.readFrom rest =
        .error (.malformed (.sizeCut (bytes.length - header.payloadOffset)))) := by
  obtain ⟨headers, refused, cut⟩ := parser.readFrom_serves serves
  refine ⟨headers, refused, cut, ?_⟩
  intro header rest read
  obtain ⟨enough, left⟩ := readFrom_rest serves read
  obtain ⟨sizes, misaligned, short⟩ := DeclaredSize.readFrom_serves left
  refine ⟨enough, left, sizes, misaligned, ?_⟩
  intro few
  rw [List.length_drop] at short
  apply short
  omega

-- Interruptions, cuts inside the magic and the descriptor, and five bytes of a size.
theorem Container.Parser.readFrom_agrees_interrupted :
    let header := Container.Header.ofText ⟨.final, .final⟩ "<domain/>" true .xz
    let bytes := header.encode.take 7 ++ ((header.encode.drop 7).take 90 ++
      ((header.encode.drop 97 ++ [0, 16]) ++ ([0, 0, 0] ++ [])))
    let reader : Reader := [.interrupted, .data (header.encode.take 7), .interrupted, .interrupted,
      .data ((header.encode.drop 7).take 90), .data (header.encode.drop 97 ++ [0, 16]), .interrupted,
      .data [0, 0, 0], .endOfFile]
    reader.Serves bytes ∧ Container.Parser.standard.parse bytes = .ok (some header) ∧
      ∃ rest, Container.Parser.standard.readFrom reader = .ok (header, rest) ∧
        DeclaredSize.readFrom rest = .error (.malformed (.sizeCut 5)) := by
  intro header bytes reader
  have serves : reader.Serves bytes :=
    .interrupted (.piece (by decide +kernel) (.interrupted (.interrupted (.piece (by decide +kernel)
      (.piece (by decide +kernel) (.interrupted (.piece (by decide) (.ended []))))))))
  have parsed : Container.Parser.standard.parse bytes = .ok (some header) := by decide +kernel
  obtain ⟨headers, -, -, behind⟩ := readFrom_agrees Container.Parser.standard serves
  obtain ⟨rest, read⟩ := (headers header).mpr parsed
  obtain ⟨-, -, -, -, short⟩ := behind header rest read
  have left : bytes.length - header.payloadOffset = 5 := by decide +kernel
  have cut := short (by decide +kernel)
  rw [left] at cut
  exact ⟨serves, parsed, rest, read, cut⟩

end PageStream
