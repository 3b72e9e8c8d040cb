import PageStream.Proofs.Reading
import PageStream.Proofs.Stages

namespace PageStream

def ReadStep.halt : ReadStep → Reader.GatherEnd
  | .fault report => .fault report
  | .crash => .fault .readerCrashed
  | _ => .atEnd

-- What is to blame where a reader stops too early: its own report, or else the stream.
def ReadStep.blame (step : ReadStep) (cut : Malformation) : Failure :=
  match step.halt with
  | .fault report => .read report
  | _ => .malformed cut

-- A report that the fixed part of a header takes for an end of the stream.
def ReadStep.early : ReadStep → Bool
  | .fault report => report.isEarlyEnd
  | _ => false

namespace Reader

def served : Reader → Bytes
  | .data bytes :: rest => bytes ++ served rest
  | .interrupted :: rest => served rest
  | _ => []

def beyond : Reader → Reader
  | .data _ :: rest => beyond rest
  | .interrupted :: rest => beyond rest
  | _ :: rest => rest
  | [] => []

theorem ofSteps_served (steps : List ReadStep) :
    (ofSteps steps).served = served steps ∧ (ofSteps steps).stop = stop steps := by
  induction steps with
  | nil => exact ⟨rfl, rfl⟩
  | cons step rest ih =>
    obtain ⟨same, ends⟩ := ih
    cases step with
    | data bytes =>
      cases bytes with
      | nil => exact ⟨same, ends⟩
      | cons byte more => exact ⟨congrArg (byte :: more ++ ·) same, ends⟩
    | interrupted => exact ⟨same, ends⟩
    | endOfFile => exact ⟨rfl, rfl⟩
    | fault report => exact ⟨rfl, rfl⟩
    | crash => exact ⟨rfl, rfl⟩

theorem gather_data (needed : Nat) (bytes : Bytes) (rest : Reader) :
    gather (needed + 1) (.data bytes :: rest) =
      if bytes.length ≤ needed + 1 then
        { gather (needed + 1 - bytes.length) rest with
          bytes := bytes ++ (gather (needed + 1 - bytes.length) rest).bytes }
      else ⟨bytes.take (needed + 1), .complete, .data (bytes.drop (needed + 1)) :: rest⟩ := rfl

theorem gather_enough {needed : Nat} {reader : Reader} (enough : needed ≤ reader.served.length) :
    (reader.gather needed).bytes = reader.served.take needed ∧
      (reader.gather needed).stop = .complete ∧
      (reader.gather needed).rest.served = reader.served.drop needed ∧
      (reader.gather needed).rest.stop = reader.stop := by
  induction reader generalizing needed with
  | nil =>
    cases needed with
    | zero => exact ⟨rfl, rfl, rfl, rfl⟩
    | succ needed => cases enough
  | cons step rest ih =>
    cases needed with
    | zero => exact ⟨rfl, rfl, rfl, rfl⟩
    | succ needed =>
      cases step with
      | data bytes =>
        simp only [served, List.length_append] at enough
        rw [gather_data]
        split
        · rename_i within
          have left : needed + 1 - bytes.length ≤ (served rest).length := by omega
          obtain ⟨taken, complete, behind, ends⟩ := ih left
          refine ⟨?_, complete, ?_, ends⟩
          · rw [served, List.take_append, List.take_of_length_le within, taken]
          · rw [served, List.drop_append, List.drop_of_length_le within, behind]
            rfl
        · rename_i beyond
          have short : needed + 1 ≤ bytes.length := by omega
          refine ⟨?_, rfl, ?_, rfl⟩
          · rw [served, List.take_append_of_le_length short]
          · simp only [served, List.drop_append_of_le_length short]
      | interrupted => exact ih enough
      | endOfFile => cases enough
      | fault report => cases enough
      | crash => cases enough

theorem gather_short {needed : Nat} {reader : Reader} (short : reader.served.length < needed) :
    (reader.gather needed).bytes = reader.served ∧
      (reader.gather needed).stop = reader.stop.halt ∧
      (reader.gather needed).rest = reader.beyond := by
  induction reader generalizing needed with
  | nil =>
    cases needed with
    | zero => cases short
    | succ needed => exact ⟨rfl, rfl, rfl⟩
  | cons step rest ih =>
    cases needed with
    | zero => cases short
    | succ needed =>
      cases step with
      | data bytes =>
        simp only [served, List.length_append] at short
        have within : bytes.length ≤ needed + 1 := by omega
        have left : (served rest).length < needed + 1 - bytes.length := by omega
        obtain ⟨taken, ends, behind⟩ := ih left
        rw [gather_data, if_pos within]
        exact ⟨congrArg (bytes ++ ·) taken, ends, behind⟩
      | interrupted => exact ih short
      | endOfFile => exact ⟨rfl, rfl, rfl⟩
      | fault report => exact ⟨rfl, rfl, rfl⟩
      | crash => exact ⟨rfl, rfl, rfl⟩

end Reader

namespace Container.Parser

-- What a buffer with the reader's bytes would say. Too few bytes for a header are a failure here.
theorem readFrom_stops (parser : Parser) (reader : Reader) :
    match parser.parse reader.served with
    | .error failure => parser.readFrom reader = .error failure
    | .ok none =>
      if reader.served.length < fixedLength then
        parser.readFrom reader = .error (if reader.stop.early then .malformed .fixedPartCut
          else reader.stop.blame .fixedPartCut)
      else ∃ got needed,
        parser.readFrom reader = .error (reader.stop.blame (.descriptorCut got needed))
    | .ok (some header) => ∃ rest, parser.readFrom reader = .ok (header, rest) ∧
        rest.served = reader.served.drop header.payloadOffset ∧ rest.stop = reader.stop := by
  by_cases cut : reader.served.length < fixedLength
  · obtain ⟨-, halts, -⟩ := Reader.gather_short cut
    simp only [parse, cut, if_true, readFrom, halts]
    cases reader.stop with
    | fault report =>
      cases known : report.isEarlyEnd with
      | true =>
        have early : (ReadStep.fault report).early = true := known
        simp only [ReadStep.halt, known, early, if_true]
      | false =>
        have late : (ReadStep.fault report).early = false := known
        simp only [ReadStep.halt, ReadStep.blame, known, late, Bool.false_eq_true, if_false]
    | data bytes | interrupted | endOfFile | crash => rfl
  · obtain ⟨taken, complete, behind, ends⟩ := Reader.gather_enough (Nat.le_of_not_lt cut)
    simp only [parse, cut, if_false, readFrom, complete, taken]
    cases known : parser.parseFixed (reader.served.take fixedLength) with
    | error failure => rfl
    | ok fixed =>
      have room : (reader.gather fixedLength).rest.served.length =
          reader.served.length - fixedLength := by rw [behind, List.length_drop]
      by_cases lacking : reader.served.length < fixedLength + fixed.descriptorLength
      · have short : (reader.gather fixedLength).rest.served.length < fixed.descriptorLength := by
          omega
        obtain ⟨-, halts, -⟩ := Reader.gather_short short
        rw [ends] at halts
        simp only [lacking, if_true, halts, ReadStep.blame]
        refine ⟨((reader.gather fixedLength).rest.gather fixed.descriptorLength).bytes.length,
          fixed.descriptorLength, ?_⟩
        cases reader.stop <;> rfl
      · have enough : fixed.descriptorLength ≤ (reader.gather fixedLength).rest.served.length := by
          omega
        obtain ⟨descriptor, whole, after, last⟩ := Reader.gather_enough enough
        rw [behind] at descriptor after
        simp only [lacking, if_false, whole, descriptor]
        cases done : Parser.complete fixed
            ((reader.served.drop fixedLength).take fixed.descriptorLength) with
        | error failure => rfl
        | ok header =>
          obtain ⟨-, rfl⟩ := complete_ok.mp done
          refine ⟨_, rfl, ?_, last.trans ends⟩
          have size : ((reader.served.drop fixedLength).take fixed.descriptorLength).length =
              fixed.descriptorLength := by
            rw [List.length_take, List.length_drop]
            omega
          rw [after, Header.payloadOffset, size, List.drop_drop]

theorem readFrom_served (parser : Parser) {reader : Reader} (ends : reader.stop = .endOfFile) :
    match parser.parse reader.served with
    | .error failure => parser.readFrom reader = .error failure
    | .ok none => ∃ failure, parser.readFrom reader = .error failure ∧
        failure.Blames .containerHeader
    | .ok (some header) => ∃ rest, parser.readFrom reader = .ok (header, rest) ∧
        rest.served = reader.served.drop header.payloadOffset ∧ rest.stop = .endOfFile := by
  have stops := parser.readFrom_stops reader
  cases parsed : parser.parse reader.served with
  | error failure =>
    rw [parsed] at stops
    exact stops
  | ok found =>
    rw [parsed, ends] at stops
    cases found with
    | some header => exact stops
    | none =>
      dsimp only at stops
      split at stops
      · exact ⟨_, stops, _, rfl, rfl⟩
      · obtain ⟨got, needed, cut⟩ := stops
        exact ⟨_, cut, _, rfl, rfl⟩

end Container.Parser

theorem DeclaredSize.readFrom_stops (reader : Reader) :
    match parse reader.served with
    | .error failure => readFrom reader = .error failure
    | .ok none => readFrom reader = .error (reader.stop.blame (.sizeCut reader.served.length))
    | .ok (some size) => ∃ rest, readFrom reader = .ok (size, rest) ∧
        rest.served = reader.served.drop sizeHeaderLength ∧ rest.stop = reader.stop := by
  by_cases cut : reader.served.length < sizeHeaderLength
  · obtain ⟨taken, halts, -⟩ := Reader.gather_short cut
    simp only [parse, cut, if_true, readFrom, halts, taken, ReadStep.blame]
    cases reader.stop <;> rfl
  · obtain ⟨taken, complete, behind, ends⟩ := Reader.gather_enough (Nat.le_of_not_lt cut)
    have word : wordAt reader.served 0 sizeHeaderLength =
        ofLe (reader.served.take sizeHeaderLength) := rfl
    simp only [parse, cut, if_false, readFrom, complete, taken, word]
    cases fits : ofBytes (ofLe (reader.served.take sizeHeaderLength)) with
    | error failure => rfl
    | ok size => exact ⟨_, rfl, behind, ends⟩

theorem DeclaredSize.readFrom_served {reader : Reader} (ends : reader.stop = .endOfFile) :
    match parse reader.served with
    | .error failure => readFrom reader = .error failure
    | .ok none => readFrom reader = .error (.malformed (.sizeCut reader.served.length))
    | .ok (some size) => ∃ rest, readFrom reader = .ok (size, rest) ∧
        rest.served = reader.served.drop sizeHeaderLength ∧ rest.stop = .endOfFile := by
  have stops := readFrom_stops reader
  rw [ends] at stops
  exact stops

end PageStream
