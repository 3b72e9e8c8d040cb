import PageStream.Failure

namespace PageStream.CommandLine

structure Diagnosis where
  doing : String
  causes : List String

namespace Diagnosis

-- A failure is a cause, and behind it the device's own report.
def ofFailure (doing : String) (failure : Failure) : Diagnosis :=
  ⟨doing, failure.message :: (failure.fault?.map DeviceFault.message).toList⟩

def ofFault (doing : String) (fault : DeviceFault) : Diagnosis := ⟨doing, [fault.message]⟩

def hanging (lead : String) (text : String) : String :=
  let indent := String.ofList (List.replicate lead.length ' ')
  lead ++ String.intercalate ("\n" ++ indent) (text.splitOn "\n")

-- A number takes up five places and is followed by a colon.
def numbered (cause : String) (number : Nat) : String :=
  let digits := toString number
  hanging (String.ofList (List.replicate (5 - digits.length) ' ') ++ digits ++ ": ") cause

def causeLines (diagnosis : Diagnosis) : List String :=
  match diagnosis.causes with
  | [] => []
  | [cause] => ["", "Caused by:", hanging "    " cause]
  | causes => ["", "Caused by:"] ++ causes.zipIdx.map fun (cause, number) => numbered cause number

def text (diagnosis : Diagnosis) : String :=
  String.intercalate "\n" (diagnosis.doing :: diagnosis.causeLines)

end Diagnosis

end PageStream.CommandLine
