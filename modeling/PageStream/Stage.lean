namespace PageStream

inductive Phase where
  | containerHeader
  | sizeHeader
  | pageRecords
  deriving DecidableEq

def Phase.name : Phase → String
  | .containerHeader => "container header"
  | .sizeHeader => "size header"
  | .pageRecords => "page records"

inductive Stage where
  | init
  | readingContainerHeader
  | readingSizeHeader
  | streamingRecords
  | validating
  | done
  | failed
  deriving DecidableEq

def Stage.label : Stage → String
  | .init => "Init"
  | .readingContainerHeader => "ReadingContainerHeader"
  | .readingSizeHeader => "ReadingSizeHeader"
  | .streamingRecords => "StreamingRecords"
  | .validating => "Validating"
  | .done => "Done"
  | .failed => "Failed"

end PageStream
