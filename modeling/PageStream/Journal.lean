import PageStream.Metrics
import PageStream.Notice

namespace PageStream

structure Journal where
  metrics : Metrics := {}
  -- The latest notice first.
  notices : List Notice := []

namespace Journal

def empty : Journal := {}

def count (journal : Journal) (tally : Tally) : Journal :=
  { journal with metrics := journal.metrics.count tally }

def note (journal : Journal) (notice : Notice) : Journal :=
  { journal with notices := notice :: journal.notices }

def noteAll (journal : Journal) (notices : List Notice) : Journal :=
  notices.foldl note journal

def inOrder (journal : Journal) : List Notice := journal.notices.reverse

end Journal

end PageStream
