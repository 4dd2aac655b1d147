import Voyager.Net.Error

namespace Voyager.Net

structure QuerySummary where
  nodesCreated : UInt64
  nodesDeleted : UInt64
  relationshipsCreated : UInt64
  relationshipsDeleted : UInt64
  propertiesSet : UInt64
  labelsAdded : UInt64
  labelsRemoved : UInt64
  indexesAdded : UInt64
  constraintsAdded : UInt64
  executionTimeMs : UInt64
deriving DecidableEq, Repr

def QuerySummary.empty : QuerySummary := ⟨0, 0, 0, 0, 0, 0, 0, 0, 0, 0⟩

structure QueryResult (Batch : Type) where
  columns : List String
  batches : List Batch
  summary : QuerySummary

end Voyager.Net
