import RelayPool.Log.Record

/-!
# Journals

What happens to the log of a run: records are made, and the level is changed
from which on they are kept.
-/

namespace RelayPool.Log

/-- A record is made, or another least level is set. -/
inductive Event
  | record (record : Record)
  | threshold (level : Level)
  deriving DecidableEq, Repr

/-- The records that are kept, with the least level at first. -/
def kept (least : Level) : List Event → List Record
  | [] => []
  | .threshold level :: rest => kept level rest
  | .record record :: rest =>
      if least.number ≤ record.level.number then record :: kept least rest
      else kept least rest

end RelayPool.Log
