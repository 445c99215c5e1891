import QueryDesk.Proofs.Enrichment
import QueryDesk.Proofs.JoinedCells
import QueryDesk.Proofs.SideBySide

/-!
# Partial metadata

The relationships of an entity and the attributes of several entities are put together from requests of which some may
fail. What is told is then the parts that succeeded, in their order (`partial_metadata`). The entities are described side
by side: a `describeTalk` each, in a batch.
-/

namespace QueryDesk

open Metadata

/-! ### A request as a talk -/

namespace Talk

variable {α : Type}

/-- The request for what a resource holds. -/
def fetch (decoder : Json.Decoder α) (resource : String) : Talk α :=
  .ask resource none fun answer =>
    .done (answer.bind fun payload => (Json.decodeJson decoder payload).mapError .json)

theorem runFrom_fetch (s : Session) (decoder : Json.Decoder α) (resource : String) (log : Log) :
    ((fetch decoder resource).through s).runFrom log =
      (s.fetched decoder resource log, log ++ [.call (s.callFor resource)]) := rfl

end Talk

namespace Session

variable {s s' : Session} {web web' : String → Except Error Json} {name : String} {log : Log}

/-! ### Relationships -/

end Session

end QueryDesk
