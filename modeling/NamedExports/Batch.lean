import NamedExports.Resolver

/-!
# Batches

Several requests, each resolved on its own.  A request that fails takes none of the others with it.
-/

namespace NamedExports

/-- How one request of a batch ended. -/
inductive BatchOutcome where
  | resolved (list : ExportList)
  | failed (message : String)
  deriving Repr, DecidableEq

/-- A request and how it ended. -/
structure BatchEntry where
  request : Request
  outcome : BatchOutcome
  deriving Repr, DecidableEq

/-- Whether a request failed. -/
def BatchEntry.isFailure (entry : BatchEntry) : Bool :=
  match entry.outcome with
  | .failed _ => true
  | .resolved _ => false

namespace Batch

/-- What a batch says of an outcome. -/
def outcomeOf : Except Failure ExportList → BatchOutcome
  | .ok list => .resolved list
  | .error failure => .failed failure.userMessage

/-- The entry of one request. -/
def entry (resolver : Resolver) (request : Request) : BatchEntry :=
  ⟨request, outcomeOf (resolver.run request).outcome⟩

/-- The entries of all requests, in order. -/
def run (resolver : Resolver) (requests : List Request) : List BatchEntry :=
  requests.map (entry resolver)

end Batch

end NamedExports
