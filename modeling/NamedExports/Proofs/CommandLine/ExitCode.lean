import NamedExports.Proofs.Disk.Writing
import NamedExports.Proofs.Settings.Validity
import NamedExports.Proofs.Trace

/-!
# What the exit code of a run tells

A run that resolves specifiers loads its settings, starts its workers, resolves each specifier on
its own, makes a report and writes it.  It ends at the first of these that fails, `Command.Fails`,
or has done them all, `Command.Completes`.  The failure of a specifier is none of the run's: it is
an entry of the report, and it is what sets the exit codes 0 and 1 apart.
-/

namespace NamedExports

variable {host : Host} {arguments : Arguments} {settings : Settings} {specifiers : List String}
  {specifier report : String} {failure : Failure} {effect : Effect}

/-! ## Batches with their calls -/

namespace Batch

/-- The entry of one request, with the calls that are made for it. -/
def tracedEntry (resolver : Resolver) (request : Request) : Traced BatchEntry :=
  ⟨(resolver.run request).calls, .ok (entry resolver request)⟩

/-- The entries of all requests, with the calls that are made for them. -/
def traced (resolver : Resolver) : List Request → Traced (List BatchEntry)
  | [] => pure []
  | request :: rest => do
    let first ← tracedEntry resolver request
    let others ← traced resolver rest
    return first :: others

end Batch

/-! ## The entries of a report -/

namespace Settings

/-- The request for a specifier. -/
def request (settings : Settings) (specifier : String) : Request :=
  ⟨settings.buildDirectory, specifier, settings.mode⟩

/-- One entry for each specifier, in order, with the result or the failure of its own resolution. -/
def entries (settings : Settings) (host : Host) (specifiers : List String) : List BatchEntry :=
  specifiers.map fun specifier =>
    ⟨settings.request specifier,
      Batch.outcomeOf ((settings.resolver host).run (settings.request specifier)).outcome⟩

end Settings

/-! ## How far failures reach -/

namespace Settings

end Settings

namespace Command

/-! ## The stages of a run -/

/-- There are settings, and workers as they ask for. -/
structure Starts (host : Host) (arguments : Arguments) (settings : Settings) : Prop where
  loads : Settings.load host Environment.defaultGroup arguments = .ok settings
  works : host.workerError settings.threads = none

/-- `Host.resolveBatch`, with the calls that are made for the requests. -/
def tracedBatch (host : Host) (resolver : Resolver) (requests : List Request) (threads : Nat) :
    Traced (List BatchEntry) :=
  match host.workerError threads with
  | some cause => .fail (.inContext s!"failed to build a pool of {threads} threads" cause)
  | none => Batch.traced resolver requests

/-- `resolve`, with the calls that are made for the specifiers. -/
def traced (host : Host) (arguments : Arguments) : Traced Effect := do
  let settings ← .ofExcept (Settings.load host Environment.defaultGroup arguments)
  let entries ← tracedBatch host (settings.resolver host)
    (settings.requests arguments.specifiers) settings.threads
  let report ← .ofExcept (host.report settings entries)
  let effect ← .ofExcept (output host settings.outputFile report)
  return { effect with complete := entries.all (! ·.isFailure) }

end Command

end NamedExports
