import NamedExports.CommandLine.Command
import NamedExports.Proofs.Package.Looks
import NamedExports.Proofs.Traversal.Calls

/-!
# What collaborators fail with

Collaborators are arbitrary functions, but each has a contract that says what it fails with: with
what it could not do itself.  The limit on scans is none of their business, so that failure is the
traversal's own.  The collaborators that work on a host's disk keep the contract.
-/

namespace NamedExports

/-- What the contract of each collaborator lets it fail with.  Reading fails on a file that cannot
be read, a search on a module that is not found or on what it reads on its way, scanning on a source
that cannot be parsed, and loading on a module that cannot be loaded. -/
structure Collaborators.KeepsContract (c : Collaborators) : Prop where
  read : ∀ path failure, c.read path = .error failure →
    ∃ file cause, failure = .fileRead file cause
  resolve : ∀ base specifier failure, c.resolve base specifier = .error failure →
    (∃ sought directory, failure = .moduleNotFound sought directory) ∨
      (∃ file cause, failure = .fileRead file cause) ∨
      ∃ file detail, failure = .malformedJson file detail
  scan : ∀ path source mode called failure, c.scan path source mode called = .error failure →
    ∃ file detail, failure = .scan file detail
  load : ∀ path mode failure, c.load path mode = .error failure →
    ∃ file detail, failure = .runtimeLoad file detail

end NamedExports
