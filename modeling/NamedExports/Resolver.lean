import NamedExports.ExportList
import NamedExports.Fallback
import NamedExports.Request
import NamedExports.Traversal

/-!
# Resolving a request

From a request to the list of exports: the entry is resolved, the modules reached from it are
scanned, and if nothing at all was found and the policy allows it, the entry is loaded instead.
What cannot be exported by name is dropped at the very end.
-/

namespace NamedExports

/-- The names that a loaded module exports. -/
def loadedKeys (c : Collaborators) (entry : Path) (mode : Mode) : Traced (List String) := do
  let value ← c.loadModule entry mode
  return value.exportedKeys

/-- How requests are resolved. -/
structure Resolver where
  collaborators : Collaborators
  policy : FallbackPolicy
  /-- The number of scans that one request may take. -/
  limit : Nat

namespace Resolver

/-- The candidate names of a request's entry. -/
def candidates (r : Resolver) (request : Request) (entry : Path) : Traced (List String) := do
  let names ← Traversal.collect r.collaborators request.mode r.limit entry
  if entry.isScanned && r.policy.shouldLoad request.specifier names.length then
    loadedKeys r.collaborators entry request.mode
  else
    return names

/-- Resolves a request. -/
def run (r : Resolver) (request : Request) : Traced ExportList := do
  let entry ← r.collaborators.resolvePath request.buildDirectory request.specifier
  let names ← r.candidates request entry
  return .ofCandidates names

end Resolver

end NamedExports
