import NamedExports.Mode
import NamedExports.Path

/-!
# Requests

What a resolution is asked for: the exports of the module that a specifier names, seen from a
directory, in a mode.
-/

namespace NamedExports

/-- A request for the exports of one module. -/
structure Request where
  /-- The directory that the specifier is resolved from. -/
  buildDirectory : Path
  specifier : String
  mode : Mode := .production
  deriving Repr, DecidableEq

end NamedExports
