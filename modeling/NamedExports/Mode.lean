/-!
# Evaluation modes

The two values of `process.env.NODE_ENV` that exports are resolved for.
-/

namespace NamedExports

/-- The value that `process.env.NODE_ENV` is assumed to have. -/
inductive Mode where
  | production
  | development
  deriving Repr, DecidableEq, Inhabited

namespace Mode

/-- The mode's name, which is also the value of `process.env.NODE_ENV`. -/
def text : Mode → String
  | production => "production"
  | development => "development"

/-- The modes by their full names. -/
def words : List (String × Mode) := [("production", production), ("development", development)]

/-- Reads a mode's name or its short form, in letters of either case. -/
def parse? (text : String) : Option Mode :=
  match text.toLower with
  | "production" | "prod" => some production
  | "development" | "dev" => some development
  | _ => none

end Mode

end NamedExports
