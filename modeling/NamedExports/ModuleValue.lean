/-!
# Values of modules

What is known of a module's value once the module has been loaded: its kind and its own keys.
-/

namespace NamedExports

/-- The kinds of values that a loader tells apart. -/
inductive ModuleValue.Kind where
  | object
  | array
  | function
  | null
  | primitive
  deriving Repr, DecidableEq

/-- A loaded module's value. -/
structure ModuleValue where
  kind : ModuleValue.Kind
  keys : List String := []
  deriving Repr, DecidableEq

namespace ModuleValue

/-- The words for the kinds. -/
def Kind.words : List (String × Kind) :=
  [("object", .object), ("array", .array), ("function", .function), ("null", .null),
    ("primitive", .primitive)]

/-- A kind's word. -/
def Kind.word : Kind → String
  | object => "object"
  | array => "array"
  | function => "function"
  | null => "null"
  | primitive => "primitive"

/-- Whether the keys of a value are the names of exports. -/
def exposesKeys (value : ModuleValue) : Bool :=
  value.kind == .object || value.kind == .function

/-- The names that a value exports: its keys but the empty one. -/
def exportedKeys (value : ModuleValue) : List String :=
  if value.exposesKeys then value.keys.filter (! ·.isEmpty) else []

end ModuleValue

end NamedExports
