import NamedExports.Text.WordTable

/-!
# Export names

Which texts can stand as a named export: identifiers in ASCII that are no reserved words.  Reserved
are the words of every edition of the language, strict mode's included, and `__esModule`.
-/

namespace NamedExports.Name

/-- Words that no export can be named by, in the order of their bytes. -/
def reservedWords : List String :=
  ["__esModule", "abstract", "arguments", "await", "boolean", "break", "byte", "case", "catch",
    "char", "class", "const", "continue", "debugger", "default", "delete", "do", "double", "else",
    "enum", "eval", "export", "extends", "false", "final", "finally", "float", "for", "function",
    "goto", "if", "implements", "import", "in", "instanceof", "int", "interface", "let", "long",
    "native", "new", "null", "package", "private", "protected", "public", "return", "short",
    "static", "super", "switch", "synchronized", "this", "throw", "throws", "transient", "true",
    "try", "typeof", "var", "void", "volatile", "while", "with", "yield"]

/-- The reserved words, as a table to search in. -/
def reservedTable : Text.WordTable where
  words := reservedWords.toArray
  ascending := by decide

/-- Whether a text is a reserved word. -/
def isReserved (text : String) : Bool := (reservedTable.place? text).isSome

/-- A byte that may start an identifier: a letter, `_` or `$`. -/
def isStart (byte : UInt8) : Bool :=
  (0x41 ≤ byte && byte ≤ 0x5A) || (0x61 ≤ byte && byte ≤ 0x7A) || byte == 0x5F || byte == 0x24

/-- A byte that may continue an identifier: one that may start it, or a digit. -/
def isPart (byte : UInt8) : Bool := isStart byte || (0x30 ≤ byte && byte ≤ 0x39)

/-- Whether a text is an identifier in ASCII, by its bytes. -/
def isIdentifier (text : String) : Bool :=
  match Text.Utf8.encode text.toList with
  | [] => false
  | first :: rest => isStart first && rest.all isPart

/-- Whether a text can name an export. -/
def isExportable (text : String) : Bool := isIdentifier text && !isReserved text

end NamedExports.Name
