import NamedExports.Proofs.Script.Declaring

/-!
# Names that modules bind

The code of a module is strict.  It binds what is written as an identifier, is no word that the
language reserves everywhere, in strict code or in modules, and is not one of the two names that
strict code does not bind: `BindsInModule`.  The table of reserved words consists of just these, of
words that earlier editions of the language reserved, and of the mark `__esModule`.  So every name
that can be exported can be bound, `exportable_names_bind`, and of the words in ASCII that can be
bound only the earlier ones and the mark are refused, `isExportable_iff_binds`.
-/

namespace NamedExports.Script

variable {name : String}

/-- Words that strict code reserves beside those that are never names. -/
def strictWords : List String :=
  ["implements", "interface", "let", "package", "private", "protected", "public", "static", "yield"]

/-- Names that strict code does not bind. -/
def unboundNames : List String := ["arguments", "eval"]

/-- A text that is written as an identifier. -/
def IsIdentifierName (text : String) : Prop :=
  ∃ first rest, text.toList = first :: rest ∧ Text.isIdentifierStart first = true ∧
    ∀ c ∈ rest, Text.isIdentifierPart c = true

/-- A name that the code of a module, which is strict, can bind. -/
structure BindsInModule (name : String) : Prop where
  written : IsIdentifierName name
  not_reserved : name ∉ reservedWords
  not_strict : name ∉ strictWords
  not_await : name ≠ "await"
  not_unbound : name ∉ unboundNames

/-- Words in ASCII are identifiers. -/
theorem isIdentifierName_of_isWord (h : Name.IsWord name) : IsIdentifierName name := by
  obtain ⟨first, rest, htext, hfirst, hrest⟩ := h
  exact ⟨first, rest, htext, (startsWord hfirst).1, fun c hc => (continuesWord (hrest c hc)).1⟩

/-- What a module binds is a name to scripts too, wherever it stands. -/
theorem BindsInModule.isNameIn (h : BindsInModule name) (scope : Scope) :
    isNameIn scope name = true := by
  have hyield : name ≠ "yield" := fun heq => h.not_strict (heq ▸ by decide)
  simp [Script.isNameIn, h.not_reserved, h.not_await, hyield]

end NamedExports.Script

namespace NamedExports.Name

variable {text : String}

/-- Words that earlier editions of the language reserved. -/
def earlierWords : List String :=
  ["abstract", "boolean", "byte", "char", "double", "final", "float", "goto", "int", "long",
    "native", "short", "synchronized", "throws", "transient", "volatile"]

/-- What the table of reserved words consists of. -/
theorem reservedWords_perm : reservedWords.Perm (Script.reservedWords ++ Script.strictWords ++
    ["await"] ++ Script.unboundNames ++ earlierWords ++ ["__esModule"]) := by
  decide

/-- Exportable are the words that a module can bind, apart from the earlier ones and the mark. -/
theorem isExportable_iff_binds : isExportable text = true ↔
    IsWord text ∧ Script.BindsInModule text ∧ text ∉ earlierWords ∧ text ≠ "__esModule" := by
  rw [isExportable_iff, reservedWords_perm.mem_iff]
  simp only [List.mem_append, List.mem_singleton, not_or]
  constructor
  · rintro ⟨hword, ⟨⟨⟨⟨hreserved, hstrict⟩, hawait⟩, hunbound⟩, hearlier⟩, hmark⟩
    exact ⟨hword, ⟨Script.isIdentifierName_of_isWord hword, hreserved, hstrict, hawait, hunbound⟩,
      hearlier, hmark⟩
  · rintro ⟨hword, hbinds, hearlier, hmark⟩
    exact ⟨hword, ⟨⟨⟨⟨hbinds.not_reserved, hbinds.not_strict⟩, hbinds.not_await⟩,
      hbinds.not_unbound⟩, hearlier⟩, hmark⟩

/-- Of all texts, the check of the bytes and the search among the reserved words let through just the
words `[A-Za-z_$][A-Za-z0-9_$]*` that are not reserved.  Each of them can be bound by a module, and is
read as the name of a variable that a module exports. -/
theorem exportable_names_bind (text : String) :
    (isExportable text = true ↔ IsWord text ∧ text ∉ reservedWords) ∧
      (isExportable text = true → Script.BindsInModule text ∧
        Script.Program.read (Script.exportingText text) = .ok [Script.exportingVariable text]) := by
  refine ⟨isExportable_iff, fun h => ?_⟩
  obtain ⟨hword, hbinds, -, -⟩ := isExportable_iff_binds.mp h
  exact ⟨hbinds, Script.read_exportingText hword (hbinds.isNameIn .top)⟩

/-- A name that begins like a reserved word. -/
theorem exportable_names_bind_awaited : isExportable "await_$1" = true ∧
    Script.BindsInModule "await_$1" ∧
    Script.Program.read "export var await_$1".toList = .ok [Script.exportingVariable "await_$1"] := by
  have hexportable : isExportable "await_$1" = true := by decide
  exact ⟨hexportable, (exportable_names_bind "await_$1").2 hexportable⟩

end NamedExports.Name
