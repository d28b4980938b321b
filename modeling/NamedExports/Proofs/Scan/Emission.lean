import NamedExports.Proofs.ExportList
import NamedExports.Proofs.Scan.Changes
import NamedExports.Proofs.Scan.Findings
import NamedExports.Scan.Exports

/-!
# What compilers emit

Compilers turn a module's exports into one of a few forms.  `emitted` is the form of TypeScript and
Babel: a mark, a chain that hoists the names, and then an assignment for each name and a call or a
loop for each module that is exported wholesale.  `bundled` is the form of esbuild: one call with a
getter for each name, and one call for each module.  A scan of what was emitted gives back what it
was emitted for.
-/

namespace NamedExports.Script

/-! ## Statements that are emitted -/

/-- `exports.name` -/
def exportsMember (name : String) : Expr := .member (.ident "exports") name

/-- `require('specifier')` -/
def requireCall (specifier : String) : Expr :=
  .call (.ident "require") [.literal (.string specifier)]

/-- `Object.defineProperty(exports, '__esModule', …);` -/
def marking (rest : List Expr) : Stmt :=
  .expr (.call (.member (.ident "Object") "defineProperty")
    (.ident "exports" :: .literal (.string "__esModule") :: rest))

/-- `exports.a = exports.b = … = void 0` -/
def hoisting : List String → Expr
  | [] => .unary .void (.literal (.number "0"))
  | name :: rest => .assign .plain (exportsMember name) (hoisting rest)

/-- The statement that hoists names, if there are any. -/
def hoistingAll : List String → List Stmt
  | [] => []
  | name :: rest => [.expr (hoisting (name :: rest))]

/-- The ways to call `__exportStar`. -/
inductive StarCallee where
  /-- `__exportStar` -/
  | bare
  /-- `library.__exportStar` -/
  | member (library : String)
  /-- `(0, library.__exportStar)` -/
  | indirect (library : String)

/-- What is called. -/
def StarCallee.expr : StarCallee → Expr
  | bare => .ident "__exportStar"
  | member library => .member (.ident library) "__exportStar"
  | indirect library =>
    .paren (.sequence [.literal (.number "0"), .member (.ident library) "__exportStar"])

/-- `require('specifier')` or `_interopRequireWildcard(require('specifier'))` -/
def loading (wrapped : Bool) (specifier : String) : Expr :=
  if wrapped then .call (.ident "_interopRequireWildcard") [requireCall specifier]
  else requireCall specifier

/-- `Object.keys(temporary).forEach(function …)` -/
def copying (temporary : String) (callback : Code) : Expr :=
  .call (.member (.call (.member (.ident "Object") "keys") [.ident temporary]) "forEach")
    [.function callback]

/-- What is emitted for one name or one module. -/
inductive Piece where
  /-- `exports.name = value;` -/
  | assign (name : String) (value : Expr)
  /-- `__exportStar(require('specifier'), exports);` -/
  | star (callee : StarCallee) (specifier : String)
  /-- `var temporary = require('specifier'); Object.keys(temporary).forEach(function …);` -/
  | copy (temporary : String) (wrapped : Bool) (specifier : String) (callback : Code)

namespace Piece

/-- The statements that a piece is emitted as. -/
def statements : Piece → List Stmt
  | assign name value => [.expr (.assign .plain (exportsMember name) value)]
  | star callee specifier =>
    [.expr (.call callee.expr [requireCall specifier, .ident "exports"])]
  | copy temporary wrapped specifier callback =>
    [.declare .var [.mk (.ident temporary) (some (loading wrapped specifier))],
      .expr (copying temporary callback)]

/-- The name it is emitted for. -/
def name? : Piece → Option String
  | assign name _ => some name
  | _ => none

/-- The module it is emitted for. -/
def specifier? : Piece → Option String
  | assign _ _ => none
  | star _ specifier => some specifier
  | copy _ _ specifier _ => some specifier

end Piece

/-- What TypeScript and Babel emit, with the calls, loops and assignments in any order. -/
def emitted (rest : List Expr) (hoisted : List String) (body : List Piece) : Program :=
  marking rest :: (hoistingAll hoisted ++ body.flatMap Piece.statements)

/-- `name: () => value, …` -/
def getterMembers (getters : List (String × Expr)) : List Member :=
  getters.map fun getter =>
    .property (.literal (.string getter.1)) (.arrowValue false [] getter.2)

/-- `__export(temporary, { name: () => value, … })` -/
def getting (temporary : String) (getters : List (String × Expr)) : Expr :=
  .call (.ident "__export") [.ident temporary, .object (getterMembers getters)]

/-- `module.exports = __toCommonJS(temporary)` -/
def converting (temporary : String) : Expr :=
  .assign .plain (.member (.ident "module") "exports")
    (.call (.ident "__toCommonJS") [.ident temporary])

/-- `__reExport(temporary, require('specifier'), module.exports)` -/
def reexporting (temporary specifier : String) : Expr :=
  .call (.ident "__reExport")
    [.ident temporary, requireCall specifier, .member (.ident "module") "exports"]

/-- What esbuild emits. -/
def bundled (temporary : String) (getters : List (String × Expr)) (specifiers : List String) :
    Program :=
  [.declare .var [.mk (.ident temporary) (some (.object []))], .expr (getting temporary getters),
    .expr (converting temporary)] ++ specifiers.map fun s => .expr (reexporting temporary s)

/-! ## Fresh names -/

/-- The first look at an expression, in some mode, makes a name known. -/
def Expr.Declares (e : Expr) (name : String) : Prop :=
  ∃ mode, (Bindings.expr mode .empty e).get? name ≠ none

/-- Whether an expression is an assignment onto the exports, or a chain with such an assignment. -/
def Expr.assignsExports : Expr → Bool
  | .paren inner => inner.assignsExports
  | .assign _ target value =>
    target.isModuleExportsTarget || target.propertyTarget?.any (·.1.isExportsObject) ||
      value.assignsExports
  | _ => false

namespace Piece

/-- The name of the variable that holds the module. -/
def temporary? : Piece → Option String
  | copy temporary _ _ _ => some temporary
  | _ => none

/-- The names that are declared, by a value or as the temporary. -/
def Declares : Piece → String → Prop
  | assign _ value, name => value.Declares name
  | star _ _, _ => False
  | copy temporary _ _ _, name => name = temporary

end Piece

/-- The names that pieces declare are fresh: `exports` is none of them, no temporary is declared
again, and values are no assignments onto the exports themselves. -/
structure Fresh (body : List Piece) : Prop where
  exports : ∀ piece ∈ body, ¬ piece.Declares "exports"
  temporaries : body.Pairwise fun earlier later =>
    ∀ name, earlier.temporary? = some name → ¬ later.Declares name
  values : ∀ name value, .assign name value ∈ body → value.assignsExports = false

/-! ## What becomes known -/

namespace Bindings

variable {mode : Mode} {b : Bindings} {name : String} {body : List Piece}

/-- The first look goes through statements one after the other. -/
theorem stmts_append (b : Bindings) (front back : List Stmt) :
    stmts mode b (front ++ back) = stmts mode (stmts mode b front) back := by
  induction front generalizing b with
  | nil => rfl
  | cons first rest ih => exact ih (stmt mode b first)

/-- Hoisted exports make nothing known. -/
theorem get?_hoisting_of_none {names : List String} (h : b.get? name = none) :
    (expr mode b (hoisting names)).get? name = none := by
  induction names generalizing b with
  | nil => exact h
  | cons first rest ih => exact ih (get?_addKeys_of_none h)

/-- A piece makes nothing known of a name that it does not declare. -/
theorem get?_statements_of_none {piece : Piece} (h : ¬ piece.Declares name) :
    (stmts mode empty piece.statements).get? name = none := by
  cases piece with
  | assign key value =>
    -- the assignment itself only adds a key to `exports`, of which nothing is known
    have hvalue : (expr mode empty value).get? name = none :=
      Classical.not_not.mp fun hne => h ⟨mode, hne⟩
    exact ((expr_changes mode value).get?_of_unknown (get?_addKeys_of_none rfl)).trans hvalue
  | star callee specifier => cases callee <;> rfl
  | copy temporary wrapped specifier callback => exact if_neg fun heq => h (beq_iff_eq.mp heq)

/-- A body makes nothing known of a name that none of its pieces declares. -/
theorem get?_body_of_none (h : ∀ piece ∈ body, ¬ piece.Declares name) :
    (stmts mode empty (body.flatMap Piece.statements)).get? name = none := by
  induction body with
  | nil => rfl
  | cons first rest ih =>
    rw [List.forall_mem_cons] at h
    rw [List.flatMap_cons, stmts_append]
    exact ((stmts_changes mode _).get?_of_unknown (get?_statements_of_none h.1)).trans (ih h.2)

/-- A temporary holds its module to the end, since it is not declared again. -/
theorem required_of_mem {temporary specifier : String} {wrapped : Bool} {callback : Code}
    (h : body.Pairwise fun earlier later =>
      ∀ name, earlier.temporary? = some name → ¬ later.Declares name)
    (hmem : .copy temporary wrapped specifier callback ∈ body) (b : Bindings) :
    ((stmts mode b (body.flatMap Piece.statements)).get? temporary).bind Binding.required =
      some specifier := by
  induction body generalizing b with
  | nil => cases hmem
  | cons first rest ih =>
    rw [List.pairwise_cons] at h
    rw [List.flatMap_cons, stmts_append]
    rcases List.mem_cons.mp hmem with rfl | hmem
    -- the module is recorded by this piece, and the pieces after it do not record anew
    · have hrest : ∀ piece ∈ rest, ¬ piece.Declares temporary :=
        fun piece hpiece => h.1 piece hpiece temporary rfl
      rw [(stmts_changes mode _).required_of_none (get?_body_of_none hrest)]
      have hset : (stmts mode b (Piece.copy temporary wrapped specifier callback).statements).get?
          temporary = some (.ofValue (loading wrapped specifier)) :=
        if_pos (beq_self_eq_true temporary)
      rw [hset]
      cases wrapped <;> rfl
    · exact ih h.2 hmem _

/-- A module makes nothing known of such a name either. -/
theorem get?_emitted_of_none {rest : List Expr} {hoisted : List String}
    (h : ∀ piece ∈ body, ¬ piece.Declares name) :
    (ofProgram mode (emitted rest hoisted body)).get? name = none := by
  have hmarked : (stmt mode empty (marking rest)).get? name = none := get?_addKeys_of_none rfl
  have hhoisted : (stmts mode (stmt mode empty (marking rest)) (hoistingAll hoisted)).get? name =
      none := by
    cases hoisted with
    | nil => exact hmarked
    | cons first others => exact get?_hoisting_of_none hmarked
  show (stmts mode _ (hoistingAll hoisted ++ _)).get? name = none
  rw [stmts_append]
  exact ((stmts_changes mode _).get?_of_unknown hhoisted).trans (get?_body_of_none h)

/-- A temporary is known to hold the module that its piece requires. -/
theorem required_emitted_of_mem {rest : List Expr} {hoisted : List String}
    {temporary specifier : String} {wrapped : Bool} {callback : Code} (h : Fresh body)
    (hmem : .copy temporary wrapped specifier callback ∈ body) :
    ((ofProgram mode (emitted rest hoisted body)).get? temporary).bind Binding.required =
      some specifier := by
  show ((stmts mode _ (hoistingAll hoisted ++ _)).get? temporary).bind Binding.required = _
  rw [stmts_append]
  exact required_of_mem h.temporaries hmem _

end Bindings

/-! ## What is found -/

namespace Context

variable {c : Context} {body : List Piece} {specifier temporary : String}

/-- A scan goes through statements one after the other. -/
theorem stmts_append (front back : List Stmt) :
    c.stmts (front ++ back) = c.stmts front ++ c.stmts back := by
  induction front with
  | nil => rfl
  | cons first rest ih =>
    show c.stmt first ++ c.stmts (rest ++ back) = c.stmt first ++ c.stmts rest ++ c.stmts back
    rw [ih, Findings.append_assoc]

/-- A value that is no assignment to the exports exports nothing in a chain. -/
theorem chain_of_not_assignsExports {e : Expr} (h : e.assignsExports = false) : c.chain e = ∅ := by
  fun_induction Expr.assignsExports e with
  | case1 inner ih => exact ih h
  | case2 op target value ih =>
    simp only [Bool.or_eq_false_iff] at h
    obtain ⟨⟨hmodule, hobject⟩, hvalue⟩ := h
    have hassign : c.assign target value = ∅ := by
      rw [assign, hmodule, if_neg Bool.false_ne_true]
      cases hproperty : target.propertyTarget? with
      | none => rfl
      | some property =>
        rw [hproperty, Option.any_some] at hobject
        show (if !c.called && property.1.isExportsObject then _ else _) = _
        rw [hobject, Bool.and_false, if_neg Bool.false_ne_true]
    rw [chain, hassign, ih hvalue, Findings.append_empty]
  | case3 e hparen hassign => exact chain.eq_3 c e hparen hassign

/-- An assignment to a property of the exports exports its name. -/
theorem assign_exportsMember (hcalled : c.called = false) (name : String) (value : Expr) :
    c.assign (exportsMember name) value = .names [name] := by
  have hmodule : (exportsMember name).isModuleExportsTarget = false := Bool.and_false _
  rw [assign, hmodule, if_neg Bool.false_ne_true]
  show (if !c.called && true then _ else _) = _
  rw [hcalled]
  rfl

/-- The marker of a module is found like any other name. -/
theorem stmt_marking (hcalled : c.called = false) (rest : List Expr) :
    c.stmt (marking rest) = .names ["__esModule"] := by
  show (if !c.called && true then _ else _) = _
  rw [hcalled]
  rfl

/-- A chain of hoisted exports exports their names. -/
theorem chain_hoisting (hcalled : c.called = false) (names : List String) :
    c.chain (hoisting names) = .names names := by
  induction names with
  | nil => rfl
  | cons first rest ih =>
    rw [hoisting, chain, assign_exportsMember hcalled, ih]
    rfl

/-- All hoisted exports are found, the first ones first. -/
theorem stmts_hoistingAll (hcalled : c.called = false) (names : List String) :
    c.stmts (hoistingAll names) = .names names := by
  cases names with
  | nil => rfl
  | cons first rest =>
    exact (Findings.append_empty _).trans (chain_hoisting hcalled (first :: rest))

theorem requiredBy?_ident {name : String} :
    c.requiredBy? (.ident name) = (c.lookup name).bind Binding.required := rfl

/-- A star export re-exports its module. -/
theorem stmts_star (hexports : c.lookup "exports" = none) (callee : StarCallee) :
    c.stmts (Piece.star callee specifier).statements = ⟨[], [specifier]⟩ := by
  have hname : c.requiredBy? (.ident "exports") = none := by
    rw [requiredBy?_ident, hexports]
    rfl
  have hcall : c.helperCall [requireCall specifier, .ident "exports"] = ⟨[], [specifier]⟩ := by
    -- of the two arguments the first requires a module, and `exports` holds none
    unfold helperCall
    simp only [argumentValues, List.filterMap, requireCall, Expr.asValue?, List.map, hname]
    rfl
  cases callee <;> exact (Findings.append_empty _).trans hcall

/-- A loop that copies keys re-exports the module whose keys they are. -/
theorem stmts_copy {wrapped : Bool} {callback : Code}
    (h : (c.lookup temporary).bind Binding.required = some specifier) :
    c.stmts (Piece.copy temporary wrapped specifier callback).statements = ⟨[], [specifier]⟩ := by
  have hloading : c.expr (loading wrapped specifier) = ∅ := by cases wrapped <;> rfl
  have hcopying : c.expr (copying temporary callback) = .reexport specifier false := by
    show c.spread (.ident temporary) = _
    rw [spread, requiredBy?_ident, h]
  show (c.expr (loading wrapped specifier) ++ ∅) ++ (c.expr (copying temporary callback) ++ ∅) = _
  rw [hloading, hcopying]
  rfl

/-- What a scan has to know so that it finds in a piece what the piece is emitted for. -/
def Recognizes (c : Context) : Piece → Prop
  | .assign _ value => value.assignsExports = false
  | .star _ _ => c.lookup "exports" = none
  | .copy temporary _ specifier _ => (c.lookup temporary).bind Binding.required = some specifier

/-- A piece exports its name and re-exports its module, if it has one. -/
theorem stmts_statements (hcalled : c.called = false) {piece : Piece} (h : c.Recognizes piece) :
    c.stmts piece.statements = ⟨piece.name?.toList, piece.specifier?.toList⟩ := by
  cases piece with
  | assign name value =>
    show (c.assign (exportsMember name) value ++ c.chain value) ++ ∅ = _
    rw [assign_exportsMember hcalled, chain_of_not_assignsExports h]
    rfl
  | star callee specifier => exact stmts_star h callee
  | copy temporary wrapped specifier callback => exact stmts_copy h

/-- A body exports what its pieces export, in their order. -/
theorem stmts_body (hcalled : c.called = false) (h : ∀ piece ∈ body, c.Recognizes piece) :
    c.stmts (body.flatMap Piece.statements) =
      ⟨body.filterMap Piece.name?, body.filterMap Piece.specifier?⟩ := by
  induction body with
  | nil => rfl
  | cons first rest ih =>
    rw [List.forall_mem_cons] at h
    rw [List.flatMap_cons, stmts_append, stmts_statements hcalled h.1, ih h.2]
    cases first <;> rfl

/-! ### Bundles -/

/-- The names given to `__export` are not found there, since it is not given the exports. -/
theorem expr_getting {getters : List (String × Expr)}
    (h : (c.lookup temporary).bind Binding.required = none) (hexports : temporary ≠ "exports") :
    c.expr (getting temporary getters) = ∅ := by
  have hname : c.requiredBy? (.ident temporary) = none := requiredBy?_ident.trans h
  have hobject : (Expr.ident temporary).isExportsObject = false := by
    show (some temporary == some "exports" || false) = false
    simpa using hexports
  show c.helperCall [.ident temporary, .object (getterMembers getters)] = ∅
  unfold helperCall
  simp only [argumentValues, List.filterMap, Expr.asValue?, List.map, hname, firstValue?,
    secondValue?, List.head?_cons, List.drop_succ_cons, List.drop_zero, Option.bind_some, hobject]
  rfl

/-- They are found where the object that has got them is converted. -/
theorem expr_converting {keys : List String} (hcalled : c.called = false)
    (h : c.lookup temporary = some { Binding.unknown with keys }) :
    c.expr (converting temporary) = .names keys := by
  show c.named c.called temporary ++ ∅ = _
  rw [hcalled, named, h, Findings.append_empty]
  exact Findings.append_empty _

/-- Calls that re-export from a bundle re-export their modules, in order. -/
theorem stmts_reexporting (h : (c.lookup temporary).bind Binding.required = none)
    (specifiers : List String) :
    c.stmts (specifiers.map fun s => .expr (reexporting temporary s)) = ⟨[], specifiers⟩ := by
  induction specifiers with
  | nil => rfl
  | cons first rest ih =>
    have hname : c.requiredBy? (.ident temporary) = none := requiredBy?_ident.trans h
    have hfirst : c.expr (reexporting temporary first) = ⟨[], [first]⟩ := by
      show c.helperCall
        [.ident temporary, requireCall first, .member (.ident "module") "exports"] = _
      unfold helperCall
      simp only [argumentValues, List.filterMap, requireCall, Expr.asValue?, List.map, hname]
      rfl
    show c.expr (reexporting temporary first) ++ c.stmts (rest.map _) = _
    rw [hfirst, ih]
    rfl

end Context

/-! ## What is recovered -/

/-- The modules are found in order.  The names are found as a set, apart from marks, and assembled
they are the legal ones among them, without repetitions. -/
structure Recovers (found : Findings) (marks names specifiers : List String) : Prop where
  reexports : found.reexports = specifiers
  exports : ∀ name, name ∈ found.exports ↔ name ∈ marks ∨ name ∈ names
  nodup : (ExportList.ofCandidates found.exports).exports.Nodup
  assembled : ∀ name, name ∈ (ExportList.ofCandidates found.exports).exports ↔
    name ∈ names ∧ Name.IsWord name ∧ name ∉ Name.reservedWords

/-- Marks that are reserved words are not assembled. -/
theorem Recovers.of_mem_iff {found : Findings} {marks names specifiers : List String}
    (hreexports : found.reexports = specifiers)
    (hexports : ∀ name, name ∈ found.exports ↔ name ∈ marks ∨ name ∈ names)
    (hmarks : ∀ mark ∈ marks, mark ∈ Name.reservedWords) :
    Recovers found marks names specifiers where
  reexports := hreexports
  exports := hexports
  nodup := ExportList.nodup_ofCandidates _
  assembled name := by
    rw [ExportList.mem_ofCandidates_iff, hexports]
    constructor
    · rintro ⟨hmark | hname, hword, hreserved⟩
      · exact absurd (hmarks name hmark) hreserved
      · exact ⟨hname, hword, hreserved⟩
    · rintro ⟨hname, hlegal⟩
      exact ⟨Or.inr hname, hlegal⟩

section

variable {mode : Mode} {rest : List Expr} {hoisted : List String} {body : List Piece}

/-- What the first look makes known suffices to recognize every piece. -/
theorem Fresh.recognizes (h : Fresh body) {piece : Piece} (hmem : piece ∈ body) :
    Context.Recognizes ⟨mode, false, .ofProgram mode (emitted rest hoisted body)⟩ piece := by
  cases piece with
  | assign name value => exact h.values name value hmem
  | star callee specifier => exact Bindings.get?_emitted_of_none h.exports
  | copy temporary wrapped specifier callback => exact Bindings.required_emitted_of_mem h hmem

/-- A module is found to export its marker, the hoisted names and what its pieces export. -/
theorem findings_emitted (h : Fresh body) :
    Program.findings (emitted rest hoisted body) mode false =
      ⟨"__esModule" :: hoisted ++ body.filterMap Piece.name?,
        body.filterMap Piece.specifier?⟩ := by
  show Context.stmt _ (marking rest) ++ Context.stmts _ (hoistingAll hoisted ++ _) = _
  rw [Context.stmt_marking rfl, Context.stmts_append, Context.stmts_hoistingAll rfl,
    Context.stmts_body rfl fun _ hmem => h.recognizes hmem]
  rfl

variable {temporary : String} {getters : List (String × Expr)} {specifiers : List String}

/-- The keys of the getters are the names that are exported. -/
theorem staticKeys_getterMembers : staticKeys (getterMembers getters) = getters.map Prod.fst := by
  rw [staticKeys, getterMembers, List.filterMap_map]
  exact congrFun (List.filterMap_eq_map (f := Prod.fst)) getters

/-- Calls that re-export from a bundle make nothing known. -/
theorem stmts_reexporting_eq (b : Bindings) :
    Bindings.stmts mode b (specifiers.map fun s => .expr (reexporting temporary s)) = b := by
  induction specifiers with
  | nil => rfl
  | cons first rest ih => exact ih

/-- The temporary holds an object that has the names as its keys. -/
theorem get?_bundled (h : temporary ≠ "module") :
    (Bindings.ofProgram mode (bundled temporary getters specifiers)).get? temporary =
      some { Binding.unknown with keys := getters.map Prod.fst } := by
  have hfront : Bindings.stmts mode .empty [.declare .var [.mk (.ident temporary)
      (some (.object []))], .expr (getting temporary getters), .expr (converting temporary)] =
      ((Bindings.empty.set temporary .unknown).addKeys temporary
        (staticKeys (getterMembers getters))).addKeys "module" ["exports"] := rfl
  rw [Bindings.ofProgram, bundled, Bindings.stmts_append, stmts_reexporting_eq, hfront,
    staticKeys_getterMembers]
  simp [Bindings.addKeys, Bindings.set, Binding.unknown, h]

/-- A bundle is found to export its getters and to re-export its modules. -/
theorem findings_bundled (hexports : temporary ≠ "exports") (hmodule : temporary ≠ "module") :
    Program.findings (bundled temporary getters specifiers) mode false =
      ⟨getters.map Prod.fst, specifiers⟩ := by
  have hlookup : Context.lookup
      ⟨mode, false, .ofProgram mode (bundled temporary getters specifiers)⟩ temporary =
        some { Binding.unknown with keys := getters.map Prod.fst } := get?_bundled hmodule
  have hrequired := congrArg (·.bind Binding.required) hlookup
  -- one after the other: the declaration, the getters, the conversion, the modules
  show ∅ ++ (Context.expr _ (getting temporary getters) ++ (Context.expr _ (converting temporary) ++
    Context.stmts _ (specifiers.map fun s => .expr (reexporting temporary s)))) = _
  rw [Context.expr_getting hrequired hexports, Context.expr_converting rfl hlookup,
    Context.stmts_reexporting hrequired]
  simp [Findings.ext_iff]

end

/-- A scan of what TypeScript, Babel or esbuild emits for names and modules finds these names and
these modules.  TypeScript and Babel mark the module as `__esModule`, which is found as well, and is
no legal name. -/
theorem Program.findings_of_emission (mode : Mode) :
    (∀ (rest : List Expr) (hoisted : List String) (body : List Piece), Fresh body →
      hoisted ⊆ body.filterMap Piece.name? →
      Recovers (Program.findings (emitted rest hoisted body) mode false) ["__esModule"]
        (body.filterMap Piece.name?) (body.filterMap Piece.specifier?)) ∧
    ∀ (temporary : String) (getters : List (String × Expr)) (specifiers : List String),
      temporary ≠ "exports" → temporary ≠ "module" →
      Recovers (Program.findings (bundled temporary getters specifiers) mode false) []
        (getters.map Prod.fst) specifiers := by
  refine ⟨fun rest hoisted body hfresh hhoisted => ?_, fun temporary getters specifiers he hm => ?_⟩
  · rw [findings_emitted hfresh]
    refine .of_mem_iff rfl (fun name => ?_) (by decide)
    -- the hoisted names are assigned as well
    simp only [List.cons_append, List.mem_cons, List.mem_append, List.not_mem_nil, or_false]
    exact or_congr_right (or_iff_right_of_imp (@hhoisted name))
  · rw [findings_bundled he hm]
    exact .of_mem_iff rfl (fun name => by simp) (by simp)

/-- A call through a library, a loop over a wrapped module, and two names, one of them reserved. -/
def interoperating : List Piece :=
  [.star (.indirect "tslib_1") "./a",
    .copy "_b" true "./b" (.mk none false false [.ident "key"] []),
    .assign "run" (.ident "run"), .assign "default" (.ident "main")]

theorem fresh_interoperating : Fresh interoperating where
  exports := by
    simp [interoperating, Piece.Declares, Expr.Declares, Bindings.expr, Bindings.empty]
  temporaries := by
    simp [interoperating, Piece.temporary?, Piece.Declares, Expr.Declares, Bindings.expr,
      Bindings.empty]
  values name value hmem := by
    simp only [interoperating, List.mem_cons, Piece.assign.injEq, reduceCtorEq, false_or,
      List.not_mem_nil, or_false] at hmem
    rcases hmem with ⟨-, rfl⟩ | ⟨-, rfl⟩ <;> rfl

/-- `default` is found, and it is not assembled. -/
theorem findings_of_interoperating :
    Fresh interoperating ∧
      Recovers (Program.findings (emitted [.object []] ["run", "default"] interoperating)
        .development false) ["__esModule"] ["run", "default"] ["./a", "./b"] ∧
      (ExportList.ofCandidates (Program.findings (emitted [.object []] ["run", "default"]
        interoperating) .development false).exports).exports = ["run"] ∧
      Recovers (Program.findings (bundled "index_exports" [("run", .ident "run")] ["./a", "./b"])
        .development false) [] ["run"] ["./a", "./b"] := by
  have hemission := Program.findings_of_emission .development
  refine ⟨fresh_interoperating, ?_, by decide, ?_⟩
  · exact hemission.1 [.object []] ["run", "default"] interoperating fresh_interoperating
      (List.Subset.refl _)
  · exact hemission.2 "index_exports" [("run", .ident "run")] ["./a", "./b"] (by decide) (by decide)

end NamedExports.Script
