import NamedExports.Proofs.Scan.RestyledBindings
import Mathlib.Logic.Equiv.Basic

/-!
# Scans of programs in another style

A scan finds the same in programs that differ in style alone: neither further parentheses nor other
names for what is not special make a difference.  The second look goes through the two programs side
by side, with what the first has learned of each.
-/

namespace NamedExports.Script

variable {R : String → String → Prop}

/-! ## The second look -/

namespace Context

/-- Two contexts for the same scan know the same of names that stand for each other. -/
structure Agree (R : String → String → Prop) (c c' : Context) : Prop where
  mode : c.mode = c'.mode
  called : c.called = c'.called
  bindings : c.bindings.Agree R c'.bindings

variable {c c' : Context}

/-- A name and its replacement are known to be the same. -/
theorem Agree.lookup (h : c.Agree R c') {name name' : String} (hname : R name name') :
    c.lookup name = c'.lookup name' :=
  h.bindings.get? hname

-- by recursion on what relates the values
mutual

/-- Restyled expressions require the same module. -/
theorem Agree.requiredBy? (hR : Relabels R) (h : c.Agree R c') : ∀ {e e' : Expr},
    e.Restyled R e' → c.requiredBy? e = c'.requiredBy? e'
  | _, _, .bare he => requiredByInside? hR h he
  | _, _, .wrapped he => (requiredBy? hR h he :)

theorem Agree.requiredByInside? (hR : Relabels R) (h : c.Agree R c') : ∀ {e e' : Expr},
    e.RestyledInside R e' → c.requiredBy? e = c'.requiredBy? e'
  | _, _, .paren he => (requiredBy? hR h he :)
  | _, _, .ident hname => by rw [Context.requiredBy?, Context.requiredBy?, h.lookup hname]
  | _, _, .call hcallee hargs => by
    have hcall := (Expr.Restyled.bare (.call hcallee hargs)).requiredSpecifier? hR
    rw [Context.requiredBy?, Context.requiredBy?, hcall, hcallee.isInteropCall hR hargs,
      firstRequiredBy? hR h hargs]
  | _, _, .literal | _, _, .object _ | _, _, .function _ | _, _, .arrow _ | _, _, .arrowValue _ _
  | _, _, .unary _ | _, _, .binary _ _ | _, _, .logical _ _ | _, _, .conditional _ _ _
  | _, _, .assign _ _ | _, _, .sequence _ | _, _, .member _ | _, _, .index _ _ | _, _, .spread _
  | _, _, .chain _ | _, _, .other _ _ => rfl

theorem Agree.firstRequiredBy? (hR : Relabels R) (h : c.Agree R c') : ∀ {args args' : List Expr},
    ArgsRestyled R args args' → c.firstRequiredBy? args = c'.firstRequiredBy? args'
  | _, _, .nil => rfl
  | _, _, .cons hfirst _ _ => (requiredBy? hR h hfirst :)

end

/-- The same is copied from restyled sources. -/
theorem Agree.spread (hR : Relabels R) (h : c.Agree R c') {source source' : Expr}
    (hsource : source.Restyled R source') : c.spread source = c'.spread source' := by
  have hlookup : source.identName?.bind c.lookup = source'.identName?.bind c'.lookup :=
    bind_eq_of_rel hsource.identName? h.lookup
  rw [Context.spread, Context.spread, h.requiredBy? hR hsource, hlookup]

/-- Restyled factories make objects with the same keys. -/
theorem Agree.factoryKeys? (hR : Relabels R) (h : c.Agree R c') {callee callee' : Expr}
    (hcallee : callee.Restyled R callee') : c.factoryKeys? callee = c'.factoryKeys? callee' := by
  have hinside := hcallee.withoutParens
  rw [Context.factoryKeys?, Context.factoryKeys?]
  generalize callee.withoutParens = shape at hinside ⊢
  generalize callee'.withoutParens = shape' at hinside ⊢
  cases hinside with
  | function hcode => simp only [hcode.returnedKeys hR]
  | arrow hcode => simp only [hcode.returnedKeys hR]
  | arrowValue _ hvalue => simp only [hvalue.valueKeys]
  | ident hname => simp only [h.lookup hname]
  | _ => rfl

/-- A name and its replacement export the same. -/
theorem Agree.named (h : c.Agree R c') (called : Bool) {name name' : String}
    (hname : R name name') : c.named called name = c'.named called name' := by
  rw [Context.named, Context.named, h.lookup hname]

-- by recursion on what relates the values
mutual

/-- Restyled values export the same. -/
theorem Agree.value (hR : Relabels R) (h : c.Agree R c') (called : Bool) : ∀ {e e' : Expr},
    e.Restyled R e' → c.value called e = c'.value called e'
  | _, _, .bare he => valueInside hR h called he
  | _, _, .wrapped he => (value hR h called he :)

theorem Agree.valueInside (hR : Relabels R) (h : c.Agree R c') (called : Bool) : ∀ {e e' : Expr},
    e.RestyledInside R e' → c.value called e = c'.value called e'
  | _, _, .paren he => (value hR h called he :)
  | _, _, .object hmembers => by
    rw [Context.value, Context.value, hmembers.staticKeys,
      hmembers.spreadOperands.map_eq fun he => h.spread hR he]
  | _, _, .call hcallee hargs => by
    have hcall := (Expr.Restyled.bare (.call hcallee hargs)).requiredSpecifier? hR
    have hassign := hcallee.isMemberOf hR "Object" "assign" (by decide)
    have hcommon := hcallee.calleeName?_beq hR "__toCommonJS" (by decide)
    rw [Context.value, Context.value, hcall, hcallee.requiredSpecifier? hR, hassign, hcommon,
      hcallee.isInteropCall hR hargs, h.factoryKeys? hR hcallee, values hR h false hargs,
      firstValue hR h called hargs]
  | _, _, .ident hname => h.named called hname
  | _, _, .function hcode => by rw [Context.value, Context.value, hcode.returnedKeys hR]
  | _, _, .arrow hcode => by rw [Context.value, Context.value, hcode.returnedKeys hR]
  | _, _, .arrowValue _ hvalue => by rw [Context.value, Context.value, hvalue.valueKeys]
  | _, _, .conditional htest hyes hno => by
    rw [Context.value, Context.value, htest.holdsIn? hR, h.mode, value hR h called hyes,
      value hR h called hno]
  | _, _, .assign _ hright => (value hR h called hright :)
  | _, _, .literal | _, _, .unary _ | _, _, .binary _ _ | _, _, .logical _ _ | _, _, .sequence _
  | _, _, .member _ | _, _, .index _ _ | _, _, .spread _ | _, _, .chain _ | _, _, .other _ _ => rfl

theorem Agree.values (hR : Relabels R) (h : c.Agree R c') (called : Bool) :
    ∀ {args args' : List Expr}, ArgsRestyled R args args' →
      c.values called args = c'.values called args'
  | _, _, .nil => rfl
  | _, _, .cons hfirst _ hrest => by
    rw [Context.values, Context.values, value hR h called hfirst, values hR h called hrest]

theorem Agree.firstValue (hR : Relabels R) (h : c.Agree R c') (called : Bool) :
    ∀ {args args' : List Expr}, ArgsRestyled R args args' →
      c.firstValue called args = c'.firstValue called args'
  | _, _, .nil => rfl
  | _, _, .cons hfirst _ _ => (value hR h called hfirst :)

end

/-- Restyled assignments export the same. -/
theorem Agree.assign (hR : Relabels R) (h : c.Agree R c') {target target' right right' : Expr}
    (htarget : target.RestyledInside R target') (hright : right.Restyled R right') :
    c.assign target right = c'.assign target' right' := by
  rw [Context.assign, Context.assign, htarget.isModuleExportsTarget hR, h.called,
    h.value hR c'.called hright]
  obtain ⟨hnone, hnone'⟩ | ⟨object, object', key, hsome, hsome', hobject⟩ :=
    htarget.propertyTarget?
  · simp only [hnone, hnone']
  · simp only [hsome, hsome', hobject.isExportsObject hR]

-- by recursion on what relates the chains
mutual

/-- Restyled chains of assignments export the same. -/
theorem Agree.chain (hR : Relabels R) (h : c.Agree R c') : ∀ {e e' : Expr},
    e.Restyled R e' → c.chain e = c'.chain e'
  | _, _, .bare he => chainInside hR h he
  | _, _, .wrapped he => (chain hR h he :)

theorem Agree.chainInside (hR : Relabels R) (h : c.Agree R c') : ∀ {e e' : Expr},
    e.RestyledInside R e' → c.chain e = c'.chain e'
  | _, _, .paren he => (chain hR h he :)
  | _, _, .assign htarget hright => by
    rw [Context.chain, Context.chain, h.assign hR htarget hright, chain hR h hright]
  | _, _, .ident _ | _, _, .literal | _, _, .object _ | _, _, .function _ | _, _, .arrow _
  | _, _, .arrowValue _ _ | _, _, .unary _ | _, _, .binary _ _ | _, _, .logical _ _
  | _, _, .conditional _ _ _ | _, _, .sequence _ | _, _, .member _ | _, _, .index _ _
  | _, _, .call _ _ | _, _, .spread _ | _, _, .chain _ | _, _, .other _ _ => rfl

end

/-- Restyled calls of helpers that re-export export the same. -/
theorem Agree.helperCall (hR : Relabels R) (h : c.Agree R c') {args args' : List Expr}
    (hargs : ArgsRestyled R args args') : c.helperCall args = c'.helperCall args' := by
  rw [Context.helperCall, Context.helperCall]
  congr 1
  · exact congrArg Findings.join
      (hargs.argumentValues.map_eq fun he => by rw [h.requiredBy? hR he])
  obtain ⟨hnone, hnone'⟩ | ⟨first, first', hfirst, hfirst', htarget, -⟩ :=
    rel_cases hargs.firstValue?
  · simp only [hnone, hnone']
  obtain ⟨hnone, hnone'⟩ | ⟨second, second', hsecond, hsecond', hrestyled⟩ :=
    rel_cases hargs.secondValue?
  · simp only [hfirst, hfirst', hnone, hnone']
  simp only [hfirst, hfirst', hsecond, hsecond']
  obtain ⟨key, rfl, rfl⟩ | ⟨members, members', rfl, rfl, hmembers⟩ | ⟨hother, hother'⟩ :=
    hrestyled.cases
  · rfl
  · simp only [htarget.isExportsObject hR, hmembers.staticKeys]
  · simp [hother.object, hother'.object]

/-- Restyled calls export the same. -/
theorem Agree.call (hR : Relabels R) (h : c.Agree R c') {callee callee' : Expr}
    {args args' : List Expr} (hcallee : callee.Restyled R callee')
    (hargs : ArgsRestyled R args args') : c.call callee args = c'.call callee' args' := by
  have hdefines := hcallee.isMemberOf hR "Object" "defineProperty" (by decide)
  have hassigns := hcallee.isMemberOf hR "Object" "assign" (by decide)
  have hcopies := hcallee.any_calleeName? hR fun _ => isSpecial_of_mem_reexportHelpers
  have hexports := any_eq_of_rel hargs.firstValue? fun h => h.1.isExportsObject hR
  rw [Context.call, Context.call, hdefines, hassigns, hcopies, hexports, h.called,
    h.values hR false hargs.drop_one, h.helperCall hR hargs]
  refine ite_congr rfl (fun _ => ?_) fun _ => ite_congr rfl (fun _ => rfl) fun _ =>
    ite_congr rfl (fun _ => rfl) fun _ => ?_
  · obtain ⟨hnone, hnone'⟩ | ⟨first, first', hfirst, hfirst', htarget, -⟩ :=
      rel_cases hargs.firstValue?
    · simp only [hnone, hnone']
    obtain ⟨hnone, hnone'⟩ | ⟨second, second', hsecond, hsecond', hrestyled⟩ :=
      rel_cases hargs.secondValue?
    · simp only [hfirst, hfirst', hnone, hnone']
    simp only [hfirst, hfirst', hsecond, hsecond']
    obtain ⟨key, rfl, rfl⟩ | ⟨members, members', rfl, rfl, -⟩ | ⟨hother, hother'⟩ :=
      hrestyled.cases
    · simp only [htarget.isExportsObject hR]
    · rfl
    · simp [hother.string, hother'.string]
  · obtain ⟨hnone, hnone'⟩ | ⟨source, source', hsource, hsource', hrelated⟩ :=
      rel_cases (hcallee.iteratedKeys? hR)
    · simp only [hnone, hnone']
    · simp only [hsource, hsource', h.spread hR hrelated]

/-- Restyled left operands skip the right one alike. -/
theorem Agree.skipsRight (hR : Relabels R) (h : c.Agree R c') (op : LogicalOp) {left left' : Expr}
    (hleft : left.Restyled R left') : c.skipsRight op left = c'.skipsRight op left' := by
  unfold Context.skipsRight
  rw [hleft.holdsIn? hR, h.mode]

-- by recursion on what relates the programs
mutual

/-- A scan finds the same in restyled expressions. -/
theorem Agree.expr (hR : Relabels R) (h : c.Agree R c') : ∀ {e e' : Expr},
    e.Restyled R e' → c.expr e = c'.expr e'
  | _, _, .bare he => exprInside hR h he
  | _, _, .wrapped he => by
    rw [expr hR h he, Context.expr]

theorem Agree.exprInside (hR : Relabels R) (h : c.Agree R c') : ∀ {e e' : Expr},
    e.RestyledInside R e' → c.expr e = c'.expr e'
  | _, _, .paren he => by
    rw [Context.expr, Context.expr, expr hR h he]
  | _, _, .assign htarget hright => by
    rw [Context.expr, Context.expr, h.assign hR htarget hright, h.chain hR hright]
  | _, _, .call hcallee hargs => by
    rw [Context.expr, Context.expr, invoked hR h hcallee, h.call hR hcallee hargs]
  | _, _, .sequence hitems => by
    rw [Context.expr, Context.expr, exprs hR h hitems]
  | _, _, .conditional htest hyes hno => by
    rw [Context.expr, Context.expr, htest.holdsIn? hR, h.mode, expr hR h hyes, expr hR h hno]
  | _, _, .logical hleft hright => by
    rw [Context.expr, Context.expr, h.skipsRight hR _ hleft, expr hR h hright]
  | _, _, .unary he => by
    rw [Context.expr, Context.expr, expr hR h he]
  | _, _, .ident _ | _, _, .literal | _, _, .object _ | _, _, .function _ | _, _, .arrow _
  | _, _, .arrowValue _ _ | _, _, .binary _ _ | _, _, .member _ | _, _, .index _ _
  | _, _, .spread _ | _, _, .chain _ | _, _, .other _ _ => by
    simp only [Context.expr]

/-- It finds the same in restyled functions that are called where they are written. -/
theorem Agree.invoked (hR : Relabels R) (h : c.Agree R c') : ∀ {e e' : Expr},
    e.Restyled R e' → c.invoked e = c'.invoked e'
  | _, _, .bare he => invokedInside hR h he
  | _, _, .wrapped he => by
    rw [invoked hR h he, Context.invoked]

theorem Agree.invokedInside (hR : Relabels R) (h : c.Agree R c') : ∀ {e e' : Expr},
    e.RestyledInside R e' → c.invoked e = c'.invoked e'
  | _, _, .paren he => by
    rw [Context.invoked, Context.invoked, invoked hR h he]
  | _, _, .member howner => by rw [Context.invoked, Context.invoked, body hR h howner]
  | _, _, .function (.mk _ _ hbody) => congrArg some (stmts hR h hbody)
  | _, _, .arrow (.mk _ _ hbody) => congrArg some (stmts hR h hbody)
  | _, _, .ident _ | _, _, .literal | _, _, .object _ | _, _, .arrowValue _ _ | _, _, .unary _
  | _, _, .binary _ _ | _, _, .logical _ _ | _, _, .conditional _ _ _ | _, _, .assign _ _
  | _, _, .sequence _ | _, _, .index _ _ | _, _, .call _ _ | _, _, .spread _ | _, _, .chain _
  | _, _, .other _ _ => by
    simp only [Context.invoked]

/-- It finds the same in restyled owners of a `.call`. -/
theorem Agree.body (hR : Relabels R) (h : c.Agree R c') : ∀ {e e' : Expr},
    e.Restyled R e' → c.body e = c'.body e'
  | _, _, .bare he => bodyInside hR h he
  | _, _, .wrapped he => by
    rw [body hR h he, Context.body]

theorem Agree.bodyInside (hR : Relabels R) (h : c.Agree R c') : ∀ {e e' : Expr},
    e.RestyledInside R e' → c.body e = c'.body e'
  | _, _, .paren he => by
    rw [Context.body, Context.body, body hR h he]
  | _, _, .function (.mk _ _ hbody) => congrArg some (stmts hR h hbody)
  | _, _, .arrow (.mk _ _ hbody) => congrArg some (stmts hR h hbody)
  | _, _, .ident _ | _, _, .literal | _, _, .object _ | _, _, .arrowValue _ _ | _, _, .unary _
  | _, _, .binary _ _ | _, _, .logical _ _ | _, _, .conditional _ _ _ | _, _, .assign _ _
  | _, _, .sequence _ | _, _, .member _ | _, _, .index _ _ | _, _, .call _ _ | _, _, .spread _
  | _, _, .chain _ | _, _, .other _ _ => by
    simp only [Context.body]

theorem Agree.exprs (hR : Relabels R) (h : c.Agree R c') : ∀ {items items' : List Expr},
    ExprsRestyled R items items' → c.exprs items = c'.exprs items'
  | _, _, .nil => rfl
  | _, _, .cons hfirst hrest => by
    rw [Context.exprs, Context.exprs, expr hR h hfirst, exprs hR h hrest]

/-- It finds the same in restyled declarations. -/
theorem Agree.declarators (hR : Relabels R) (h : c.Agree R c') :
    ∀ {items items' : List Declarator}, DeclaratorsRestyled R items items' →
      c.declarators items = c'.declarators items'
  | _, _, .nil => rfl
  | _, _, .plain _ hrest => by
    rw [Context.declarators, Context.declarators, declarators hR h hrest]
  | _, _, .init _ hinit hrest => by
    rw [Context.declarators, Context.declarators, expr hR h hinit, declarators hR h hrest]

/-- It finds the same in restyled statements. -/
theorem Agree.stmt (hR : Relabels R) (h : c.Agree R c') : ∀ {s s' : Stmt},
    s.Restyled R s' → c.stmt s = c'.stmt s'
  | _, _, .expr he => by
    rw [Context.stmt, Context.stmt, expr hR h he]
  | _, _, .declare hitems => by
    rw [Context.stmt, Context.stmt, declarators hR h hitems]
  | _, _, .block hbody => by
    rw [Context.stmt, Context.stmt, stmts hR h hbody]
  | _, _, .tryFinally hbody _ _ => by
    rw [Context.stmt, Context.stmt, stmts hR h hbody]
  | _, _, .tryCatch hbody _ _ _ => by
    rw [Context.stmt, Context.stmt, stmts hR h hbody]
  | _, _, .ifThen htest hyes => by
    rw [Context.stmt, Context.stmt, htest.holdsIn? hR, h.mode, stmt hR h hyes]
  | _, _, .ifElse htest hyes hno => by
    rw [Context.stmt, Context.stmt, htest.holdsIn? hR, h.mode, stmt hR h hyes, stmt hR h hno]
  | _, _, .function _ | _, _, .class _ _ | _, _, .returnNothing | _, _, .return _
  | _, _, .other _ _ => by
    simp only [Context.stmt]

/-- It finds the same in restyled programs. -/
theorem Agree.stmts (hR : Relabels R) (h : c.Agree R c') : ∀ {body body' : List Stmt},
    StmtsRestyled R body body' → c.stmts body = c'.stmts body'
  | _, _, .nil => rfl
  | _, _, .cons hfirst hrest => by
    rw [Context.stmts, Context.stmts, stmt hR h hfirst, stmts hR h hrest]

end

end Context

/-! ## Whole programs -/

/-- A scan finds the same in another style. -/
theorem findings_eq_of_restyled (hR : Relabels R) {program other : Program}
    (h : StmtsRestyled R program other) (mode : Mode) (called : Bool) :
    program.findings mode called = other.findings mode called := by
  have hbindings : (Bindings.ofProgram mode program).Agree R (Bindings.ofProgram mode other) :=
    .stmts hR mode h ⟨fun _ => rfl⟩
  have hcontext : Context.Agree R ⟨mode, called, .ofProgram mode program⟩
      ⟨mode, called, .ofProgram mode other⟩ := ⟨rfl, rfl, hbindings⟩
  exact hcontext.stmts hR h

/-- Names that stand for themselves are replaced one for one. -/
theorem relabels_eq : Relabels (· = ·) where
  unique := by
    rintro name _ other _ rfl rfl
    rfl
  special h _ := h

/-- Further parentheses, around any number of expressions at any depth, make no difference to a
scan. -/
theorem Program.findings_parenthesized {program other : Program}
    (h : StmtsRestyled (· = ·) program other) (mode : Mode) (called : Bool) :
    program.findings mode called = other.findings mode called :=
  findings_eq_of_restyled relabels_eq h mode called

/-- `void function () { const lib = require('m'); exports.a = 1, module.exports = lib; }();`, with
something around every expression. -/
def initializing (around : Expr → Expr) : Program :=
  [.expr (around (.unary .void (around (.call
    (around (.function (.mk none false false []
      [.declare .const [.mk (.ident "lib")
          (some (around (.call (around (.ident "require")) [.literal (.string "m")])))],
        .expr (around (.sequence
          [around (.assign .plain (.member (around (.ident "exports")) "a")
            (around (.literal (.number "1")))),
            around (.assign .plain (.member (around (.ident "module")) "exports")
              (around (.ident "lib")))]))])))
    []))))]

/-- Two pairs of parentheses around every expression are seen through. -/
theorem findings_parenthesized_initializing :
    StmtsRestyled (· = ·) (initializing id) (initializing fun e => .paren (.paren e)) ∧
      (initializing fun e => .paren (.paren e)).findings .production false = ⟨["a"], ["m"]⟩ := by
  have hwrapped {e e' : Expr} (h : e.RestyledInside (· = ·) e') :
      e.Restyled (· = ·) (.paren (.paren e')) := .wrapped (.wrapped (.bare h))
  have hstyled :
      StmtsRestyled (· = ·) (initializing id) (initializing fun e => .paren (.paren e)) := by
    refine .cons (.expr (hwrapped (.unary (hwrapped (.call (hwrapped (.function
      (.mk .none .nil ?_))) .nil))))) .nil
    -- the specifier stands as it is
    refine .cons (.declare (.init (.ident rfl)
      (hwrapped (.call (hwrapped (.ident rfl)) (.cons (.bare .literal) rfl .nil))) .nil)) ?_
    refine .cons (.expr (hwrapped (.sequence ?_))) .nil
    exact .cons (hwrapped (.assign (.member (hwrapped (.ident rfl))) (hwrapped .literal)))
      (.cons (hwrapped (.assign (.member (hwrapped (.ident rfl))) (hwrapped (.ident rfl)))) .nil)
  refine ⟨hstyled, ?_⟩
  rw [← Program.findings_parenthesized hstyled]
  rfl

variable {f : String → String}

/-- So are names that a function renames, if it is injective and keeps the special ones. -/
theorem relabels_of_injective (hinjective : Function.Injective f)
    (hspecial : ∀ name, IsSpecial name → f name = name) :
    Relabels fun name name' => f name = name' where
  unique := by
    rintro name _ other _ rfl rfl
    exact hinjective.eq_iff.symm
  special := by
    rintro name _ rfl (h | h)
    · exact (hspecial name h).symm
    · exact (hinjective (hspecial (f name) h)).symm

/-- A scan finds the same when identifiers are renamed apart and special names are kept.  No other
name becomes special then, since that would be two names for one. -/
theorem Program.findings_renamed (hinjective : Function.Injective f)
    (hspecial : ∀ name, IsSpecial name → f name = name) (program : Program) (mode : Mode)
    (called : Bool) :
    Program.findings (stmtsRenamed f program) mode called = program.findings mode called :=
  (findings_eq_of_restyled (relabels_of_injective hinjective hspecial)
    (stmtsRestyled_renamed f program) mode called).symm

/-- Two names change places. -/
def exchanging (name : String) : String := Equiv.swap "lib" "t" name

/-- `var lib = { a: 1 }; var t = require('m'); lib.b = t; module.exports = lib;
__exportStar(t, exports);` -/
def merging : Program :=
  [.declare .var [.mk (.ident "lib")
      (some (.object [.property (.literal (.string "a")) (.literal (.number "1"))])),
      .mk (.ident "t") (some (.call (.ident "require") [.literal (.string "m")]))],
    .expr (.assign .plain (.member (.ident "lib") "b") (.ident "t")),
    .expr (.assign .plain (.member (.ident "module") "exports") (.ident "lib")),
    .expr (.call (.ident "__exportStar") [.ident "t", .ident "exports"])]

/-- What is found through the two names stays when they change places. -/
theorem findings_renamed_exchanging :
    Function.Injective exchanging ∧ (∀ name, IsSpecial name → exchanging name = name) ∧
      Program.findings (stmtsRenamed exchanging merging) .production false =
        ⟨["a", "b"], ["m"]⟩ := by
  have hspecial : ∀ name, IsSpecial name → exchanging name = name := by
    intro name h
    refine Equiv.swap_apply_of_ne_of_ne ?_ ?_
    · rintro rfl
      revert h
      unfold IsSpecial
      decide
    · rintro rfl
      revert h
      unfold IsSpecial
      decide
  have hinjective : Function.Injective exchanging := (Equiv.swap "lib" "t").injective
  refine ⟨hinjective, hspecial, ?_⟩
  rw [Program.findings_renamed hinjective hspecial]
  rfl

end NamedExports.Script
