import NamedExports.Proofs.Scan.RestyledShape

/-!
# The first look at programs in another style

What the first look knows of a name in one program it knows of every name that stands for it in the
other.  So do the local object literals of a factory, which are kept in a table of their own.
-/

namespace NamedExports.Script

variable {R : String → String → Prop}

/-- Replaced names are equal exactly if the names are. -/
theorem Relabels.beq_eq (hR : Relabels R) {name name' other other' : String} (h : R name name')
    (hother : R other other') : (name == other) = (name' == other') := by
  rw [Bool.eq_iff_iff, beq_iff_eq, beq_iff_eq]
  exact hR.unique h hother

/-! ## What a factory returns -/

namespace Returns

/-- Two states know the same of names that stand for each other. -/
structure Agree (R : String → String → Prop) (r r' : Returns) : Prop where
  keys : r.keys = r'.keys
  locals : ∀ {name name' : String}, R name name' → r.locals name = r'.locals name'

variable {r r' : Returns} {name name' : String}

/-- Factories that agree still agree when each declares the object that it knows by its own name. -/
theorem Agree.declare (hR : Relabels R) (h : r.Agree R r') (hname : R name name')
    (keys : List String) : (r.declare name keys).Agree R (r'.declare name' keys) where
  keys := h.keys
  locals hother := by simp only [Returns.declare, hR.beq_eq hother hname, h.locals hother]

/-- They still agree when a key is added under each one's name. -/
theorem Agree.addKey (hR : Relabels R) (h : r.Agree R r') (hname : R name name') (key : String) :
    (r.addKey name key).Agree R (r'.addKey name' key) where
  keys := h.keys
  locals hother := by simp only [Returns.addKey, hR.beq_eq hother hname, h.locals hother]

/-- They still agree when both give the same keys away. -/
theorem Agree.give (h : r.Agree R r') (keys : List String) :
    (r.give keys).Agree R (r'.give keys) where
  keys := by simp only [Returns.give, h.keys]
  locals := h.locals

/-- A variable without an initial value is nothing to a factory. -/
@[simp] theorem declarator_plain (r : Returns) (target : Expr) :
    r.declarator (.mk target none) = r := by
  cases target <;> rfl

/-- Restyled variables with initial values keep factories in agreement. -/
theorem Agree.declarator (hR : Relabels R) (h : r.Agree R r') {target target' init init' : Expr}
    (htarget : target.RestyledInside R target') (hinit : init.Restyled R init') :
    (r.declarator (.mk target (some init))).Agree R (r'.declarator (.mk target' (some init'))) := by
  cases htarget with
  | ident hname =>
    have hinside := hinit.withoutParens
    simp only [Returns.declarator]
    generalize init.withoutParens = shape at hinside ⊢
    generalize init'.withoutParens = shape' at hinside ⊢
    cases hinside with
    | object hmembers =>
      simp only [hmembers.staticKeys]
      exact h.declare hR hname _
    | _ => exact h
  | _ => exact h

/-- So do restyled declarations. -/
theorem Agree.declarators (hR : Relabels R) : ∀ {items items' : List Declarator} {r r' : Returns},
    DeclaratorsRestyled R items items' → r.Agree R r' →
      (items.foldl Returns.declarator r).Agree R (items'.foldl Returns.declarator r')
  | _, _, _, _, .nil, h => h
  | _, _, _, _, .plain _ hrest, h => by
    rw [List.foldl_cons, List.foldl_cons, declarator_plain, declarator_plain]
    exact declarators hR hrest h
  | _, _, _, _, .init htarget hinit hrest, h =>
    (declarators hR hrest (h.declarator hR htarget hinit) :)

/-- So do restyled expressions that are evaluated for their effect. -/
theorem Agree.effect (hR : Relabels R) (h : r.Agree R r') {e e' : Expr} (he : e.Restyled R e') :
    (r.effect e).Agree R (r'.effect e') := by
  have hinside := he.withoutParens
  rw [Returns.effect, Returns.effect]
  generalize e.withoutParens = shape at hinside ⊢
  generalize e'.withoutParens = shape' at hinside ⊢
  cases hinside with
  | assign htarget _ =>
    obtain ⟨hnone, hnone'⟩ | ⟨object, object', key, hsome, hsome', hobject⟩ :=
      htarget.propertyTarget?
    · simp only [hnone, hnone']
      exact h
    · obtain ⟨hnone, hnone'⟩ | ⟨name, name', hname, hname', hrelated⟩ :=
        rel_cases hobject.identName?
      · simp only [hsome, hsome', hnone, hnone']
        exact h
      · simp only [hsome, hsome', hname, hname']
        exact h.addKey hR hrelated key
  | _ => exact h

/-- So do restyled values that are returned. -/
theorem Agree.value (h : r.Agree R r') {e e' : Expr} (he : e.Restyled R e') :
    (r.value e).Agree R (r'.value e') := by
  have hinside := he.withoutParens
  rw [Returns.value, Returns.value]
  generalize e.withoutParens = shape at hinside ⊢
  generalize e'.withoutParens = shape' at hinside ⊢
  cases hinside with
  | object hmembers =>
    simp only [hmembers.staticKeys]
    exact h.give _
  | ident hname =>
    simp only [h.locals hname]
    exact h.give _
  | _ => exact h

-- by recursion on what relates the statements
mutual

/-- So do restyled statements. -/
theorem Agree.statement (hR : Relabels R) : ∀ {s s' : Stmt} {r r' : Returns}, s.Restyled R s' →
    r.Agree R r' → (r.statement s).Agree R (r'.statement s')
  | _, _, _, _, .declare hitems, h => (Agree.declarators hR hitems h :)
  | _, _, _, _, .expr he, h => (h.effect hR he :)
  | _, _, _, _, .return hvalue, h => (h.value hvalue :)
  | _, _, _, _, .block hbody, h => (statements hR hbody h :)
  | _, _, _, _, .ifThen _ hyes, h => (statement hR hyes h :)
  | _, _, _, _, .ifElse _ hyes hno, h => (statement hR hno (statement hR hyes h) :)
  | _, _, _, _, .function _, h | _, _, _, _, .class _ _, h | _, _, _, _, .tryFinally _ _ _, h
  | _, _, _, _, .tryCatch _ _ _ _, h | _, _, _, _, .returnNothing, h
  | _, _, _, _, .other _ _, h => h

theorem Agree.statements (hR : Relabels R) : ∀ {body body' : List Stmt} {r r' : Returns},
    StmtsRestyled R body body' → r.Agree R r' → (r.statements body).Agree R (r'.statements body')
  | _, _, _, _, .nil, h => h
  | _, _, _, _, .cons hfirst hrest, h => (statements hR hrest (statement hR hfirst h) :)

end

end Returns

/-- Restyled functions return objects with the same keys. -/
theorem Code.Restyled.returnedKeys (hR : Relabels R) {code code' : Code}
    (h : code.Restyled R code') : code.returnedKeys = code'.returnedKeys := by
  cases h with
  | mk _ _ hbody => exact (Returns.Agree.statements hR hbody ⟨rfl, fun _ => rfl⟩).keys

/-- Restyled values are objects with the same keys. -/
theorem Expr.Restyled.valueKeys {e e' : Expr} (h : e.Restyled R e') :
    e.valueKeys = e'.valueKeys := by
  have hinside := h.withoutParens
  rw [Expr.valueKeys, Expr.valueKeys]
  generalize e.withoutParens = shape at hinside ⊢
  generalize e'.withoutParens = shape' at hinside ⊢
  cases hinside with
  | object hmembers => exact hmembers.staticKeys
  | _ => rfl

/-! ## What a name starts from -/

/-- Restyled object literals spread the same required modules. -/
theorem filterMap_requiredSpecifier?_restyled (hR : Relabels R) {members members' : List Member}
    (h : MembersRestyled R members members') :
    (spreadOperands members).filterMap Expr.requiredSpecifier? =
      (spreadOperands members').filterMap Expr.requiredSpecifier? := by
  have hmap := h.spreadOperands.map_eq fun h => h.requiredSpecifier? hR
  simpa only [List.filterMap_map, Function.id_comp] using congrArg (List.filterMap id) hmap

-- by recursion on what relates the values
mutual

/-- Restyled initial values are known to be the same. -/
theorem Expr.Restyled.ofValue (hR : Relabels R) : ∀ {e e' : Expr}, e.Restyled R e' →
    Binding.ofValue e = Binding.ofValue e'
  | _, _, .bare h => h.ofValue hR
  | _, _, .wrapped h => h.ofValue hR

theorem Expr.RestyledInside.ofValue (hR : Relabels R) : ∀ {e e' : Expr}, e.RestyledInside R e' →
    Binding.ofValue e = Binding.ofValue e'
  | _, _, .paren h => h.ofValue hR
  | _, _, .object h => by
    rw [Binding.ofValue, Binding.ofValue, h.staticKeys, filterMap_requiredSpecifier?_restyled hR h]
  | .call callee args, .call callee' args', .call hcallee hargs => by
    have hcall := (Expr.Restyled.bare (.call hcallee hargs)).requiredSpecifier? hR
    have hfirst := bind_eq_of_rel hargs.firstValue? fun h => h.1.requiredSpecifier? hR
    rw [Binding.ofValue, Binding.ofValue, hcall, hcallee.isInteropCall hR hargs, hfirst]
  | _, _, .function h => by rw [Binding.ofValue, Binding.ofValue, h.returnedKeys hR]
  | _, _, .arrow h => by rw [Binding.ofValue, Binding.ofValue, h.returnedKeys hR]
  | _, _, .arrowValue _ h => by rw [Binding.ofValue, Binding.ofValue, h.valueKeys]
  | _, _, .assign _ h => h.ofValue hR
  | _, _, .ident _ | _, _, .literal | _, _, .unary _ | _, _, .binary _ _ | _, _, .logical _ _
  | _, _, .conditional _ _ _ | _, _, .sequence _ | _, _, .member _ | _, _, .index _ _
  | _, _, .spread _ | _, _, .chain _ | _, _, .other _ _ => rfl

end

/-! ## The first look -/

namespace Bindings

/-- Two tables know the same of names that stand for each other. -/
structure Agree (R : String → String → Prop) (b b' : Bindings) : Prop where
  get? : ∀ {name name' : String}, R name name' → b.get? name = b'.get? name'

variable {b b' : Bindings} {name name' : String}

/-- Tables that agree still agree when the same is recorded under each one's name. -/
theorem Agree.set (hR : Relabels R) (h : b.Agree R b') (hname : R name name') (binding : Binding) :
    (b.set name binding).Agree R (b'.set name' binding) where
  get? hother := by simp only [Bindings.set, hR.beq_eq hother hname, h.get? hother]

/-- They still agree when the same keys are added under each one's name. -/
theorem Agree.addKeys (hR : Relabels R) (h : b.Agree R b') (hname : R name name')
    (keys : List String) : (b.addKeys name keys).Agree R (b'.addKeys name' keys) where
  get? hother := by simp only [Bindings.addKeys, hR.beq_eq hother hname, h.get? hother]

/-- A variable without an initial value is not recorded. -/
@[simp] theorem declare_plain (b : Bindings) (target : Expr) : b.declare (.mk target none) = b := by
  cases target <;> rfl

/-- Restyled variables with initial values keep tables in agreement. -/
theorem Agree.declare (hR : Relabels R) (h : b.Agree R b') {target target' init init' : Expr}
    (htarget : target.RestyledInside R target') (hinit : init.Restyled R init') :
    (b.declare (.mk target (some init))).Agree R (b'.declare (.mk target' (some init'))) := by
  cases htarget with
  | ident hname =>
    rw [Bindings.declare, Bindings.declare, hinit.ofValue hR]
    exact h.set hR hname _
  | _ => exact h

/-- So do restyled declarations. -/
theorem Agree.declarators (hR : Relabels R) : ∀ {items items' : List Declarator} {b b' : Bindings},
    DeclaratorsRestyled R items items' → b.Agree R b' →
      (items.foldl Bindings.declare b).Agree R (items'.foldl Bindings.declare b')
  | _, _, _, _, .nil, h => h
  | _, _, _, _, .plain _ hrest, h => by
    rw [List.foldl_cons, List.foldl_cons, declare_plain, declare_plain]
    exact declarators hR hrest h
  | _, _, _, _, .init htarget hinit hrest, h =>
    (declarators hR hrest (h.declare hR htarget hinit) :)

/-- So do restyled targets of assignments. -/
theorem Agree.assign (hR : Relabels R) (h : b.Agree R b') {target target' : Expr}
    (htarget : target.RestyledInside R target') :
    (b.assign target).Agree R (b'.assign target') := by
  obtain ⟨hnone, hnone'⟩ | ⟨object, object', key, hsome, hsome', hobject⟩ :=
    htarget.propertyTarget?
  · simp only [Bindings.assign, hnone, hnone']
    exact h
  · obtain ⟨hnone, hnone'⟩ | ⟨name, name', hname, hname', hrelated⟩ := rel_cases hobject.identName?
    · simp only [Bindings.assign, hsome, hsome', hnone, hnone']
      exact h
    · simp only [Bindings.assign, hsome, hsome', hname, hname']
      exact h.addKeys hR hrelated [key]

/-- So do restyled calls that define properties. -/
theorem Agree.call (hR : Relabels R) (h : b.Agree R b') {callee callee' : Expr}
    {args args' : List Expr} (hcallee : callee.Restyled R callee')
    (hargs : ArgsRestyled R args args') : (b.call callee args).Agree R (b'.call callee' args') := by
  have hdefines := hcallee.isMemberOf hR "Object" "defineProperty" (by decide)
  have hexports := hcallee.calleeName?_beq hR "__export" (by decide)
  obtain ⟨hnone, hnone'⟩ | ⟨name, name', hname, hname', hrelated⟩ :=
    rel_cases (rel_bind hargs.firstValue? fun h => h.1.identName?)
  · simp only [Bindings.call, hnone, hnone']
    exact h
  obtain ⟨hnone, hnone'⟩ | ⟨second, second', hsecond, hsecond', hrestyled⟩ :=
    rel_cases hargs.secondValue?
  · simp only [Bindings.call, hname, hname', hnone, hnone']
    exact h
  simp only [Bindings.call, hname, hname', hsecond, hsecond', hdefines, hexports]
  obtain ⟨key, rfl, rfl⟩ | ⟨members, members', rfl, rfl, hmembers⟩ | ⟨hother, hother'⟩ :=
    hrestyled.cases
  · simp only
    split
    · exact h.addKeys hR hrelated [key]
    · exact h
  · simp only [hmembers.staticKeys]
    split
    · exact h.addKeys hR hrelated _
    · exact h
  · simpa [hother.string, hother.object, hother'.string, hother'.object] using h

-- by recursion on what relates the programs
mutual

/-- The first look at restyled expressions keeps tables in agreement. -/
theorem Agree.expr (hR : Relabels R) (mode : Mode) : ∀ {e e' : Expr} {b b' : Bindings},
    e.Restyled R e' → b.Agree R b' →
      (Bindings.expr mode b e).Agree R (Bindings.expr mode b' e')
  | _, _, _, _, .bare he, h => (exprInside hR mode he h :)
  | _, _, _, _, .wrapped he, h => (expr hR mode he h :)

theorem Agree.exprInside (hR : Relabels R) (mode : Mode) : ∀ {e e' : Expr} {b b' : Bindings},
    e.RestyledInside R e' → b.Agree R b' →
      (Bindings.expr mode b e).Agree R (Bindings.expr mode b' e')
  | _, _, _, _, .paren he, h => (expr hR mode he h :)
  | .call callee _, .call callee' _, b, b', .call hcallee hargs, h => by
    have hinvoked := invoked hR mode hcallee h
    rw [Bindings.expr, Bindings.expr]
    generalize Bindings.invoked mode b callee = followed at hinvoked ⊢
    generalize Bindings.invoked mode b' callee' = followed' at hinvoked ⊢
    cases hinvoked with
    | some hfollowed => exact hfollowed
    | none => exact h.call hR hcallee hargs
  | _, _, _, _, .unary he, h => (negated hR mode he h :)
  | _, _, _, _, .sequence hitems, h => (exprs hR mode hitems h :)
  | _, _, _, _, .assign htarget hvalue, h => (expr hR mode hvalue (h.assign hR htarget) :)
  | _, _, _, _, .ident _, h | _, _, _, _, .literal, h | _, _, _, _, .object _, h
  | _, _, _, _, .function _, h | _, _, _, _, .arrow _, h | _, _, _, _, .arrowValue _ _, h
  | _, _, _, _, .binary _ _, h | _, _, _, _, .logical _ _, h | _, _, _, _, .conditional _ _ _, h
  | _, _, _, _, .member _, h | _, _, _, _, .index _ _, h | _, _, _, _, .spread _, h
  | _, _, _, _, .chain _, h | _, _, _, _, .other _ _, h => h

/-- The first look at the operands of restyled unary operators does so. -/
theorem Agree.negated (hR : Relabels R) (mode : Mode) : ∀ {e e' : Expr} {b b' : Bindings},
    e.Restyled R e' → b.Agree R b' →
      (Bindings.negated mode b e).Agree R (Bindings.negated mode b' e')
  | _, _, _, _, .bare he, h => (negatedInside hR mode he h :)
  | _, _, _, _, .wrapped he, h => (negated hR mode he h :)

theorem Agree.negatedInside (hR : Relabels R) (mode : Mode) : ∀ {e e' : Expr} {b b' : Bindings},
    e.RestyledInside R e' → b.Agree R b' →
      (Bindings.negated mode b e).Agree R (Bindings.negated mode b' e')
  | _, _, _, _, .paren he, h => (negated hR mode he h :)
  | .call callee _, .call callee' _, b, b', .call hcallee _, h => by
    have hinvoked := invoked hR mode hcallee h
    rw [Bindings.negated, Bindings.negated]
    generalize Bindings.invoked mode b callee = followed at hinvoked ⊢
    generalize Bindings.invoked mode b' callee' = followed' at hinvoked ⊢
    cases hinvoked with
    | some hfollowed => exact hfollowed
    | none => exact h
  | _, _, _, _, .ident _, h | _, _, _, _, .literal, h | _, _, _, _, .object _, h
  | _, _, _, _, .function _, h | _, _, _, _, .arrow _, h | _, _, _, _, .arrowValue _ _, h
  | _, _, _, _, .unary _, h | _, _, _, _, .binary _ _, h | _, _, _, _, .logical _ _, h
  | _, _, _, _, .conditional _ _ _, h | _, _, _, _, .assign _ _, h | _, _, _, _, .sequence _, h
  | _, _, _, _, .member _, h | _, _, _, _, .index _ _, h | _, _, _, _, .spread _, h
  | _, _, _, _, .chain _, h | _, _, _, _, .other _ _, h => h

/-- Of restyled callees both are functions that are followed, and to tables that agree, or neither
is. -/
theorem Agree.invoked (hR : Relabels R) (mode : Mode) : ∀ {e e' : Expr} {b b' : Bindings},
    e.Restyled R e' → b.Agree R b' →
      Option.Rel (Agree R) (Bindings.invoked mode b e) (Bindings.invoked mode b' e')
  | _, _, _, _, .bare he, h => (invokedInside hR mode he h :)
  | _, _, _, _, .wrapped he, h => (invoked hR mode he h :)

theorem Agree.invokedInside (hR : Relabels R) (mode : Mode) : ∀ {e e' : Expr} {b b' : Bindings},
    e.RestyledInside R e' → b.Agree R b' →
      Option.Rel (Agree R) (Bindings.invoked mode b e) (Bindings.invoked mode b' e')
  | _, _, _, _, .paren he, h => (invoked hR mode he h :)
  | _, _, _, _, .member howner, h => by
    rw [Bindings.invoked, Bindings.invoked]
    split
    · exact body hR mode howner h
    · exact .none
  | _, _, _, _, .function (.mk _ _ hbody), h => .some (stmts hR mode hbody h)
  | _, _, _, _, .arrow (.mk _ _ hbody), h => .some (stmts hR mode hbody h)
  | _, _, _, _, .ident _, _ | _, _, _, _, .literal, _ | _, _, _, _, .object _, _
  | _, _, _, _, .arrowValue _ _, _ | _, _, _, _, .unary _, _ | _, _, _, _, .binary _ _, _
  | _, _, _, _, .logical _ _, _ | _, _, _, _, .conditional _ _ _, _ | _, _, _, _, .assign _ _, _
  | _, _, _, _, .sequence _, _ | _, _, _, _, .index _ _, _ | _, _, _, _, .call _ _, _
  | _, _, _, _, .spread _, _ | _, _, _, _, .chain _, _ | _, _, _, _, .other _ _, _ => .none

/-- The same holds of restyled owners of a `.call`. -/
theorem Agree.body (hR : Relabels R) (mode : Mode) : ∀ {e e' : Expr} {b b' : Bindings},
    e.Restyled R e' → b.Agree R b' →
      Option.Rel (Agree R) (Bindings.body mode b e) (Bindings.body mode b' e')
  | _, _, _, _, .bare he, h => (bodyInside hR mode he h :)
  | _, _, _, _, .wrapped he, h => (body hR mode he h :)

theorem Agree.bodyInside (hR : Relabels R) (mode : Mode) : ∀ {e e' : Expr} {b b' : Bindings},
    e.RestyledInside R e' → b.Agree R b' →
      Option.Rel (Agree R) (Bindings.body mode b e) (Bindings.body mode b' e')
  | _, _, _, _, .paren he, h => (body hR mode he h :)
  | _, _, _, _, .function (.mk _ _ hbody), h => .some (stmts hR mode hbody h)
  | _, _, _, _, .arrow (.mk _ _ hbody), h => .some (stmts hR mode hbody h)
  | _, _, _, _, .ident _, _ | _, _, _, _, .literal, _ | _, _, _, _, .object _, _
  | _, _, _, _, .arrowValue _ _, _ | _, _, _, _, .unary _, _ | _, _, _, _, .binary _ _, _
  | _, _, _, _, .logical _ _, _ | _, _, _, _, .conditional _ _ _, _ | _, _, _, _, .assign _ _, _
  | _, _, _, _, .sequence _, _ | _, _, _, _, .member _, _ | _, _, _, _, .index _ _, _
  | _, _, _, _, .call _ _, _ | _, _, _, _, .spread _, _ | _, _, _, _, .chain _, _
  | _, _, _, _, .other _ _, _ => .none

/-- The first look at restyled sequences keeps tables in agreement. -/
theorem Agree.exprs (hR : Relabels R) (mode : Mode) :
    ∀ {items items' : List Expr} {b b' : Bindings}, ExprsRestyled R items items' → b.Agree R b' →
      (Bindings.exprs mode b items).Agree R (Bindings.exprs mode b' items')
  | _, _, _, _, .nil, h => h
  | _, _, _, _, .cons hfirst hrest, h => (exprs hR mode hrest (expr hR mode hfirst h) :)

/-- The first look at restyled statements keeps tables in agreement. -/
theorem Agree.stmt (hR : Relabels R) (mode : Mode) : ∀ {s s' : Stmt} {b b' : Bindings},
    s.Restyled R s' → b.Agree R b' →
      (Bindings.stmt mode b s).Agree R (Bindings.stmt mode b' s')
  | _, _, _, _, .declare hitems, h => (Agree.declarators hR hitems h :)
  | _, _, _, _, .function (.mk hname hparams hbody), h => by
    rw [Bindings.stmt, Bindings.stmt, Code.Restyled.returnedKeys hR (.mk hname hparams hbody)]
    cases hname with
    | some hname => exact h.set hR hname _
    | none => exact h
  | _, _, _, _, .class (.some hname) _, h => h.set hR hname _
  | _, _, _, _, .class .none _, h => h
  | _, _, _, _, .expr he, h => (expr hR mode he h :)
  | _, _, _, _, .block hbody, h => (stmts hR mode hbody h :)
  | _, _, _, _, .tryFinally hbody _ _, h => (stmts hR mode hbody h :)
  | _, _, _, _, .tryCatch hbody _ _ _, h => (stmts hR mode hbody h :)
  | _, _, _, _, .ifThen htest hyes, h => by
    have hyes := stmt hR mode hyes h
    rw [Bindings.stmt, Bindings.stmt, htest.holdsIn? hR mode]
    split
    · exact h
    · exact hyes
  | _, _, _, _, .ifElse htest hyes hno, h => by
    have hyes := stmt hR mode hyes h
    have hno' := stmt hR mode hno h
    have hboth := stmt hR mode hno hyes
    rw [Bindings.stmt, Bindings.stmt, htest.holdsIn? hR mode]
    split
    · exact hyes
    · exact hno'
    · exact hboth
  | _, _, _, _, .returnNothing, h | _, _, _, _, .return _, h | _, _, _, _, .other _ _, h => h

/-- The first look at restyled programs makes the same known under each one's names. -/
theorem Agree.stmts (hR : Relabels R) (mode : Mode) : ∀ {body body' : List Stmt} {b b' : Bindings},
    StmtsRestyled R body body' → b.Agree R b' →
      (Bindings.stmts mode b body).Agree R (Bindings.stmts mode b' body')
  | _, _, _, _, .nil, h => h
  | _, _, _, _, .cons hfirst hrest, h => (stmts hR mode hrest (stmt hR mode hfirst h) :)

end

end Bindings

end NamedExports.Script
