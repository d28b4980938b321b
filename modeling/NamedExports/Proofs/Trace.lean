import NamedExports.Trace

/-!
# Laws of traced computations

A computation that goes on with the result of another makes the other's calls first.  It succeeds
exactly if both do, and once something has failed nothing more is called.
-/

namespace NamedExports.Traced

variable {α β : Type} {x : Traced α} {f : α → Traced β}

/-- What needs no call. -/
def ofExcept (outcome : Except Failure α) : Traced α := ⟨[], outcome⟩

@[simp] theorem outcome_pure (a : α) : (pure a : Traced α).outcome = .ok a := rfl

@[simp] theorem calls_pure (a : α) : (pure a : Traced α).calls = [] := rfl

/-- After a success, the calls of the rest follow and its outcome counts. -/
theorem bind_of_ok {a : α} (h : x.outcome = .ok a) :
    x >>= f = ⟨x.calls ++ (f a).calls, (f a).outcome⟩ := by
  show andThen x f = _
  simp only [andThen, h]

/-- After a failure, nothing more is called. -/
theorem bind_of_error {failure : Failure} (h : x.outcome = .error failure) :
    x >>= f = ⟨x.calls, .error failure⟩ := by
  show andThen x f = _
  simp only [andThen, h]

/-- Both parts have to succeed. -/
theorem outcome_bind_eq_ok_iff {b : β} :
    (x >>= f).outcome = .ok b ↔ ∃ a, x.outcome = .ok a ∧ (f a).outcome = .ok b := by
  cases h : x.outcome with
  | error failure => simp [bind_of_error h]
  | ok a => simp [bind_of_ok h]

/-- The calls of the whole are those of its first part and, if that succeeds, those of the rest. -/
theorem mem_calls_bind_iff {made : Call} :
    made ∈ (x >>= f).calls ↔
      made ∈ x.calls ∨ ∃ a, x.outcome = .ok a ∧ made ∈ (f a).calls := by
  cases h : x.outcome with
  | error failure => simp [bind_of_error h]
  | ok a => simp [bind_of_ok h]

/-- Nothing is done after the end. -/
theorem bind_pure (x : Traced α) : x >>= pure = x := by
  cases h : x.outcome with
  | error failure => rw [bind_of_error h, ← h]
  | ok a => rw [bind_of_ok h, calls_pure, outcome_pure, List.append_nil, ← h]

/-- The calls of the first part come first. -/
theorem calls_prefix_bind (x : Traced α) (f : α → Traced β) : x.calls <+: (x >>= f).calls := by
  cases h : x.outcome with
  | error failure => simp only [bind_of_error h, List.prefix_refl]
  | ok a => simp only [bind_of_ok h, List.prefix_append]

/-- What has been called before a computation is called before what follows it. -/
theorem after_bind (before : List Call) (x : Traced α) (f : α → Traced β) :
    Traced.mk (before ++ x.calls) x.outcome >>= f =
      ⟨before ++ (x >>= f).calls, (x >>= f).outcome⟩ := by
  cases h : x.outcome with
  | error failure => rw [bind_of_error h, bind_of_error rfl]
  | ok a => rw [bind_of_ok h, bind_of_ok rfl, List.append_assoc]

/-- The loads among calls: the modules and the modes they are loaded in. -/
def loads (calls : List Call) : List (Path × Mode) :=
  calls.filterMap fun
    | .load path mode => some (path, mode)
    | _ => none

/-- The loads of calls one after the other. -/
theorem loads_append (first rest : List Call) : loads (first ++ rest) = loads first ++ loads rest :=
  List.filterMap_append

/-- Nothing is loaded if neither part loads anything. -/
theorem loads_bind_eq_nil (hx : loads x.calls = [])
    (hf : ∀ a, x.outcome = .ok a → loads (f a).calls = []) : loads (x >>= f).calls = [] := by
  cases h : x.outcome with
  | error failure => rw [bind_of_error h, hx]
  | ok a => rw [bind_of_ok h, loads_append, hx, hf a h, List.append_nil]

end NamedExports.Traced

namespace NamedExports.Collaborators

variable (c : Collaborators)

@[simp] theorem outcome_readFile (path : Path) : (c.readFile path).outcome = c.read path := rfl

@[simp] theorem calls_readFile (path : Path) : (c.readFile path).calls = [.read path] := rfl

@[simp] theorem outcome_resolvePath (base : Path) (specifier : String) :
    (c.resolvePath base specifier).outcome = c.resolve base specifier := rfl

@[simp] theorem calls_resolvePath (base : Path) (specifier : String) :
    (c.resolvePath base specifier).calls = [.resolve base specifier] := rfl

@[simp] theorem outcome_scanSource (path : Path) (source : String) (mode : Mode) (called : Bool) :
    (c.scanSource path source mode called).outcome = c.scan path source mode called := rfl

@[simp] theorem calls_scanSource (path : Path) (source : String) (mode : Mode) (called : Bool) :
    (c.scanSource path source mode called).calls = [.scan path mode called] := rfl

@[simp] theorem outcome_loadModule (path : Path) (mode : Mode) :
    (c.loadModule path mode).outcome = c.load path mode := rfl

@[simp] theorem calls_loadModule (path : Path) (mode : Mode) :
    (c.loadModule path mode).calls = [.load path mode] := rfl

end NamedExports.Collaborators
