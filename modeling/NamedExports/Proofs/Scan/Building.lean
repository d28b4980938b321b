import Mathlib.Logic.Basic
import NamedExports.Proofs.Scan.Factories

/-!
# Objects that factories build

A factory builds the object that it returns: a local starts from an object literal, properties are
put on it, and on the way branches are taken and the body may return early.  `RunsAll` says how such
a body runs, on a heap that tells which object each local holds and which keys each object has.

Values and tests may be evaluated in any way that lets no local hold another object.  The keys that
an evaluation puts on the objects of locals by itself are listed as put aside.
-/

namespace NamedExports.Script.Building

/-! ## Property keys -/

/-- Digits in front of an exponent. -/
def withExponent (digits : List Char) (exponent : String) : String :=
  let significant := (digits.reverse.dropWhile (· == '0')).reverse
  String.ofList (significant.take 1 ++ (if significant.length ≤ 1 then [] else ['.']) ++
    significant.drop 1) ++ exponent

/-- The property key that a number denotes, given the number in plain decimal.  Numbers of more than
21 digits in front of the point are spelled with an exponent, and so are those that have nothing but
zeros there and in the first six places behind it. -/
def numberKey (decimal : String) : String :=
  let whole := decimal.toList.takeWhile (· != '.')
  let fraction := (decimal.toList.dropWhile (· != '.')).drop 1
  let zeros := (fraction.takeWhile (· == '0')).length
  if decimal = "inf" then "Infinity"
  else if 21 < whole.length then
    withExponent (whole ++ fraction) ("e+" ++ toString (whole.length - 1))
  else if whole = ['0'] ∧ 6 ≤ zeros then
    withExponent (fraction.drop zeros) ("e-" ++ toString (zeros + 1))
  else decimal

example : numberKey "1500000000000000000000" = "1.5e+21" := by decide

example : numberKey "0.0000001" = "1e-7" := by decide

example : numberKey "20.000000125" = "20.000000125" := by decide

/-- The property key that a literal denotes, of the kinds of literals that are static keys. -/
def literalKey? : Literal → Option String
  | .string text => some text
  | .template text => some text
  | .bigint decimal => some decimal
  | .number decimal => some (numberKey decimal)
  | .null => some "null"
  | _ => none

/-- A list has a key, or the number in plain decimal that the key spells. -/
def Lists (names : List String) (key : String) : Prop :=
  ∃ name ∈ names, name = key ∨ numberKey name = key

/-- More names list the same keys. -/
theorem Lists.mono {names more : List String} {key : String} (h : Lists names key)
    (hmore : names ⊆ more) : Lists more key := by
  obtain ⟨name, hname, hkey⟩ := h
  exact ⟨name, hmore hname, hkey⟩

/-! ## Heaps -/

/-- What a body has come to: which object each local holds, which keys each object has, and how many
objects there are. -/
structure Heap where
  holds : String → Option Nat
  keys : Nat → List String
  size : Nat

namespace Heap

/-- Before the first statement. -/
def start : Heap := ⟨fun _ => none, fun _ => [], 0⟩

/-- Makes an object, which takes the next number. -/
def make (s : Heap) (keys : List String) : Heap where
  holds := s.holds
  keys object := if object = s.size then keys else s.keys object
  size := s.size + 1

/-- A new object has the keys that it is made with. -/
@[simp] theorem keys_make_size (s : Heap) (keys : List String) :
    (s.make keys).keys s.size = keys := if_pos rfl

/-- Lets a local hold an object. -/
def bind (s : Heap) (name : String) (object : Nat) : Heap :=
  { s with holds := fun other => if other = name then some object else s.holds other }

/-- Puts a key on an object. -/
def put (s : Heap) (object : Nat) (key : String) : Heap :=
  { s with
    keys := fun other => if other = object then s.keys other ++ [key] else s.keys other }

/-- The locals hold the same objects as before, and nothing but some keys has been put on these. -/
structure Evolves (aside : List String) (s s' : Heap) : Prop where
  holds : s'.holds = s.holds
  size : s.size ≤ s'.size
  keys : ∀ {name : String} {object : Nat}, s.holds name = some object →
    s'.keys object ⊆ s.keys object ++ aside

/-- A heap evolves into itself. -/
theorem Evolves.refl (s : Heap) : Evolves [] s s where
  holds := rfl
  size := Nat.le_refl _
  keys _ := List.subset_append_left _ _

/-- What is put aside on the way is put aside altogether. -/
theorem Evolves.trans {aside more : List String} {s s' s'' : Heap} (h : Evolves aside s s')
    (h' : Evolves more s' s'') : Evolves (aside ++ more) s s'' where
  holds := h'.holds.trans h.holds
  size := Nat.le_trans h.size h'.size
  keys {name object} hname := by
    have hlater : s''.keys object ⊆ s'.keys object ++ more := h'.keys (h.holds ▸ hname)
    intro key hkey
    rw [← List.append_assoc]
    rcases List.mem_append.mp (hlater hkey) with hkey | hkey
    · exact List.mem_append_left _ (h.keys hname hkey)
    · exact List.mem_append_right _ hkey

/-- A key put on any object may be put aside. -/
theorem Evolves.put {aside : List String} {s s' : Heap} (h : Evolves aside s s') (object : Nat)
    (key : String) : Evolves (aside ++ [key]) s (s'.put object key) where
  holds := h.holds
  size := h.size
  keys {name other} hname := by
    intro found hfound
    rw [← List.append_assoc]
    simp only [Heap.put] at hfound
    split at hfound
    · rcases List.mem_append.mp hfound with hfound | hfound
      · exact List.mem_append_left _ (h.keys hname hfound)
      · exact List.mem_append_right _ hfound
    · exact List.mem_append_left _ (h.keys hname hfound)

/-- A local that holds nothing holds nothing later. -/
theorem Evolves.free {aside : List String} {s s' : Heap} (h : Evolves aside s s') {name : String}
    (hfree : s.holds name = none) : s'.holds name = none := by
  rw [h.holds, hfree]

end Heap

/-! ## Runs -/

/-- How values and tests are evaluated, and which keys are put aside on the objects of locals
meanwhile.  Of an evaluation nothing else is known than that no local holds another object after
it. -/
structure Evaluation where
  relates : Expr → Heap → List String → Heap → Prop
  evolves : ∀ {e : Expr} {s s' : Heap} {aside : List String}, relates e s aside s' →
    Heap.Evolves aside s s'

/-- A target is a property of what a name holds: `name.key` or `name['key']`. -/
inductive IsProperty : Expr → String → String → Prop where
  | member {base : Expr} {name key : String} (h : base.withoutParens = .ident name) :
      IsProperty (.member base key) name key
  | index {base e : Expr} {name key : String} (h : base.withoutParens = .ident name)
      (hkey : e.withoutParens = .literal (.string key)) : IsProperty (.index base e) name key

/-- How a statement ends: the body goes on, or it returns an object or something else. -/
inductive Completion where
  | normal
  | returned (object : Option Nat)

section Runs

variable (evaluation : Evaluation)

/-- An evaluation of the values of an object literal with static keys, and the keys it has. -/
inductive Fills : List Member → Heap → List String → Heap → List String → Prop where
  | nil {s : Heap} : Fills [] s [] s []
  | cons {literal : Literal} {value : Expr} {rest : List Member} {key : String}
      {keys aside more : List String} {s s' s'' : Heap} (hkey : literalKey? literal = some key)
      (hvalue : evaluation.relates value s aside s') (hrest : Fills rest s' more s'' keys) :
      Fills (.property (.literal literal) value :: rest) s (aside ++ more) s'' (key :: keys)

/-- A declaration of locals that start from object literals. -/
inductive Declares : List Declarator → Heap → List String → Heap → Prop where
  | nil {s : Heap} : Declares [] s [] s
  | cons {name : String} {init : Expr} {members : List Member} {rest : List Declarator}
      {keys aside more : List String} {s s' s'' : Heap}
      (hinit : init.withoutParens = .object members)
      (hmembers : Fills evaluation members s aside s' keys)
      (hrest : Declares rest ((s'.make keys).bind name s'.size) more s'') :
      Declares (.mk (.ident name) (some init) :: rest) s (aside ++ more) s''

mutual

/-- A run of a statement, the keys that are put aside meanwhile, and how it ends. -/
inductive Runs : Stmt → Heap → List String → Heap → Completion → Prop where
  | declare {items : List Declarator} {aside : List String} {s s' : Heap}
      (h : Declares evaluation items s aside s') : Runs (.declare .var items) s aside s' .normal
  | put {e target value : Expr} {name key : String} {object : Nat} {aside : List String}
      {s s' : Heap} (he : e.withoutParens = .assign .plain target value)
      (htarget : IsProperty target name key) (hname : s.holds name = some object)
      (hvalue : evaluation.relates value s aside s') :
      Runs (.expr e) s aside (s'.put object key) .normal
  | block {body : List Stmt} {aside : List String} {s s' : Heap} {done : Completion}
      (h : RunsAll body s aside s' done) : Runs (.block body) s aside s' done
  | skip {test : Expr} {yes : Stmt} {aside : List String} {s s' : Heap}
      (htest : evaluation.relates test s aside s') :
      Runs (.ifThen test yes none) s aside s' .normal
  | enter {test : Expr} {yes : Stmt} {aside more : List String} {s s' s'' : Heap}
      {done : Completion} (htest : evaluation.relates test s aside s')
      (hyes : Runs yes s' more s'' done) :
      Runs (.ifThen test yes none) s (aside ++ more) s'' done
  | yes {test : Expr} {yes no : Stmt} {aside more : List String} {s s' s'' : Heap}
      {done : Completion} (htest : evaluation.relates test s aside s')
      (hyes : Runs yes s' more s'' done) :
      Runs (.ifThen test yes (some no)) s (aside ++ more) s'' done
  | no {test : Expr} {yes no : Stmt} {aside more : List String} {s s' s'' : Heap}
      {done : Completion} (htest : evaluation.relates test s aside s')
      (hno : Runs no s' more s'' done) :
      Runs (.ifThen test yes (some no)) s (aside ++ more) s'' done
  | returnLocal {value : Expr} {name : String} {s : Heap}
      (hvalue : value.withoutParens = .ident name) :
      Runs (.return (some value)) s [] s (.returned (s.holds name))
  | returnLiteral {value : Expr} {members : List Member} {keys aside : List String} {s s' : Heap}
      (hvalue : value.withoutParens = .object members)
      (hmembers : Fills evaluation members s aside s' keys) :
      Runs (.return (some value)) s aside (s'.make keys) (.returned (some s'.size))

/-- A run of statements in order, up to the first that returns. -/
inductive RunsAll : List Stmt → Heap → List String → Heap → Completion → Prop where
  | nil {s : Heap} : RunsAll [] s [] s .normal
  | cons {first : Stmt} {rest : List Stmt} {aside more : List String} {s s' s'' : Heap}
      {done : Completion} (hfirst : Runs first s aside s' .normal)
      (hrest : RunsAll rest s' more s'' done) :
      RunsAll (first :: rest) s (aside ++ more) s'' done
  | stop {first : Stmt} {rest : List Stmt} {aside : List String} {s s' : Heap}
      {object : Option Nat} (hfirst : Runs first s aside s' (.returned object)) :
      RunsAll (first :: rest) s aside s' (.returned object)

end

end Runs

/-! ## Locals -/

/-- The local that an act declares. -/
def local? : Act → Option String
  | .declare name _ => some name
  | _ => none

/-- The locals that some acts declare. -/
def locals (acts : List Act) : List String := acts.filterMap local?

/-- What a statement does in any of its branches. -/
def actsOf (s : Stmt) : List Act := s.acts fun _ => none

/-- What statements do in any of their branches. -/
def actsOfAll (body : List Stmt) : List Act := stmtsActs (fun _ => none) body

variable {evaluation : Evaluation}

/-- Making an object literal only puts keys aside, whatever its members do. -/
theorem Fills.evolves {members : List Member} {s s' : Heap} {aside keys : List String}
    (h : Fills evaluation members s aside s' keys) : Heap.Evolves aside s s' := by
  induction h with
  | nil => exact .refl _
  | cons _ hvalue _ ih => exact (evaluation.evolves hvalue).trans ih

/-- A key that a literal denotes is the name that the scan reads, up to the spelling of numbers. -/
theorem lists_of_literalKey? {literal : Literal} {key : String}
    (h : literalKey? literal = some key) :
    Lists (Expr.literal literal).staticName?.toList key := by
  cases literal with
  | number decimal => exact ⟨decimal, List.mem_singleton_self _, Or.inr (Option.some.inj h)⟩
  | boolean value => cases h
  | regex pattern flags => cases h
  | _ => exact ⟨_, List.mem_singleton_self _, Or.inl (Option.some.inj h)⟩

/-- The scan lists the keys of a literal. -/
theorem Fills.lists {members : List Member} {s s' : Heap} {aside keys : List String}
    (h : Fills evaluation members s aside s' keys) :
    ∀ key ∈ keys, Lists (staticKeys members) key := by
  induction h with
  | nil => exact List.forall_mem_nil _
  | cons hkey _ _ ih =>
    rw [staticKeys_property, List.forall_mem_cons]
    refine ⟨(lists_of_literalKey? hkey).mono (List.subset_append_left _ _), fun key hmem => ?_⟩
    exact (ih key hmem).mono (List.subset_append_right _ _)

/-- The scan reads the local and the key of a property of a local. -/
theorem IsProperty.propertyTarget? {target : Expr} {name key : String}
    (h : IsProperty target name key) :
    ∃ base, target.propertyTarget? = some (base, key) ∧ base.identName? = some name := by
  cases h with
  | @member base _ _ h => exact ⟨base, rfl, by rw [Expr.identName?, h]⟩
  | @index base _ _ _ h hkey =>
    exact ⟨base, by rw [Expr.propertyTarget?, hkey], by rw [Expr.identName?, h]⟩

/-- The declaration of a local with an object literal is one act. -/
theorem declarator_acts {name : String} {init : Expr} {members : List Member}
    (hinit : init.withoutParens = .object members) :
    (Declarator.mk (.ident name) (some init)).acts = [.declare name (staticKeys members)] := by
  rw [Declarator.acts, hinit]

/-- The locals of acts in two lists. -/
theorem locals_append (acts more : List Act) : locals (acts ++ more) = locals acts ++ locals more :=
  List.filterMap_append

/-! ## Locals that hold nothing yet

A run only makes locals hold something that it declares.
-/

/-- Declarations let no local hold an object but those that they declare. -/
theorem Declares.free {items : List Declarator} {s s' : Heap} {aside : List String}
    (h : Declares evaluation items s aside s') {name : String} (hfree : s.holds name = none)
    (hname : name ∉ locals (items.flatMap Declarator.acts)) : s'.holds name = none := by
  induction h with
  | nil => exact hfree
  | @cons declared _ _ _ _ _ _ s s' _ hinit hmembers _ ih =>
    rw [List.flatMap_cons, declarator_acts hinit, locals_append, List.mem_append, not_or] at hname
    have hother : name ≠ declared := fun h => hname.1 (h ▸ List.mem_singleton_self _)
    refine ih ?_ hname.2
    show (if name = declared then _ else s'.holds name) = none
    rw [if_neg hother, hmembers.evolves.free hfree]

-- by recursion on the runs
mutual

/-- A statement lets no local hold an object but those that it declares. -/
theorem Runs.free : ∀ {stmt : Stmt} {s s' : Heap} {aside : List String} {done : Completion},
    Runs evaluation stmt s aside s' done → ∀ {name : String}, s.holds name = none →
      name ∉ locals (actsOf stmt) → s'.holds name = none
  | _, _, _, _, _, .declare h, _, hfree, hname => h.free hfree hname
  | _, _, _, _, _, .put _ _ _ hvalue, _, hfree, _ => (evaluation.evolves hvalue).free hfree
  | _, _, _, _, _, .block h, _, hfree, hname => RunsAll.free h hfree hname
  | _, _, _, _, _, .skip htest, _, hfree, _ => (evaluation.evolves htest).free hfree
  | _, _, _, _, _, .enter htest hyes, _, hfree, hname =>
    Runs.free hyes ((evaluation.evolves htest).free hfree) hname
  | _, _, _, _, _, .yes htest hyes, _, hfree, hname =>
    Runs.free hyes ((evaluation.evolves htest).free hfree) fun h =>
      hname (locals_append _ _ ▸ List.mem_append_left _ h)
  | _, _, _, _, _, .no htest hno, _, hfree, hname =>
    Runs.free hno ((evaluation.evolves htest).free hfree) fun h =>
      hname (locals_append _ _ ▸ List.mem_append_right _ h)
  | _, _, _, _, _, .returnLocal _, _, hfree, _ => hfree
  | _, _, _, _, _, .returnLiteral _ hmembers, _, hfree, _ => hmembers.evolves.free hfree

/-- The same for a body. -/
theorem RunsAll.free : ∀ {body : List Stmt} {s s' : Heap} {aside : List String}
    {done : Completion}, RunsAll evaluation body s aside s' done → ∀ {name : String},
      s.holds name = none → name ∉ locals (actsOfAll body) → s'.holds name = none
  | _, _, _, _, _, .nil, _, hfree, _ => hfree
  | _, _, _, _, _, .cons hfirst hrest, _, hfree, hname => by
    have hname := not_or.mp (List.mem_append.not.mp (locals_append _ _ ▸ hname))
    exact RunsAll.free hrest (Runs.free hfirst hfree hname.1) hname.2
  | _, _, _, _, _, .stop hfirst, _, hfree, hname =>
    Runs.free hfirst hfree fun h => hname (locals_append _ _ ▸ List.mem_append_left _ h)

end

/-- The locals that some acts declare are declared once, and hold nothing yet. -/
structure Fresh (acts : List Act) (s : Heap) : Prop where
  nodup : (locals acts).Nodup
  free : ∀ name ∈ locals acts, s.holds name = none

namespace Fresh

variable {acts more : List Act} {s s' : Heap} {aside : List String}

/-- What is fresh stays fresh while values are evaluated. -/
theorem evolves (h : Fresh acts s) (hevolves : Heap.Evolves aside s s') : Fresh acts s' :=
  ⟨h.nodup, fun name hname => hevolves.free (h.free name hname)⟩

/-- Acts in the front of fresh ones are fresh. -/
theorem left (h : Fresh (acts ++ more) s) : Fresh acts s where
  nodup := (List.nodup_append.mp (locals_append acts more ▸ h.nodup)).1
  free name hname := h.free name (locals_append acts more ▸ List.mem_append_left _ hname)

/-- Acts behind fresh ones are fresh. -/
theorem right (h : Fresh (acts ++ more) s) : Fresh more s where
  nodup := (List.nodup_append.mp (locals_append acts more ▸ h.nodup)).2.1
  free name hname := h.free name (locals_append acts more ▸ List.mem_append_right _ hname)

/-- What is declared later still holds nothing after the first acts. -/
theorem after (h : Fresh (acts ++ more) s)
    (hfree : ∀ {name : String}, s.holds name = none → name ∉ locals acts → s'.holds name = none) :
    Fresh more s' where
  nodup := h.right.nodup
  free name hname := hfree (h.right.free name hname) fun hdeclared =>
    (List.nodup_append.mp (locals_append acts more ▸ h.nodup)).2.2 name hdeclared name hname rfl

end Fresh

end NamedExports.Script.Building
