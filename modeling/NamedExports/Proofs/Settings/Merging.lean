import NamedExports.Proofs.Settings.Setting
import NamedExports.Settings.Load

/-!
# Settings merged in order

Merging is a monoid in which the second one wins.  Of settings that are merged one after another,
each setting is what the last of them says that sets it, `get_mergeAll`, whatever they say of the
others.  The settings of a run are merged so, from the file, the environment and the command line:
`gather_eq_ok_iff`.
-/

namespace NamedExports

namespace PartialSettings

/-- Settings that set nothing change nothing. -/
theorem merge_empty (settings : PartialSettings) : settings.merge {} = settings :=
  eq_of_get fun setting => by rw [get_merge, get_empty, Option.none_or]

/-- Merging is associative, since the last one that sets a setting wins. -/
theorem merge_assoc (first second third : PartialSettings) :
    (first.merge second).merge third = first.merge (second.merge third) :=
  eq_of_get fun setting => by simp only [get_merge, Option.or_assoc]

/-- Merging settings with themselves changes nothing. -/
theorem merge_self (settings : PartialSettings) : settings.merge settings = settings :=
  eq_of_get fun setting => by rw [get_merge, Option.or_self]

/-- Settings merged in order, none at first. -/
def mergeAll (sources : List PartialSettings) : PartialSettings := sources.foldl merge {}

/-- Merging more settings behind others lets the last one that sets a setting win. -/
theorem get_foldl_merge (start : PartialSettings) (sources : List PartialSettings)
    (setting : Setting) :
    (sources.foldl merge start).get setting =
      (sources.filterMap (·.get setting)).getLast?.or (start.get setting) := by
  induction sources generalizing start with
  | nil => rfl
  | cons source rest ih =>
    rw [List.foldl_cons, ih, get_merge, List.filterMap_cons]
    cases hget : source.get setting with
    | none => rw [Option.none_or]
    | some value =>
      simp only [List.getLast?_cons, Option.some_or]
      cases (rest.filterMap (·.get setting)).getLast? <;> rfl

/-- Of several sources the last one that sets a setting wins. -/
theorem get_mergeAll (sources : List PartialSettings) (setting : Setting) :
    (mergeAll sources).get setting = (sources.filterMap (·.get setting)).getLast? := by
  rw [mergeAll, get_foldl_merge, get_empty, Option.or_none]

/-- Merging is a monoid in which the second one wins and repetitions do nothing.  Of settings merged
in order, each setting of the result is the last value that is set for it, or the default if none
is, whatever is set for the other settings. -/
theorem merge_last_wins (first second third : PartialSettings) (sources : List PartialSettings)
    (processors : Nat) :
    (({} : PartialSettings).merge first = first ∧ first.merge {} = first) ∧
      (first.merge second).merge third = first.merge (second.merge third) ∧
      first.merge first = first ∧
      ∀ setting : Setting, ((mergeAll sources).toSettings processors).get setting =
        (sources.filterMap (·.get setting)).getLast?.or
          ((Settings.standard processors).get setting) := by
  refine ⟨⟨empty_merge first, merge_empty first⟩, merge_assoc first second third,
    merge_self first, fun setting => ?_⟩
  rw [toSettings, get_orElse, get_mergeAll]

end PartialSettings

/-! ## The settings of a run -/

/-- A source that may fail adds what it would add to no settings. -/
theorem Source.tryAddTo_eq_merge (source : Source) (settings : PartialSettings) :
    source.tryAddTo settings = settings.merge (source.tryAddTo {}) := by
  rw [tryAddTo, tryAddTo, addTo, addTo]
  cases source.isAvailable with
  | false => exact (PartialSettings.merge_empty settings).symm
  | true =>
    cases source.load with
    | error failure => exact (PartialSettings.merge_empty settings).symm
    | ok found => exact congrArg settings.merge (PartialSettings.empty_merge found).symm

/-- The sources of a run are merged in the order of their precedence. -/
theorem Settings.gather_eq_ok_iff {host : Host} {group : String} {arguments : Arguments}
    {merged : PartialSettings} :
    gather host group arguments = .ok merged ↔ ∃ file, ofFile host arguments.config = .ok file ∧
      merged = .mergeAll [file, (Environment.source host group).tryAddTo {},
        arguments.settings] := by
  rw [gather]
  cases ofFile host arguments.config with
  | error failure => simp [bind, Except.bind]
  | ok file =>
    have hadd : arguments.source.addTo ((Environment.source host group).tryAddTo file) =
        .ok (.mergeAll [file, (Environment.source host group).tryAddTo {},
          arguments.settings]) := by
      rw [Source.tryAddTo_eq_merge, PartialSettings.mergeAll]
      simp only [List.foldl_cons, List.foldl_nil, PartialSettings.empty_merge]
      rfl
    simp only [bind, Except.bind, hadd, Except.ok.injEq, exists_eq_left', eq_comm]

end NamedExports
