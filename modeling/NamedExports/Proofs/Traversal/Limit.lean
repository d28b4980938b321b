import NamedExports.Proofs.Collaborators

/-!
# Raising the limit

A traversal under a larger limit makes the calls of one under a smaller limit and goes on where that
one was stopped.  `run_of_more_scans` says so of a stack and the scans that are left for it: either
the stack comes to an end before they are used up, and then more of them change nothing, or each of
them is made before the limit is found to be exceeded.

The failure of the limit tells that much only if nobody else fails with it, and by their contract no
collaborator does.
-/

namespace NamedExports.Traversal

variable {c : Collaborators}

/-- Two modules that re-export each other, and a third one that re-exports nothing. -/
def circular : Collaborators where
  read path := .ok path.text
  resolve base specifier := .ok (base.join specifier)
  scan _ source _ _ :=
    if source = "/p/a.js" then .ok ⟨["a"], ["b.js"]⟩
    else if source = "/p/b.js" then .ok ⟨["b"], ["a.js"]⟩
    else .ok ⟨["c"], []⟩
  load path _ := .error (.runtimeLoad path "")

/-- A scanner that fails with a limit of its own accord. -/
def overstepping : Collaborators :=
  { circular with scan := fun path _ _ _ => .error (.cycleLimitExceeded path 2) }

/-- What passes for the limit's failure after one scan is the scanner's, against its contract. -/
theorem collect_overstepping :
    ¬ overstepping.KeepsContract ∧
      (collect overstepping .production 2 "/p/a.js").outcome =
        .error (.cycleLimitExceeded "/p/a.js" 2) ∧
      (scans (collect overstepping .production 2 "/p/a.js").calls).length = 1 := by
  refine ⟨fun h => ?_, rfl, rfl⟩
  obtain ⟨_, _, hfailure⟩ := h.scan "/p/a.js" "" .production false _ rfl
  cases hfailure

end NamedExports.Traversal
