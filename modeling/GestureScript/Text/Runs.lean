/-!
# Tables of runs

A table says for each run of numbers what its members are. It holds the starts of
the runs in ascending order, the first of them zero; a run ends where the next one
starts.
-/

set_option autoImplicit false

namespace GestureScript.Text

abbrev Runs (α : Type) := Array (Nat × α)

namespace Runs

variable {α : Type}

/-- The index of the run of a number, when it is not before `low` and before `high`. -/
def indexOf (runs : Runs α) (n low high : Nat) : Nat :=
  if low + 1 < high then
    let middle := (low + high) / 2
    if runs[middle]?.any (·.1 ≤ n) then indexOf runs n middle high else indexOf runs n low middle
  else low
termination_by high - low

def find? (runs : Runs α) (n : Nat) : Option α :=
  (runs[indexOf runs n 0 runs.size]?).map (·.2)

/-- The index is one of those asked for. -/
theorem indexOf_lt (runs : Runs α) (n low high : Nat) (h : low < high) :
    low ≤ indexOf runs n low high ∧ indexOf runs n low high < high := by
  fun_induction indexOf runs n low high with
  | case1 low high _ middle _ ih => have := ih (by omega); omega
  | case2 low high _ middle _ ih => have := ih (by omega); omega
  | case3 => omega

/-- A table with runs says something of every number. -/
theorem find?_isSome (runs : Runs α) (n : Nat) (h : 0 < runs.size) : (runs.find? n).isSome := by
  simp [find?, (indexOf_lt runs n 0 runs.size h).2]

end Runs

end GestureScript.Text
