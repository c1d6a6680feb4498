import GestureScript.Proofs.Capability.Answer
import GestureScript.Proofs.Pipeline.Script

/-!
# The capabilities at a pipeline

Whatever is done at a pipeline, its capabilities stay where they are and their gates only
make steps. So the calls that they were handed stay on record.
-/

set_option autoImplicit false

namespace GestureScript.Pipeline

variable {σ : Type}

/-- Some steps lead from each gate to what it is now, and new gates are new. -/
structure Evolves (p p' : Pipeline σ) : Prop where
  old : ∀ (i : Nat) cap, p.fleet[i]? = some cap →
    ∃ cap', p'.fleet[i]? = some cap' ∧ cap.gate.RunsTo cap'.gate
  new : ∀ (i : Nat) cap', p.fleet[i]? = none → p'.fleet[i]? = some cap' → cap'.gate.Reachable

theorem evolves_of_fleet_eq {p p' : Pipeline σ} (h : p'.fleet = p.fleet) : p.Evolves p' where
  old i cap hcap := ⟨cap, by rw [h, hcap], .refl cap.gate⟩
  new i cap' hnone hsome := by
    rw [h, hnone] at hsome
    cases hsome

theorem Evolves.trans {first second third : Pipeline σ} (h₁ : first.Evolves second)
    (h₂ : second.Evolves third) : first.Evolves third where
  old i cap hcap := by
    obtain ⟨cap₁, hcap₁, hruns₁⟩ := h₁.old i cap hcap
    obtain ⟨cap₂, hcap₂, hruns₂⟩ := h₂.old i cap₁ hcap₁
    exact ⟨cap₂, hcap₂, hruns₁.trans hruns₂⟩
  new i cap' hnone hsome := by
    cases hsecond : second.fleet[i]? with
    | none => exact h₂.new i cap' hsecond hsome
    | some cap =>
      obtain ⟨cap'', hcap'', hruns⟩ := h₂.old i cap hsecond
      obtain rfl : cap'' = cap' := Option.some.inj (hcap''.symm.trans hsome)
      exact (h₁.new i cap hnone hsecond).trans hruns

theorem Evolves.reachable {p p' : Pipeline σ} (h : p.Evolves p')
    (hp : ∀ cap ∈ p.fleet, cap.gate.Reachable) : ∀ cap ∈ p'.fleet, cap.gate.Reachable := by
  intro cap' hcap'
  obtain ⟨i, hi⟩ := List.mem_iff_getElem?.mp hcap'
  cases hold : p.fleet[i]? with
  | none => exact h.new i cap' hold hi
  | some cap =>
    obtain ⟨cap'', hcap'', hruns⟩ := h.old i cap hold
    obtain rfl : cap'' = cap' := Option.some.inj (hcap''.symm.trans hi)
    exact (hp cap (List.mem_of_getElem? hold)).trans hruns

theorem Evolves.length_le {p p' : Pipeline σ} (h : p.Evolves p') :
    p.fleet.length ≤ p'.fleet.length := by
  apply Nat.le_of_not_lt
  intro hlt
  obtain ⟨cap', hcap', _⟩ := h.old _ _ (List.getElem?_eq_getElem hlt)
  simp at hcap'

theorem evolves_set {p p' : Pipeline σ} {i : Nat} {before after : Capability σ Nat}
    (hfound : p.fleet[i]? = some before) (hruns : before.gate.RunsTo after.gate)
    (hfleet : p'.fleet = p.fleet.set i after) : p.Evolves p' := by
  obtain ⟨hlt, _⟩ := List.getElem?_eq_some_iff.mp hfound
  constructor
  · intro j cap hcap
    rw [hfleet]
    by_cases hij : i = j
    · subst hij
      obtain rfl : before = cap := Option.some.inj (hfound.symm.trans hcap)
      exact ⟨after, by simp [hlt], hruns⟩
    · exact ⟨cap, by rw [List.getElem?_set_ne hij, hcap], .refl cap.gate⟩
  · intro j cap' hnone hsome
    have hj := (List.getElem?_eq_some_iff.mp hsome).1
    rw [List.getElem?_eq_none_iff] at hnone
    rw [hfleet, List.length_set] at hj
    omega

@[simp] theorem fleet_settle (p : Pipeline σ) (n : Nat) (o : Outcome) :
    (p.settle n o).fleet = p.fleet := by
  unfold settle
  split
  · rfl
  · simp [keep]

theorem evolves_enlist (st : σ) (p : Pipeline σ) : p.Evolves (p.enlist { state := st }) where
  old i cap hcap := ⟨cap, Gate.Watched.getElem?_append_of_some hcap _, .refl cap.gate⟩
  new i cap' hnone hsome := by
    rw [List.getElem?_eq_none_iff] at hnone
    rw [enlist, List.getElem?_append_right hnone] at hsome
    obtain rfl := List.mem_singleton.mp (List.mem_of_getElem? hsome)
    exact .refl _

end GestureScript.Pipeline
