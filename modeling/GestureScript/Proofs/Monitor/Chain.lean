import GestureScript.Proofs.Monitor.History
import Mathlib.Data.List.Destutter

/-!
# Transitions form a chain

Between two resets the applications in the foreground follow each other, and each
change is one link of a chain: it leads from the application before it to the next.
Whoever listens to transitions is told every link once and in order.
-/

set_option autoImplicit false

namespace GestureScript

def Sighting.arrival? : Sighting → Option (Int × Package)
  | .foreground now p _ => some (now, p)
  | _ => none

/-- When each package was sighted. -/
def arrivals (log : List Sighting) : List (Int × Package) := log.filterMap Sighting.arrival?

/-- The arrivals without those that repeat the package before them. -/
def changes (log : List Sighting) : List (Int × Package) :=
  (arrivals log).destutter fun a b => a.2 ≠ b.2

/-- Transitions from one arrival to the next. -/
def links (previous : Option Package) : List (Int × Package) → List Transition
  | [] => []
  | (now, p) :: rest => ⟨previous.map Package.name, p.name, now⟩ :: links (some p) rest

/-- A part of a log lies between two resets. -/
def parts (log : List Sighting) : List (List Sighting) := log.splitOnP Sighting.isReset

/-- The links of all parts of a log, each part with a chain of its own. -/
def chain (log : List Sighting) : List Transition :=
  (parts log).flatMap fun part => links none (changes part)

/-! ## What a chain is like -/

theorem current_links (previous : Option Package) (as : List (Int × Package)) :
    (links previous as).map (fun t => (t.timestamp, t.current)) =
      as.map fun (now, p) => (now, p.name) := by
  induction as generalizing previous with
  | nil => rfl
  | cons a as ih => simp [links, ih]

theorem isChain_links (previous : Option Package) (as : List (Int × Package)) :
    (links previous as).IsChain fun a b => b.previous = some a.current := by
  induction as generalizing previous with
  | nil => exact .nil
  | cons a as ih =>
    obtain ⟨now, p⟩ := a
    rw [links, List.isChain_cons]
    refine ⟨?_, ih (some p)⟩
    intro t ht
    cases as with
    | nil => cases ht
    | cons b bs =>
      obtain rfl := Option.some.inj ht
      rfl

/-- Links lead to another name if no arrival repeats the name before it. -/
theorem previous_ne_of_mem_links {previous : Option Package} {as : List (Int × Package)}
    (hfirst : ∀ a ∈ as.head?, previous.map Package.name ≠ some a.2.name)
    (has : as.IsChain fun a b => a.2.name ≠ b.2.name) :
    ∀ t ∈ links previous as, t.previous ≠ some t.current := by
  induction as generalizing previous with
  | nil => simp [links]
  | cons a as ih =>
    obtain ⟨now, p⟩ := a
    rw [List.isChain_cons] at has
    intro t ht
    rcases List.mem_cons.mp ht with rfl | ht
    · exact hfirst (now, p) rfl
    · refine ih ?_ has.2 t ht
      intro b hb heq
      exact has.1 b hb (Option.some.inj heq)

/-- A package arrived if its arrival is among the changes. -/
theorem mem_packages_of_mem_changes {log : List Sighting} {a : Int × Package}
    (h : a ∈ changes log) : a.2 ∈ packages log := by
  have harrival := (List.destutter_sublist _ _).mem h
  obtain ⟨s, hs, ha⟩ := List.mem_filterMap.mp harrival
  refine List.mem_filterMap.mpr ⟨s, hs, ?_⟩
  cases s with
  | foreground now p named =>
    obtain rfl := Option.some.inj ha
    rfl
  | snapshot | reset => cases ha

/-- Changes do not repeat a name, if different packages have different names. -/
theorem isChain_changes {log : List Sighting}
    (h : ∀ p ∈ packages log, ∀ q ∈ packages log, p.name = q.name → p = q) :
    (changes log).IsChain fun a b => a.2.name ≠ b.2.name := by
  have hchain : (changes log).IsChain fun a b => a.2 ≠ b.2 := List.isChain_destutter _ _
  apply hchain.imp_of_mem_imp
  intro a b ha hb hne hname
  exact hne (h a.2 (mem_packages_of_mem_changes ha) b.2 (mem_packages_of_mem_changes hb) hname)

/-! ## A chain link by link -/

/-- The transitions that a log makes after a package. -/
def follow (previous : Option Package) : List Sighting → List Transition
  | [] => []
  | .reset :: log => follow none log
  | .snapshot _ :: log => follow previous log
  | .foreground now p _ :: log =>
    if previous = some p then follow previous log
    else ⟨previous.map Package.name, p.name, now⟩ :: follow (some p) log

theorem destutter'_eq_cons {α : Type} (R : α → α → Prop) [DecidableRel R] (a : α) (as : List α) :
    as.destutter' R a = a :: (as.destutter' R a).tail := by
  induction as generalizing a with
  | nil => rfl
  | cons b as ih =>
    by_cases h : R a b
    · rw [List.destutter'_cons_pos _ h, List.tail_cons]
    · rw [List.destutter'_cons_neg _ h, ← ih]

/-- The arrivals that change the package, after a package or at the start. -/
def changesAfter : Option Package → List (Int × Package) → List (Int × Package)
  | none, as => as.destutter fun a b => a.2 ≠ b.2
  | some p, as => (as.destutter' (fun a b => a.2 ≠ b.2) (0, p)).tail

theorem tail_destutter' (t : Int) (p : Package) (as : List (Int × Package)) :
    (as.destutter' (fun a b => a.2 ≠ b.2) (t, p)).tail = changesAfter (some p) as := by
  induction as with
  | nil => rfl
  | cons b as ih =>
    by_cases h : p = b.2
    · rw [changesAfter, List.destutter'_cons_neg _ (by simpa using h),
        List.destutter'_cons_neg _ (by simpa using h)]
      exact ih
    · rw [changesAfter, List.destutter'_cons_pos _ (by simpa using h),
        List.destutter'_cons_pos _ (by simpa using h), List.tail_cons, List.tail_cons]

theorem changesAfter_same (p : Package) (now : Int) (as : List (Int × Package)) :
    changesAfter (some p) ((now, p) :: as) = changesAfter (some p) as := by
  rw [changesAfter, List.destutter'_cons_neg _ (by simp)]
  rfl

theorem changesAfter_other {previous : Option Package} {p : Package} (h : previous ≠ some p)
    (now : Int) (as : List (Int × Package)) :
    changesAfter previous ((now, p) :: as) = (now, p) :: changesAfter (some p) as := by
  cases previous with
  | none =>
    rw [changesAfter, List.destutter_cons', destutter'_eq_cons, tail_destutter']
  | some q =>
    have hq : q ≠ p := fun heq => h (congrArg some heq)
    rw [changesAfter, List.destutter'_cons_pos _ (by simpa using hq), List.tail_cons,
      destutter'_eq_cons, tail_destutter']

/-- The first part of a log goes on from a package; every later one starts anew. -/
theorem follow_eq_links {previous : Option Package} {log part : List Sighting}
    {rest : List (List Sighting)} (h : parts log = part :: rest) :
    follow previous log = links previous (changesAfter previous (arrivals part)) ++
      rest.flatMap fun part => links none (changes part) := by
  induction log generalizing previous part rest with
  | nil =>
    obtain ⟨rfl, rfl⟩ : [] = part ∧ [] = rest := by simpa [parts] using h
    cases previous <;> rfl
  | cons s log ih =>
    obtain ⟨first, others, hparts⟩ := List.exists_cons_of_ne_nil
      (List.splitOnP_ne_nil Sighting.isReset log)
    rw [parts, List.splitOnP_cons_eq_if_modifyHead, hparts] at h
    cases s with
    | reset =>
      obtain ⟨rfl, rfl⟩ : [] = part ∧ first :: others = rest := by simpa [Sighting.isReset] using h
      rw [follow, ih hparts]
      cases previous <;> rfl
    | snapshot s =>
      obtain ⟨rfl, rfl⟩ : .snapshot s :: first = part ∧ others = rest := by
        simpa [Sighting.isReset] using h
      rw [follow, ih hparts]
      rfl
    | foreground now p named =>
      obtain ⟨rfl, rfl⟩ : .foreground now p named :: first = part ∧ others = rest := by
        simpa [Sighting.isReset] using h
      have harrivals : arrivals (.foreground now p named :: first) =
          (now, p) :: arrivals first := rfl
      rw [follow, harrivals]
      by_cases hsame : previous = some p
      · rw [if_pos hsame, ih hparts, hsame, changesAfter_same]
      · rw [if_neg hsame, ih hparts, changesAfter_other hsame]
        rfl

theorem follow_none (log : List Sighting) : follow none log = chain log := by
  obtain ⟨part, rest, hparts⟩ := List.exists_cons_of_ne_nil
    (List.splitOnP_ne_nil Sighting.isReset log)
  have hchain : chain log = links none (changes part) ++
      rest.flatMap fun part => links none (changes part) := by
    rw [chain, parts, hparts, List.flatMap_cons]
  rw [hchain, follow_eq_links hparts]
  rfl

namespace Monitor

theorem follow_append (m : Monitor) (first second : List Sighting) :
    follow m.foreground (first ++ second) =
      follow m.foreground first ++ follow (m.replay first).foreground second := by
  induction first generalizing m with
  | nil => rfl
  | cons s first ih =>
    rw [List.cons_append, replay_cons]
    cases s with
    | reset => exact ih m.reset
    | snapshot s => exact ih (m.seeSnapshot (some s))
    | foreground now p named =>
      by_cases hsame : m.foreground = some p
      · rw [follow, if_pos hsame, follow, if_pos hsame, see, seeForeground_same hsame]
        exact ih m
      · have hsee : (m.seeForeground (.ok now) (some p)).1.foreground = some p := by
          rw [seeForeground_other named hsame]
        have hnext := ih (m.seeForeground (.ok now) (some p)).1
        rw [hsee] at hnext
        rw [follow, if_neg hsame, follow, if_neg hsame, hnext]
        rfl

end Monitor

end GestureScript
