import GestureScript.Proofs.Capability.Closed
import GestureScript.Proofs.Monitor.Log
import GestureScript.Proofs.Pipeline.Protocol

/-!
# Pipelines with one capability

As long as nothing is attached, a pipeline keeps its capabilities where they are, and each
keeps every property that lasts. A pipeline whose capability is never replaced has no other,
so shutting it down closes all that it has.
-/

set_option autoImplicit false

namespace GestureScript.Pipeline

variable {σ : Type} {w : Worker σ} {P : Capability σ Nat → Prop} {p p' : Pipeline σ}

/-- Does it attach or detach a capability? -/
def Move.attaches : Move σ → Bool
  | .create _ | .attach _ => true
  | _ => false

def Use.attaches : Use σ → Bool
  | .attach _ => true
  | _ => false

/-- What it has the monitor see. -/
def Move.sightings : Move σ → List Sighting
  | .shutDown => [.reset]
  | _ => []

def Use.sightings : Use σ → List Sighting
  | .shutDown => [.reset]
  | _ => []

/-! ## The capabilities stay -/

/-- The capabilities are the same, and have the property if they had it before. The monitor
saw what the log has. -/
structure Retains (P : Capability σ Nat → Prop) (log : List Sighting) (p p' : Pipeline σ) :
    Prop where
  attached : p'.attached = p.attached
  length_eq : p'.fleet.length = p.fleet.length
  keeps : (∀ cap ∈ p.fleet, P cap) → ∀ cap ∈ p'.fleet, P cap
  monitor : p'.monitor = p.monitor.replay log

theorem retains_of_eq (hattached : p'.attached = p.attached) (hfleet : p'.fleet = p.fleet)
    (hmonitor : p'.monitor = p.monitor) : Retains P [] p p' :=
  ⟨hattached, by rw [hfleet], by rw [hfleet]; exact id, hmonitor⟩

theorem Retains.refl (p : Pipeline σ) : Retains P [] p p := retains_of_eq rfl rfl rfl

theorem Retains.trans {first second third : Pipeline σ} {log more : List Sighting}
    (h₁ : Retains P log first second) (h₂ : Retains P more second third) :
    Retains P (log ++ more) first third :=
  ⟨h₂.attached.trans h₁.attached, h₂.length_eq.trans h₁.length_eq, h₂.keeps ∘ h₁.keeps,
    by rw [h₂.monitor, h₁.monitor, Monitor.replay_append]⟩

theorem retains_replace {i : Nat} {before after : Capability σ Nat}
    (hfound : p.fleet[i]? = some before) (hP : P before → P after) :
    Retains P [] p (p.replace i after) where
  attached := rfl
  length_eq := List.length_set
  keeps h cap hcap := by
    rcases List.mem_or_eq_of_mem_set hcap with hold | rfl
    · exact h cap hold
    · exact hP (h before (List.mem_of_getElem? hfound))
  monitor := rfl

theorem retains_emit (p : Pipeline σ) (n : Option Nat) (s : Status) :
    Retains P [] p (p.emit n s) := by
  rw [emit_eq]
  exact retains_of_eq rfl rfl rfl

theorem settle_place (p : Pipeline σ) (n : Nat) (o : Outcome) :
    (p.settle n o).attached = p.attached ∧ (p.settle n o).fleet = p.fleet ∧
      (p.settle n o).monitor = p.monitor := by
  cases hd : p.dispatches[n]? with
  | none =>
    rw [settle, hd]
    exact ⟨rfl, rfl, rfl⟩
  | some d =>
    rw [settle_eq hd]
    exact ⟨rfl, rfl, rfl⟩

theorem retains_settle (p : Pipeline σ) (n : Nat) (o : Outcome) :
    Retains P [] p (p.settle n o) := by
  obtain ⟨hattached, hfleet, hmonitor⟩ := p.settle_place n o
  exact retains_of_eq hattached hfleet hmonitor

/-- What a gate delivered changes nothing about the capabilities. -/
theorem foldl_settle_place (reports : List (Nat × Outcome)) (p : Pipeline σ) :
    let p' := reports.foldl (fun p (n, o) => p.settle n o) p
    p'.attached = p.attached ∧ p'.fleet = p.fleet ∧ p'.monitor = p.monitor := by
  induction reports generalizing p with
  | nil => exact ⟨rfl, rfl, rfl⟩
  | cons r reports ih =>
    obtain ⟨hattached, hfleet, hmonitor⟩ := p.settle_place r.1 r.2
    obtain ⟨hattached', hfleet', hmonitor'⟩ := ih (p.settle r.1 r.2)
    exact ⟨hattached'.trans hattached, hfleet'.trans hfleet, hmonitor'.trans hmonitor⟩

theorem advance_place (p : Pipeline σ) (i : Nat) (before after : Capability σ Nat) :
    (p.advance i before after).attached = p.attached ∧
      (p.advance i before after).fleet = p.fleet.set i after ∧
      (p.advance i before after).monitor = p.monitor :=
  foldl_settle_place _ (p.replace i after)

theorem retains_advance {i : Nat} {before after : Capability σ Nat}
    (hfound : p.fleet[i]? = some before) (hP : P before → P after) :
    Retains P [] p (p.advance i before after) := by
  obtain ⟨hattached, hfleet, hmonitor⟩ := p.advance_place i before after
  exact (retains_replace hfound hP).trans (retains_of_eq hattached hfleet hmonitor)

theorem retains_recordCalls (calls : List DeviceCall) (p : Pipeline σ) :
    Retains P [] p (p.recordCalls calls) := retains_of_eq rfl rfl rfl

theorem retains_addDispatch (c : Command) (p : Pipeline σ) : Retains P [] p (p.addDispatch c) :=
  retains_of_eq rfl rfl rfl

theorem retains_pause (p : Pipeline σ) : Retains P [] p p.pause.2 := by
  obtain ⟨more, hpause, _⟩ := p.exists_pause
  rw [hpause]
  exact retains_of_eq rfl rfl rfl

section

variable (hP : Capability.Lasting w P)
include hP

theorem retains_poll (p : Pipeline σ) : Retains P [] p (p.poll w).2 := by
  unfold poll
  split
  · exact .refl p
  · split
    · exact .refl p
    next hfound => exact retains_replace hfound hP.poll

theorem retains_handOver (i n : Nat) (c : Command) (p : Pipeline σ) :
    Retains P [] p (p.handOver w i n c) := by
  unfold handOver
  split
  · exact .refl p
  next before hfound =>
    have hmark : Retains P [] p (p.markHandedOver n) := retains_of_eq rfl rfl rfl
    exact (hmark.trans (retains_recordCalls _ _)).trans
      (retains_advance hfound fun h => hP.submit h _ _)

theorem retains_callAside (i : Nat) (s : Submission) (p : Pipeline σ) :
    Retains P [] p (p.callAside w i s) := by
  unfold callAside
  split
  · exact .refl p
  next before hfound =>
    exact (retains_recordCalls _ _).trans (retains_advance hfound fun h => hP.submit h _ _)

theorem retains_letGo (p : Pipeline σ) (i : Nat) : Retains P [] p (p.letGo i) := by
  unfold letGo
  split
  · exact .refl p
  next hfound => exact retains_advance hfound hP.letGo

theorem retains_letAllGo (p : Pipeline σ) : Retains P [] p p.letAllGo := by
  rw [letAllGo]
  generalize List.range _ = slots
  induction slots generalizing p with
  | nil => exact .refl p
  | cons i slots ih => exact (retains_letGo hP p i).trans (ih _)

theorem retains_stop (i : Nat) (p : Pipeline σ) : Retains P [] p (p.stop i) := by
  unfold stop
  split
  · exact .refl p
  next hfound => exact retains_advance hfound hP.shutDown

theorem retains_shutDown (p : Pipeline σ) : Retains P [.reset] p p.shutDown := by
  have reset (q : Pipeline σ) : Retains P [.reset] q { q with monitor := q.monitor.reset } :=
    ⟨rfl, rfl, id, rfl⟩
  rw [shutDown_eq]
  cases p.attached with
  | none => exact reset p
  | some i => exact (retains_stop hP i p).trans (reset _)

theorem retains_alter (i : Nat) (st : σ) (ending : Ending) (p : Pipeline σ) :
    Retains P [] p (p.alter i st ending) := by
  unfold alter
  split
  · exact .refl p
  next hfound => exact retains_replace hfound fun h => hP.alter h st ending

theorem retains_dispatch (c : Command) (p : Pipeline σ) : Retains P [] p (p.dispatch w c) := by
  have hpoll := (retains_addDispatch c p).trans (retains_poll hP (p.addDispatch c))
  cases hready : ((p.addDispatch c).poll w).1 with
  | none =>
    rw [dispatch_of_none hready]
    exact hpoll.trans (retains_settle _ _ _)
  | some i =>
    rw [dispatch_of_some hready]
    exact (hpoll.trans (retains_emit _ _ _)).trans (retains_handOver hP _ _ _ _)

theorem retains_submitLine (line : String) (p : Pipeline σ) :
    Retains P [] p (p.submitLine w line).2 := by
  unfold submitLine
  split
  · exact retains_dispatch hP _ p
  · exact retains_emit p _ _

theorem retains_runCommands (stopOnFailure : Bool) (cs : List Command) (p : Pipeline σ) :
    Retains P [] p (p.runCommands w stopOnFailure cs).2 :=
  runCommands_keeps (fun c _ h => h.trans (retains_dispatch hP c _))
    (fun _ h => h.trans (retains_pause _)) stopOnFailure cs (.refl p)

/-- What a client does keeps the capabilities, unless it attaches one. -/
theorem retains_use {use : Use σ} (h : use.attaches = false) (p : Pipeline σ) :
    Retains P use.sightings p (use.on w p) := by
  cases use with
  | attach st => simp [Use.attaches] at h
  | dispatch c => exact retains_dispatch hP c p
  | submitLine line => exact retains_submitLine hP line p
  | runCommands stopOnFailure cs => exact retains_runCommands hP stopOnFailure cs p
  | runScript stopOnFailure script => exact retains_runCommands hP stopOnFailure _ p
  | letGo i => exact retains_letGo hP p i
  | letAllGo => exact retains_letAllGo hP p
  | shutDown => exact retains_shutDown hP p

theorem Traffic.retains_step {m : Move σ} (h : m.attaches = false) (t : Traffic σ) :
    Retains P m.sightings t.pipeline (t.step w m).pipeline := by
  have asked (c : Command) : Retains P [] t.pipeline (t.ask w c).pipeline := by
    have hpoll := (retains_addDispatch c t.pipeline).trans
      (retains_poll hP (t.pipeline.addDispatch c))
    cases hready : ((t.pipeline.addDispatch c).poll w).1 with
    | none =>
      rw [ask_of_none hready]
      exact hpoll.trans (retains_settle _ _ _)
    | some i =>
      rw [ask_of_some hready]
      exact hpoll.trans (retains_emit _ _ _)
  cases m with
  | create st => simp [Move.attaches] at h
  | attach i => simp [Move.attaches] at h
  | ask c => exact asked c
  | askLine line =>
    rw [step, askLine]
    split
    · exact asked _
    · exact retains_emit _ _ _
  | handOver n =>
    rw [step, handOver]
    split
    · exact retains_handOver hP _ _ _ _
    · exact .refl _
  | callAside i s => exact retains_callAside hP i s _
  | alter i st ending => exact retains_alter hP i st ending _
  | letGo i => exact retains_letGo hP _ i
  | stop i => exact retains_stop hP i _
  | shutDown => exact retains_shutDown hP _
  | pause => exact retains_pause _

end

/-! ## The life of a pipeline -/

/-- Something that happens at a pipeline or at its monitor. -/
inductive Happening (σ : Type) where
  | move (m : Move σ)
  | see (s : Sighting)

namespace Happening

def attaches : Happening σ → Bool
  | .move m => m.attaches
  | .see _ => false

def sightings : Happening σ → List Sighting
  | .move m => m.sightings
  | .see s => [s]

end Happening

def see (s : Sighting) (p : Pipeline σ) : Pipeline σ := { p with monitor := p.monitor.see s }

theorem keeps_see (n : Nat) (s : Sighting) (p : Pipeline σ) : p.Keeps n (p.see s) :=
  ⟨rfl, rfl, rfl, rfl⟩

theorem retains_see (s : Sighting) (p : Pipeline σ) : Retains P [s] p (p.see s) :=
  ⟨rfl, rfl, id, rfl⟩

namespace Traffic

def happen (w : Worker σ) (t : Traffic σ) : Happening σ → Traffic σ
  | .move m => t.step w m
  | .see s => { t with pipeline := t.pipeline.see s }

def live (w : Worker σ) (t : Traffic σ) (happenings : List (Happening σ)) : Traffic σ :=
  happenings.foldl (happen w) t

/-- Attach a new capability, if there is to be one. -/
def equip (rig : Option σ) (t : Traffic σ) : Traffic σ :=
  { t with pipeline := t.pipeline.attach (rig.map fun st => { state := st }) }

variable {t : Traffic σ}

theorem Orderly.see (h : t.Orderly) (s : Sighting) :
    Orderly { t with pipeline := t.pipeline.see s } where
  reachable := h.reachable
  waiting := h.waiting
  stands n := (goes_of_keeps (keeps_see n s _)).stands (h.stands n)

theorem Orderly.live (h : t.Orderly) (w : Worker σ) (happenings : List (Happening σ)) :
    (t.live w happenings).Orderly := by
  induction happenings generalizing t with
  | nil => exact h
  | cons x happenings ih =>
    cases x with
    | move m => exact ih (h.step w m)
    | see s => exact ih (h.see s)

theorem Orderly.equip (h : t.Orderly) (w : Worker σ) (rig : Option σ) :
    (t.equip rig).Orderly := by
  cases rig with
  | none => exact h.step w (.attach none)
  | some st =>
    have hrun : t.equip (some st) =
        t.run w [.create st, .attach (some t.pipeline.fleet.length)] := by
      simp [Traffic.equip, Traffic.step, reattach, enlist, Pipeline.attach, Option.filter]
    rw [hrun]
    exact h.run w _

theorem retains_live (hP : Capability.Lasting w P) {happenings : List (Happening σ)}
    (h : ∀ x ∈ happenings, x.attaches = false) (t : Traffic σ) :
    Retains P (happenings.flatMap Happening.sightings) t.pipeline
      (t.live w happenings).pipeline := by
  induction happenings generalizing t with
  | nil => exact .refl _
  | cons x happenings ih =>
    obtain ⟨hx, hrest⟩ := List.forall_mem_cons.mp h
    cases x with
    | move m => exact (retains_step hP hx t).trans (ih hrest _)
    | see s => exact (retains_see s t.pipeline).trans (ih hrest (t.happen w (.see s)))

theorem setup_live (w : Worker σ) (t : Traffic σ) (happenings : List (Happening σ)) :
    (t.live w happenings).pipeline.setup = t.pipeline.setup := by
  induction happenings generalizing t with
  | nil => rfl
  | cons x happenings ih =>
    cases x with
    | move m => exact (ih _).trans (setup_step w t m)
    | see s => exact ih _

end Traffic

/-! ## One capability -/

/-- If there is a capability, it is the only one, and it is attached. -/
def Sole (p : Pipeline σ) : Prop :=
  ∀ (i : Nat) cap, p.fleet[i]? = some cap → i = 0 ∧ p.attached = some 0

theorem Sole.retains {log : List Sighting} (h : p.Sole) (hretains : Retains P log p p') :
    p'.Sole := by
  intro i cap hcap
  have hlt : i < p.fleet.length := by
    rw [← hretains.length_eq]
    exact (List.getElem?_eq_some_iff.mp hcap).1
  rw [hretains.attached]
  exact h i _ (List.getElem?_eq_getElem hlt)

theorem shutDown_of_attached {i : Nat} {cap : Capability σ Nat} (hattached : p.attached = some i)
    (hfound : p.fleet[i]? = some cap) : p.shutDown.fleet = p.fleet.set i cap.shutDown := by
  rw [shutDown_eq, hattached, Option.elim_some, stop, hfound]
  exact (p.advance_place i cap cap.shutDown).2.1

/-- Shutting down closes the only capability. -/
theorem Sole.closed_shutDown (h : p.Sole) (horderly : ∀ cap ∈ p.fleet, cap.Orderly)
    (w : Worker σ) : ∀ cap ∈ p.shutDown.fleet, cap.Closed := by
  have hretains := retains_shutDown (Capability.lasting_orderly w) p
  intro cap hcap
  obtain ⟨i, hi⟩ := List.mem_iff_getElem?.mp hcap
  -- whatever is there afterwards is the capability that was stopped
  obtain ⟨rfl, hattached⟩ := h.retains hretains i cap hi
  rw [hretains.attached] at hattached
  cases hfound : p.fleet[0]? with
  | none =>
    have hempty := hretains.length_eq
    simp_all
  | some before =>
    rw [shutDown_of_attached hattached hfound, List.getElem?_set_self] at hi
    · obtain rfl := Option.some.inj hi
      exact (horderly before (List.mem_of_getElem? hfound)).shutDown
    · exact (List.getElem?_eq_some_iff.mp hfound).1

namespace Traffic

/-- A pipeline at which nothing was attached, or one capability that is still there. -/
structure Single (settings : Settings) (monitor : Monitor) (sink : Sink)
    (pauseFault? : Binary64 → Option Fault) (t : Traffic σ) : Prop where
  orderly : t.Orderly
  setup : t.pipeline.setup = (settings, sink, pauseFault?)
  capacity : t.pipeline.monitor.capacity = monitor.capacity
  sole : t.pipeline.Sole
  capabilities : ∀ cap ∈ t.pipeline.fleet, cap.Orderly

variable {settings : Settings} {monitor : Monitor} {sink : Sink}
  {pauseFault? : Binary64 → Option Fault} {t : Traffic σ}

theorem Single.live (h : Single settings monitor sink pauseFault? t) (w : Worker σ)
    {happenings : List (Happening σ)} (hkept : ∀ x ∈ happenings, x.attaches = false) :
    Single settings monitor sink pauseFault? (t.live w happenings) := by
  have hretains := retains_live (Capability.lasting_orderly w) hkept t
  refine ⟨h.orderly.live w happenings, (setup_live w t happenings).trans h.setup, ?_,
    h.sole.retains hretains, hretains.keeps h.capabilities⟩
  rw [hretains.monitor, Monitor.capacity_replay, h.capacity]

theorem single_new : Single settings monitor sink pauseFault?
    (new settings monitor sink pauseFault? : Traffic σ) where
  orderly := orderly_new settings monitor sink pauseFault?
  setup := rfl
  capacity := rfl
  sole := by simp [Sole, new]
  capabilities := by simp [new]

theorem Single.equip (h : Single settings monitor sink pauseFault? t) (w : Worker σ)
    (hbare : t.pipeline.fleet = []) (rig : Option σ) :
    Single settings monitor sink pauseFault? (t.equip rig) := by
  cases rig with
  | none =>
    refine ⟨h.orderly.equip w none, h.setup, h.capacity, ?_, ?_⟩
    · simp [Sole, Traffic.equip, Pipeline.attach, hbare]
    · simp [Traffic.equip, Pipeline.attach, hbare]
  | some st =>
    refine ⟨h.orderly.equip w (some st), h.setup, h.capacity, ?_, ?_⟩
    · intro i cap hcap
      have hlt := (List.getElem?_eq_some_iff.mp hcap).1
      simp only [Traffic.equip, Option.map_some, Pipeline.attach, enlist, hbare, List.nil_append,
        List.length_singleton, List.length_nil] at hlt ⊢
      exact ⟨by omega, trivial⟩
    · simp [Traffic.equip, Pipeline.attach, enlist, hbare, Capability.orderly_new]

/-- Whatever happens before and after a capability is attached, for the first time and for good. -/
theorem single_live (w : Worker σ) {early before : List (Happening σ)}
    (hkept : ∀ x ∈ early ++ before, x.attaches = false) (rig : Option σ) :
    Single settings monitor sink pauseFault?
      ((((new settings monitor sink pauseFault?).live w early).equip rig).live w before) := by
  obtain ⟨hearly, hbefore⟩ := List.forall_mem_append.mp hkept
  have hbare := (retains_live (Capability.lasting_orderly w) hearly
    (new settings monitor sink pauseFault?)).length_eq
  have hstart := (single_new.live w hearly).equip w (List.eq_nil_of_length_eq_zero hbare) rig
  exact hstart.live w hbefore

end Traffic

end GestureScript.Pipeline
