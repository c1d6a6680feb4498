import GestureScript.Proofs.Pipeline.Stand

/-!
# What clients do

A client dispatches a command as a whole, or a line, or a script with its pauses, and
attaches and stops capabilities. Each of these is a run of moves, so what holds after
every run of moves holds whatever clients do in between.
-/

set_option autoImplicit false

namespace GestureScript.Pipeline

variable {σ : Type}

inductive Use (σ : Type) where
  /-- Attach a new capability, or detach the one that is attached. -/
  | attach (st : Option σ)
  | dispatch (c : Command)
  | submitLine (line : String)
  | runCommands (stopOnFailure : Bool) (cs : List Command)
  | runScript (stopOnFailure : Bool) (script : String)
  | letGo (i : Nat)
  | letAllGo
  | shutDown

def Use.on (w : Worker σ) (p : Pipeline σ) : Use σ → Pipeline σ
  | .attach st => p.attach (st.map fun st => { state := st })
  | .dispatch c => p.dispatch w c
  | .submitLine line => (p.submitLine w line).2
  | .runCommands stopOnFailure cs => (p.runCommands w stopOnFailure cs).2
  | .runScript stopOnFailure script => (p.runScript w stopOnFailure script).2
  | .letGo i => p.letGo i
  | .letAllGo => p.letAllGo
  | .shutDown => p.shutDown

/-! ## The moves of a use -/

/-- The moves of a script: the halves of its dispatches, one right after the other, and its
pauses. -/
def scriptMoves (w : Worker σ) (stopOnFailure : Bool) :
    List Command → Pipeline σ → List (Move σ)
  | [], _ => []
  | c :: cs, p =>
    [.ask c, .handOver p.dispatches.length] ++
      match p.carryOut w c with
      | (.error _, _) => []
      | (.ok o, p) =>
        if stopOnFailure && o.isFailure || cs.isEmpty then []
        else
          .pause :: match p.pause with
            | (.error _, _) => []
            | (.ok (), p) => scriptMoves w stopOnFailure cs p

/-- The moves that a use is made of. A line that is no command is not handed over: there is no
dispatch with that number. -/
def Use.moves (w : Worker σ) (p : Pipeline σ) : Use σ → List (Move σ)
  | .attach none => [.attach none]
  | .attach (some st) => [.create st, .attach (some p.fleet.length)]
  | .dispatch c => [.ask c, .handOver p.dispatches.length]
  | .submitLine line => [.askLine line, .handOver p.dispatches.length]
  | .runCommands stopOnFailure cs => scriptMoves w stopOnFailure cs p
  | .runScript stopOnFailure script =>
    scriptMoves w stopOnFailure (Script.commands p.settings script) p
  | .letGo i => [.letGo i]
  | .letAllGo => (List.range p.fleet.length).map .letGo
  | .shutDown => [.shutDown]

theorem dispatch_of_none {w : Worker σ} {c : Command} {p : Pipeline σ}
    (h : ((p.addDispatch c).poll w).1 = none) :
    p.dispatch w c = ((p.addDispatch c).poll w).2.settle p.dispatches.length .notReady := by
  unfold dispatch
  dsimp only
  split
  next heq => rw [heq]
  next heq => simp [heq] at h

theorem dispatch_of_some {w : Worker σ} {c : Command} {p : Pipeline σ} {i : Nat}
    (h : ((p.addDispatch c).poll w).1 = some i) :
    p.dispatch w c = (((p.addDispatch c).poll w).2.emit (some p.dispatches.length)
      (.dispatched c)).handOver w i p.dispatches.length c := by
  unfold dispatch
  dsimp only
  split
  next heq => simp [heq] at h
  next j p heq =>
    obtain rfl : j = i := by simpa [heq] using h
    rw [heq]

theorem carryOut_snd (w : Worker σ) (c : Command) (p : Pipeline σ) :
    (p.carryOut w c).2 = p.dispatch w c := by
  unfold carryOut
  dsimp only
  split
  · rfl
  · split <;> rfl

/-- What every dispatch and every pause keeps, a script keeps. -/
theorem runCommands_keeps {w : Worker σ} {P : Pipeline σ → Prop}
    (hdispatch : ∀ c p, P p → P (p.dispatch w c)) (hpause : ∀ p, P p → P p.pause.2)
    (stopOnFailure : Bool) (cs : List Command) {p : Pipeline σ} (h : P p) :
    P (p.runCommands w stopOnFailure cs).2 := by
  induction cs generalizing p with
  | nil => exact h
  | cons c cs ih =>
    have hfirst := hdispatch c p h
    rw [← carryOut_snd] at hfirst
    rw [runCommands]
    generalize p.carryOut w c = carried at hfirst
    obtain ⟨answer, p⟩ := carried
    cases answer with
    | error f => exact hfirst
    | ok o =>
      dsimp only
      split
      · exact hfirst
      · have hpaused := hpause p hfirst
        generalize p.pause = paused at hpaused
        obtain ⟨made, p⟩ := paused
        cases made with
        | error f => exact hpaused
        | ok _ => exact ih hpaused

namespace Traffic

/-- The moves make that of the pipeline, while the dispatches that wait go on waiting. -/
def Makes (w : Worker σ) (t : Traffic σ) (moves : List (Move σ)) (p : Pipeline σ) : Prop :=
  (t.run w moves).pipeline = p ∧ (t.run w moves).waiting = t.waiting

variable {w : Worker σ} {t : Traffic σ}

theorem Makes.append {first second : List (Move σ)} {p p' : Pipeline σ} (h : Makes w t first p)
    (hnext : Makes w (t.run w first) second p') : Makes w t (first ++ second) p' := by
  rw [Makes, run_append]
  exact ⟨hnext.1, hnext.2.trans h.2⟩

/-- The two halves of a dispatch, with nothing in between. -/
theorem Orderly.makes_dispatch (h : t.Orderly) (w : Worker σ) (c : Command) :
    Makes w t [.ask c, .handOver t.pipeline.dispatches.length] (t.pipeline.dispatch w c) := by
  obtain ⟨hwaiting, _, _, _⟩ := h.toCome
  have hpoll := keeps_poll t.pipeline.dispatches.length w (t.pipeline.addDispatch c)
  have hdispatch := hpoll.dispatch.trans List.getElem?_concat_length
  rw [Makes, run_cons, run_cons, run_nil, Traffic.step, Traffic.step]
  cases hready : ((t.pipeline.addDispatch c).poll w).1 with
  | none =>
    rw [ask_of_none hready, handOver, dispatch_of_none hready]
    dsimp only
    rw [hwaiting]
    exact ⟨rfl, rfl⟩
  | some i =>
    rw [ask_of_some hready, handOver, dispatch_of_some hready]
    dsimp only
    rw [Function.update_self, dispatches_emit, hdispatch]
    refine ⟨rfl, ?_⟩
    dsimp only
    rw [Function.update_idem, ← hwaiting, Function.update_eq_self]

theorem Orderly.makes_submitLine (h : t.Orderly) (w : Worker σ) (line : String) :
    Makes w t [.askLine line, .handOver t.pipeline.dispatches.length]
      (t.pipeline.submitLine w line).2 := by
  obtain ⟨hwaiting, _, _, _⟩ := h.toCome
  unfold submitLine
  cases hread : Command.ofLine? t.pipeline.settings line.toList with
  | some c =>
    have hask : t.step w (.askLine line) = t.step w (.ask c) := by
      simp only [Traffic.step, askLine, hread]
    rw [Makes, run_cons, hask, ← run_cons]
    exact h.makes_dispatch w c
  | none =>
    have hstep : t.run w [.askLine line, .handOver t.pipeline.dispatches.length] =
        { t with pipeline := t.pipeline.emit none (.notUnderstood line) } := by
      rw [run_cons, run_cons, run_nil, Traffic.step, askLine, hread, Traffic.step, handOver]
      dsimp only
      rw [hwaiting]
    rw [Makes, hstep]
    exact ⟨rfl, rfl⟩

theorem makes_attach (w : Worker σ) (t : Traffic σ) (st : Option σ) :
    Makes w t ((Use.attach st).moves w t.pipeline)
      (t.pipeline.attach (st.map fun st => { state := st })) := by
  cases st with
  | none => exact ⟨rfl, rfl⟩
  | some st => exact ⟨by simp [Use.moves, step, reattach, enlist, Pipeline.attach], rfl⟩

theorem makes_letAllGo (w : Worker σ) (t : Traffic σ) :
    Makes w t ((List.range t.pipeline.fleet.length).map .letGo) t.pipeline.letAllGo := by
  rw [letAllGo]
  generalize List.range _ = slots
  induction slots generalizing t with
  | nil => exact ⟨rfl, rfl⟩
  | cons i slots ih =>
    obtain ⟨hpipeline, hwaiting⟩ := ih (t.step w (.letGo i))
    exact ⟨hpipeline, hwaiting⟩

/-- A script is its dispatches with the pauses that it makes. -/
theorem Orderly.makes_runCommands (h : t.Orderly) (w : Worker σ) (stopOnFailure : Bool)
    (cs : List Command) : Makes w t (scriptMoves w stopOnFailure cs t.pipeline)
      (t.pipeline.runCommands w stopOnFailure cs).2 := by
  induction cs generalizing t with
  | nil => exact ⟨rfl, rfl⟩
  | cons c cs ih =>
    have hdispatch := h.makes_dispatch w c
    have hcalled := h.run w [.ask c, .handOver t.pipeline.dispatches.length]
    rw [← carryOut_snd] at hdispatch
    rw [scriptMoves, runCommands]
    generalize t.pipeline.carryOut w c = carried at hdispatch
    obtain ⟨answer, p⟩ := carried
    cases answer with
    | error f => exact hdispatch.append ⟨hdispatch.1, rfl⟩
    | ok o =>
      refine hdispatch.append ?_
      obtain ⟨rfl, _⟩ := hdispatch
      generalize t.run w [.ask c, .handOver t.pipeline.dispatches.length] = called at hcalled
      dsimp only
      split
      · exact ⟨rfl, rfl⟩
      · have hpaused : Makes w called [.pause] called.pipeline.pause.2 := ⟨rfl, rfl⟩
        have hrest : Makes w (called.run w [.pause])
            (scriptMoves w stopOnFailure cs called.pipeline.pause.2)
            (called.pipeline.pause.2.runCommands w stopOnFailure cs).2 :=
          ih (hcalled.step w .pause)
        generalize called.pipeline.pause = paused at hpaused hrest
        obtain ⟨made, p⟩ := paused
        cases made with
        | error f => exact hpaused
        | ok _ => exact hpaused.append hrest

/-- Whatever a client does is a run of moves. -/
theorem Orderly.makes (h : t.Orderly) (w : Worker σ) (use : Use σ) :
    Makes w t (use.moves w t.pipeline) (use.on w t.pipeline) := by
  cases use with
  | attach st => exact makes_attach w t st
  | dispatch c => exact h.makes_dispatch w c
  | submitLine line => exact h.makes_submitLine w line
  | runCommands stopOnFailure cs => exact h.makes_runCommands w stopOnFailure cs
  | runScript stopOnFailure script => exact h.makes_runCommands w stopOnFailure _
  | letGo i => exact ⟨rfl, rfl⟩
  | letAllGo => exact makes_letAllGo w t
  | shutDown => exact ⟨rfl, rfl⟩

end Traffic

end GestureScript.Pipeline
