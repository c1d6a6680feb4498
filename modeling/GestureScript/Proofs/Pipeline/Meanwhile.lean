import GestureScript.Proofs.Pipeline.Client

/-!
# Scripts while others go on

A capability has a life of its own while a script is run: its state changes, and a
performance that the script waits for or gave up on ends at one moment or another. What
happens at a moment depends on the state alone. `runCommands` of a pipeline is the run in
which nothing does.
-/

set_option autoImplicit false

namespace GestureScript.Pipeline

variable {σ : Type}

/-- A moment of a script at which others may make moves. -/
inductive Moment where
  /-- A dispatch found a capability, and has not called it yet. -/
  | asked
  /-- A command was handed over, and is waited for. -/
  | handedOver
  /-- The script has the outcome of a command, or gave up on it. -/
  | answered
  | paused

/-- What happens at each moment. -/
abbrev Meanwhile (σ : Type) := Moment → Pipeline σ → List (Move σ)

def Meanwhile.none : Meanwhile σ := fun _ _ => []

namespace Traffic

/-- Others make their moves. They do not dispatch or pause for the script. -/
def lapse (w : Worker σ) (others : Meanwhile σ) (moment : Moment) (t : Traffic σ) : Traffic σ :=
  t.run w ((others moment t.pipeline).filter Move.isAside)

/-- Dispatch a command, and wait for it as long as the settings allow. -/
def serve (w : Worker σ) (others : Meanwhile σ) (c : Command) (t : Traffic σ) : Traffic σ :=
  let called := ((t.ask w c).lapse w others .asked).handOver w t.pipeline.dispatches.length
  called.lapse w others .handedOver

def carryOut (w : Worker σ) (others : Meanwhile σ) (c : Command) (t : Traffic σ) :
    Except Fault Outcome × Traffic σ :=
  let after := t.serve w others c
  match after.outcome? t.pipeline.dispatches.length with
  | some o => (.ok o, after)
  | none =>
    match Clock.waitFault? t.pipeline.settings.resultTimeout with
    | some f => (.error f, after)
    | none => (.ok (timedOut t.pipeline.settings.resultTimeout), after)

def pause (w : Worker σ) (others : Meanwhile σ) (t : Traffic σ) : Except Fault Unit × Traffic σ :=
  let before := t.lapse w others .answered
  let (made, p) := before.pipeline.pause
  (made, { before with pipeline := p }.lapse w others .paused)

/-- Carry out commands, to the first failure or to the end. -/
def runCommands (w : Worker σ) (others : Meanwhile σ) (stopOnFailure : Bool) :
    List Command → Traffic σ → Except Fault (List Outcome) × Traffic σ
  | [], t => (.ok [], t)
  | c :: cs, t =>
    match t.carryOut w others c with
    | (.error f, t) => (.error f, t)
    | (.ok o, t) =>
      if stopOnFailure && o.isFailure || cs.isEmpty then (.ok [o], t)
      else
        match t.pause w others with
        | (.error f, t) => (.error f, t)
        | (.ok (), t) =>
          let (os, t) := runCommands w others stopOnFailure cs t
          (os.map (o :: ·), t)

/-! ## Scripts as moves -/

theorem exists_lapse (w : Worker σ) (others : Meanwhile σ) (moment : Moment) (t : Traffic σ) :
    ∃ moves, t.lapse w others moment = t.run w moves ∧ .pause ∉ moves :=
  ⟨_, rfl, by simp [Move.isAside]⟩

theorem exists_serve (w : Worker σ) (others : Meanwhile σ) (c : Command) (t : Traffic σ) :
    ∃ moves, t.serve w others c = (t.ask w c).run w moves ∧ .pause ∉ moves := by
  obtain ⟨before, hbefore, hbefore'⟩ := (t.ask w c).exists_lapse w others .asked
  obtain ⟨after, hafter, hafter'⟩ := (((t.ask w c).lapse w others .asked).handOver w
    t.pipeline.dispatches.length).exists_lapse w others .handedOver
  refine ⟨before ++ .handOver t.pipeline.dispatches.length :: after, ?_, ?_⟩
  · rw [serve, hafter, hbefore, run_append, run_cons]
    rfl
  · simp [hbefore', hafter']

/-- What a script does between two commands. -/
def rest (w : Worker σ) (others : Meanwhile σ) (t : Traffic σ) : Traffic σ := (t.pause w others).2

theorem exists_rest (w : Worker σ) (others : Meanwhile σ) (t : Traffic σ) :
    ∃ before after, .pause ∉ before ∧ .pause ∉ after ∧
      t.rest w others = ((t.run w before).step w .pause).run w after := by
  obtain ⟨before, hbefore, hbefore'⟩ := t.exists_lapse w others .answered
  obtain ⟨after, hafter, hafter'⟩ :=
    ((t.lapse w others .answered).step w .pause).exists_lapse w others .paused
  refine ⟨before, after, hbefore', hafter', ?_⟩
  rw [← hbefore, ← hafter]
  rfl

/-- Some moves lead from one state of the traffic to the other. -/
def Reaches (w : Worker σ) (t t' : Traffic σ) : Prop := ∃ moves, t' = t.run w moves

section

variable {w : Worker σ} {t t' : Traffic σ}

theorem Reaches.refl (w : Worker σ) (t : Traffic σ) : Reaches w t t := ⟨[], rfl⟩

theorem Reaches.trans {t'' : Traffic σ} (h : Reaches w t t') (h' : Reaches w t' t'') :
    Reaches w t t'' := by
  obtain ⟨moves, rfl⟩ := h
  obtain ⟨more, rfl⟩ := h'
  exact ⟨moves ++ more, (run_append w t moves more).symm⟩

theorem Reaches.orderly (h : Reaches w t t') (ht : t.Orderly) : t'.Orderly := by
  obtain ⟨moves, rfl⟩ := h
  exact ht.run w moves

theorem Reaches.setup (h : Reaches w t t') : t'.pipeline.setup = t.pipeline.setup := by
  obtain ⟨moves, rfl⟩ := h
  exact setup_run w t moves

theorem Reaches.settings (h : Reaches w t t') : t'.pipeline.settings = t.pipeline.settings :=
  congrArg (·.1) h.setup

theorem Reaches.sink (h : Reaches w t t') : t'.pipeline.sink = t.pipeline.sink :=
  congrArg (·.2.1) h.setup

end

theorem reaches_lapse (w : Worker σ) (others : Meanwhile σ) (moment : Moment) (t : Traffic σ) :
    Reaches w t (t.lapse w others moment) := by
  obtain ⟨moves, hlapse, _⟩ := t.exists_lapse w others moment
  exact ⟨moves, hlapse⟩

theorem reaches_serve (w : Worker σ) (others : Meanwhile σ) (c : Command) (t : Traffic σ) :
    Reaches w t (t.serve w others c) := by
  obtain ⟨moves, hserve, _⟩ := t.exists_serve w others c
  exact ⟨.ask c :: moves, hserve⟩

theorem reaches_rest (w : Worker σ) (others : Meanwhile σ) (t : Traffic σ) :
    Reaches w t (t.rest w others) := by
  obtain ⟨before, after, _, _, hrest⟩ := t.exists_rest w others
  exact ⟨before ++ .pause :: after, by rw [hrest, run_append, run_cons]⟩

theorem length_handOver (w : Worker σ) (n : Nat) (t : Traffic σ) :
    (t.handOver w n).pipeline.dispatches.length = t.pipeline.dispatches.length := by
  rw [handOver]
  split
  · exact (grows_handOver _ _ _ _ _).length_eq
  · rfl

theorem length_ask (w : Worker σ) (c : Command) (t : Traffic σ) :
    (t.ask w c).pipeline.dispatches.length = t.pipeline.dispatches.length + 1 := by
  rw [(grows_ask w c t).length_eq]
  simp [addDispatch]

theorem lapse_keeps (w : Worker σ) (others : Meanwhile σ) (moment : Moment) (t : Traffic σ) :
    (t.lapse w others moment).waiting = t.waiting ∧
      (t.lapse w others moment).pipeline.dispatches.length = t.pipeline.dispatches.length :=
  aside_run (fun _ hm => (List.mem_filter.mp hm).2) w t

theorem length_serve (w : Worker σ) (others : Meanwhile σ) (c : Command) (t : Traffic σ) :
    (t.serve w others c).pipeline.dispatches.length = t.pipeline.dispatches.length + 1 := by
  rw [serve, (lapse_keeps w others .handedOver _).2, length_handOver,
    (lapse_keeps w others .asked _).2, length_ask]

theorem carryOut_snd (w : Worker σ) (others : Meanwhile σ) (c : Command) (t : Traffic σ) :
    (t.carryOut w others c).2 = t.serve w others c := by
  unfold carryOut
  dsimp only
  split
  · rfl
  · split <;> rfl

/-! ## With nothing in between -/

theorem outcome?_eq_lastOutcome? {t : Traffic σ} {n : Nat}
    (h : t.pipeline.dispatches.length = n + 1) : t.outcome? n = t.pipeline.lastOutcome? := by
  rw [outcome?, lastOutcome?, List.getLast?_eq_getElem?, h, Nat.add_sub_cancel]

theorem Orderly.carryOut_none {t : Traffic σ} (h : t.Orderly) (w : Worker σ) (c : Command) :
    (t.carryOut w .none c).1 = (t.pipeline.carryOut w c).1 ∧
      (t.carryOut w .none c).2.pipeline = (t.pipeline.carryOut w c).2 := by
  have hserve : (t.serve w .none c).pipeline = t.pipeline.dispatch w c := (h.makes_dispatch w c).1
  have hlast := outcome?_eq_lastOutcome? (length_serve w .none c t)
  rw [hserve] at hlast
  refine ⟨?_, by rw [carryOut_snd, Pipeline.carryOut_snd, hserve]⟩
  unfold carryOut Pipeline.carryOut
  dsimp only
  rw [hlast]
  cases (t.pipeline.dispatch w c).lastOutcome? with
  | some o => rfl
  | none => cases Clock.waitFault? t.pipeline.settings.resultTimeout <;> rfl

theorem pause_none (w : Worker σ) (t : Traffic σ) :
    t.pause w .none = (t.pipeline.pause.1, { t with pipeline := t.pipeline.pause.2 }) := rfl

/-- The script that the pipeline runs is the one in which nothing happens in between. -/
theorem Orderly.runCommands_none {t : Traffic σ} (h : t.Orderly) (w : Worker σ)
    (stopOnFailure : Bool) (cs : List Command) :
    (t.runCommands w .none stopOnFailure cs).1 = (t.pipeline.runCommands w stopOnFailure cs).1 ∧
      (t.runCommands w .none stopOnFailure cs).2.pipeline =
        (t.pipeline.runCommands w stopOnFailure cs).2 := by
  induction cs generalizing t with
  | nil => exact ⟨rfl, rfl⟩
  | cons c cs ih =>
    obtain ⟨hanswer, hp⟩ := h.carryOut_none w c
    have hcarried : (t.carryOut w .none c).2.Orderly := by
      rw [carryOut_snd]
      exact (reaches_serve w .none c t).orderly h
    rw [runCommands, Pipeline.runCommands]
    generalize t.carryOut w .none c = carried at hanswer hp hcarried
    generalize t.pipeline.carryOut w c = carried' at hanswer hp
    obtain ⟨answer, t'⟩ := carried
    obtain ⟨answer', p'⟩ := carried'
    obtain rfl : answer = answer' := hanswer
    obtain rfl : t'.pipeline = p' := hp
    cases answer with
    | error f => exact ⟨rfl, rfl⟩
    | ok o =>
      dsimp only
      split
      · exact ⟨rfl, rfl⟩
      · have hrest : (t'.pause w .none).2.Orderly := (reaches_rest w .none t').orderly hcarried
        rw [pause_none] at hrest ⊢
        generalize t'.pipeline.pause = paused at hrest
        obtain ⟨made, p⟩ := paused
        -- a pause that fails ends both scripts alike
        cases made with
        | error f => exact ⟨rfl, rfl⟩
        | ok _ =>
          obtain ⟨hos, hp⟩ := ih hrest
          exact ⟨congrArg (Except.map (o :: ·)) hos, hp⟩

end Traffic

end GestureScript.Pipeline
