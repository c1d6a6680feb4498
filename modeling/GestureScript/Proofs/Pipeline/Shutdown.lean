import GestureScript.Capability.Playback
import GestureScript.Proofs.Pipeline.Sole

/-!
# What follows on a shutdown

Once a pipeline is shut down, its capability answers nothing but that it is not available.
A `Sequel` is anything that may be done then, short of attaching a capability. `Shut` holds
from the shutdown on: the traffic is in order and the capability is closed, so each dispatch
is turned down as soon as it is made, and the worker performs nothing any more.
-/

set_option autoImplicit false

namespace GestureScript.Pipeline

variable {σ : Type} {w : Worker σ} {P : Capability σ Nat → Prop} {p : Pipeline σ}

/-! ## Sequels -/

inductive Sequel (σ : Type) where
  | use (u : Use σ)
  | see (s : Sighting)
  /-- The second half of a dispatch that was on its way to the capability. -/
  | handOver (n : Nat)
  | callAside (i : Nat) (s : Submission)
  | alter (i : Nat) (st : σ) (ending : Ending)

namespace Sequel

def attaches : Sequel σ → Bool
  | .use u => u.attaches
  | _ => false

def sightings : Sequel σ → List Sighting
  | .use u => u.sightings
  | .see s => [s]
  | _ => []

def on (w : Worker σ) (p : Pipeline σ) : Sequel σ → Pipeline σ
  | .use u => u.on w p
  | .see s => p.see s
  | .handOver n =>
    match p.attached, p.dispatches[n]? with
    | some i, some ⟨c, false, none⟩ => p.handOver w i n c
    | _, _ => p
  | .callAside i s => p.callAside w i s
  | .alter i st ending => p.alter i st ending

end Sequel

def proceed (w : Worker σ) (p : Pipeline σ) (sequels : List (Sequel σ)) : Pipeline σ :=
  sequels.foldl (Sequel.on w) p

theorem retains_sequel (hP : Capability.Lasting w P) {x : Sequel σ} (h : x.attaches = false)
    (p : Pipeline σ) : Retains P x.sightings p (x.on w p) := by
  cases x with
  | use u => exact retains_use hP h p
  | see s => exact retains_see s p
  | handOver n =>
    rw [Sequel.on]
    split
    · exact retains_handOver hP _ _ _ _
    · exact .refl p
  | callAside i s => exact retains_callAside hP i s p
  | alter i st ending => exact retains_alter hP i st ending p

theorem retains_proceed (hP : Capability.Lasting w P) {sequels : List (Sequel σ)}
    (h : ∀ x ∈ sequels, x.attaches = false) (p : Pipeline σ) :
    Retains P (sequels.flatMap Sequel.sightings) p (p.proceed w sequels) := by
  induction sequels generalizing p with
  | nil => exact .refl p
  | cons x sequels ih =>
    obtain ⟨hx, hrest⟩ := List.forall_mem_cons.mp h
    exact (retains_sequel hP hx p).trans (ih hrest _)

/-! ## The worker performs nothing -/

/-- All that the pipeline has was shut down. -/
def Closed (p : Pipeline σ) : Prop := ∀ cap ∈ p.fleet, cap.Closed

section

variable (perform : Submission → σ → Attempt × σ)

theorem Closed.handOver_perform (h : p.Closed) (i n : Nat) (c : Command) :
    p.handOver { w with perform := perform } i n c = p.handOver w i n c := by
  unfold handOver
  split
  · rfl
  next hfound =>
    have hclosed := h _ (List.mem_of_getElem? hfound)
    rw [hclosed.submit_eq, hclosed.submit_eq]

theorem Closed.callAside_perform (h : p.Closed) (i : Nat) (s : Submission) :
    p.callAside { w with perform := perform } i s = p.callAside w i s := by
  unfold callAside
  split
  · rfl
  next hfound =>
    have hclosed := h _ (List.mem_of_getElem? hfound)
    rw [hclosed.submit_eq, hclosed.submit_eq]

theorem Closed.dispatch_perform (h : p.Closed) (c : Command) :
    p.dispatch { w with perform := perform } c = p.dispatch w c := by
  have hpoll : (p.addDispatch c).poll { w with perform := perform } = (p.addDispatch c).poll w :=
    rfl
  have hretains := (retains_addDispatch c p).trans
    (retains_poll (Capability.lasting_closed w) (p.addDispatch c))
  cases hready : ((p.addDispatch c).poll w).1 with
  | none =>
    rw [dispatch_of_none hready, dispatch_of_none (by rwa [hpoll]), hpoll]
  | some i =>
    have hclosed : (((p.addDispatch c).poll w).2.emit (some p.dispatches.length)
        (.dispatched c)).Closed := (hretains.trans (retains_emit _ _ _)).keeps h
    rw [dispatch_of_some hready, dispatch_of_some (by rwa [hpoll]), hpoll,
      hclosed.handOver_perform]

theorem Closed.submitLine_perform (h : p.Closed) (line : String) :
    p.submitLine { w with perform := perform } line = p.submitLine w line := by
  unfold submitLine
  split
  · rw [h.dispatch_perform]
  · rfl

theorem Closed.carryOut_perform (h : p.Closed) (c : Command) :
    p.carryOut { w with perform := perform } c = p.carryOut w c := by
  unfold carryOut
  rw [h.dispatch_perform]

theorem Closed.runCommands_perform (h : p.Closed) (stopOnFailure : Bool) (cs : List Command) :
    p.runCommands { w with perform := perform } stopOnFailure cs =
      p.runCommands w stopOnFailure cs := by
  induction cs generalizing p with
  | nil => rfl
  | cons c cs ih =>
    have hfirst := (retains_dispatch (Capability.lasting_closed w) c p).keeps h
    rw [← carryOut_snd] at hfirst
    rw [runCommands, runCommands, h.carryOut_perform]
    generalize p.carryOut w c = carried at hfirst
    obtain ⟨answer, p⟩ := carried
    cases answer with
    | error f => rfl
    | ok o =>
      dsimp only
      split
      · rfl
      · have hpaused := (retains_pause p).keeps hfirst
        generalize p.pause = paused at hpaused
        obtain ⟨made, p⟩ := paused
        cases made with
        | error f => rfl
        | ok _ =>
          dsimp only
          rw [ih hpaused]

/-- What is done at a closed pipeline does not depend on how its worker performs commands. -/
theorem Closed.on_perform (h : p.Closed) (x : Sequel σ) :
    x.on { w with perform := perform } p = x.on w p := by
  cases x with
  | see s => rfl
  | handOver n =>
    rw [Sequel.on, Sequel.on]
    split
    · exact h.handOver_perform perform _ _ _
    · rfl
  | callAside i s => exact h.callAside_perform perform i s
  | alter i st ending => rfl
  | use u =>
    cases u with
    | dispatch c => exact h.dispatch_perform perform c
    | submitLine line => exact congrArg Prod.snd (h.submitLine_perform perform line)
    | runCommands stop cs => exact congrArg Prod.snd (h.runCommands_perform perform stop cs)
    | runScript stop script => exact congrArg Prod.snd (h.runCommands_perform perform stop _)
    | attach | letGo | letAllGo | shutDown => rfl

theorem Closed.proceed_perform (h : p.Closed) {sequels : List (Sequel σ)}
    (hsequels : ∀ x ∈ sequels, x.attaches = false) :
    p.proceed { w with perform := perform } sequels = p.proceed w sequels := by
  induction sequels generalizing p with
  | nil => rfl
  | cons x sequels ih =>
    obtain ⟨hx, hrest⟩ := List.forall_mem_cons.mp hsequels
    have hclosed : (x.on w p).Closed :=
      (retains_sequel (Capability.lasting_closed w) hx p).keeps h
    rw [proceed, List.foldl_cons, h.on_perform]
    exact ih hclosed hrest

end

/-! ## What becomes of dispatches -/

/-- The dispatch failed for want of a capability, which the sink heard before it was settled. -/
structure TurnedDown (p : Pipeline σ) (n : Nat) (d : Dispatch) (o : Outcome) : Prop where
  dispatch : p.dispatches[n]? = some d
  outcome : d.outcome = some o
  unavailable : o.errorKind? = some .capabilityUnavailable
  events : p.eventsOf n =
    (if d.handedOver then p.sink.heard (some n) (.dispatched d.command) else []) ++
      closing p.sink n d.command (some o)

/-- How a dispatch stands some time after a pipeline was shut down. -/
inductive Fate (stopped p : Pipeline σ) (n : Nat) (d : Dispatch) : Prop
  | settledBefore : stopped.dispatches[n]? = some d → d.outcome.isSome → stopped.Keeps n p →
      Fate stopped p n d
  | onItsWay : stopped.dispatches[n]? = some d → d.handedOver = false → d.outcome = none →
      Fate stopped p n d
  | turnedDown (o : Outcome) : p.TurnedDown n d o → Fate stopped p n d

/-- The calls for the dispatch, if there are any, were refused as the capability was closed. -/
structure Refuses (n : Nat) (cap : Capability σ Nat) : Prop where
  closed : cap.Closed
  refused : ∀ call ∈ cap.gate.calls, call.isFor n = true → ∀ c, call.submission = .command c →
    ∃ o, call.outcome = some o ∧ o.errorKind? = some .capabilityUnavailable

theorem lasting_refuses (w : Worker σ) (n : Nat) : Capability.Lasting w (Refuses (σ := σ) n) where
  poll h := ⟨(Capability.lasting_closed w).poll h.closed, h.refused⟩
  submit {cap} h s callback := by
    refine ⟨(Capability.lasting_closed w).submit h.closed s callback, ?_⟩
    intro call hcall hfor c hc
    rw [h.closed.submit_eq] at hcall
    dsimp only at hcall
    rw [Gate.calls_reject, List.mem_append, List.mem_singleton] at hcall
    rcases hcall with hold | rfl
    · exact h.refused call hold hfor c hc
    · obtain rfl : s = .command c := hc
      exact ⟨_, rfl, Gate.errorKind?_refusal c _⟩
  letGo h := by rwa [h.closed.letGo_eq]
  shutDown h := by rwa [h.closed.shutDown_eq]
  alter h st ending := ⟨(Capability.lasting_closed w).alter h.closed st ending, h.refused⟩

theorem mem_callsFor {n : Nat} {call : Gate.Call Nat} :
    call ∈ p.callsFor n ↔ ∃ cap ∈ p.fleet, call ∈ cap.gate.calls ∧ call.isFor n = true := by
  simp [callsFor]

namespace Traffic

/-- The pipeline was shut down, and nothing was attached since. -/
structure Shut (t : Traffic σ) : Prop where
  orderly : t.Orderly
  sole : t.pipeline.Sole
  closed : t.pipeline.Closed

/-- What is settled stays as it is, and no dispatch waits that did not wait before. -/
structure Later (t t' : Traffic σ) : Prop where
  setup : t'.pipeline.setup = t.pipeline.setup
  commands : t.pipeline.dispatches.map (·.command) <+: t'.pipeline.dispatches.map (·.command)
  settled : ∀ n, (t.outcome? n).isSome → Keeps n t t'
  waiting : ∀ n i, t'.waiting n = some i → t.waiting n = some i

variable {t t' t'' : Traffic σ}

theorem Later.refl (t : Traffic σ) : Later t t :=
  ⟨rfl, List.prefix_refl _, fun n _ => ⟨rfl, rfl, .refl n _⟩, fun _ _ => id⟩

theorem Later.trans (h : Later t t') (h' : Later t' t'') : Later t t'' where
  setup := h'.setup.trans h.setup
  commands := h.commands.trans h'.commands
  settled n hn := by
    obtain ⟨hwaiting, hlooks, hkeeps⟩ := h.settled n hn
    have hstill : (t'.outcome? n).isSome := by rwa [outcome?, hkeeps.dispatch]
    obtain ⟨hwaiting', hlooks', hkeeps'⟩ := h'.settled n hstill
    exact ⟨hwaiting'.trans hwaiting, hlooks'.trans hlooks, hkeeps.trans hkeeps'⟩
  waiting n i hi := h.waiting n i (h'.waiting n i hi)

theorem Orderly.later_run (h : t.Orderly) (w : Worker σ) {moves : List (Move σ)}
    (hwaiting : ∀ n i, (t.run w moves).waiting n = some i → t.waiting n = some i) :
    Later t (t.run w moves) where
  setup := setup_run w t moves
  commands := by
    rw [commands_run]
    exact List.prefix_append _ _
  settled _ hn := h.keeps_run hn w moves
  waiting := hwaiting

/-- A dispatch that is open waits for the capability that is attached. -/
theorem Shut.waiting_of_open (h : t.Shut) {n : Nat} {c : Command}
    (hd : t.pipeline.dispatches[n]? = some ⟨c, false, none⟩) :
    t.waiting n = t.pipeline.attached := by
  cases h.orderly.stands n with
  | toCome _ _ hnone => simp [hnone] at hd
  | begun c' ready _ hreported =>
    cases hreported with
    | turnedAway _ hd' => simp [hd'] at hd
    | handedOver call _ hd' => simp [hd'] at hd
    | waiting i hwaiting _ _ _ =>
      obtain ⟨rfl, hattached⟩ :=
        h.sole i _ (List.getElem?_eq_getElem (h.orderly.waiting n i hwaiting))
      rw [hwaiting, hattached]

theorem Shut.leads_sequel (h : t.Shut) (w : Worker σ) (x : Sequel σ) :
    ∃ t' : Traffic σ, t'.pipeline = x.on w t.pipeline ∧ t'.Orderly ∧ Later t t' := by
  have moved (moves : List (Move σ))
      (hwaiting : ∀ n i, (t.run w moves).waiting n = some i → t.waiting n = some i) :
      (t.run w moves).Orderly ∧ Later t (t.run w moves) :=
    ⟨h.orderly.run w moves, h.orderly.later_run w hwaiting⟩
  cases x with
  | use u =>
    obtain ⟨hp, hwaiting⟩ := h.orderly.makes w u
    exact ⟨_, hp, moved _ (by rw [hwaiting]; exact fun _ _ => id)⟩
  | see s =>
    exact ⟨_, rfl, h.orderly.see s, rfl, List.prefix_refl _,
      fun n _ => ⟨rfl, rfl, keeps_see n s _⟩, fun _ _ => id⟩
  | callAside i s => exact ⟨_, rfl, moved [.callAside i s] fun _ _ => id⟩
  | alter i st ending => exact ⟨_, rfl, moved [.alter i st ending] fun _ _ => id⟩
  | handOver n =>
    rw [Sequel.on]
    split
    next i c hattached hd =>
      have hwaiting := (h.waiting_of_open hd).trans hattached
      have hstep : t.run w [.handOver n] =
          { t with
            pipeline := t.pipeline.handOver w i n c
            waiting := Function.update t.waiting n none } := by
        rw [run_cons, run_nil, step, handOver, hwaiting, hd]
      refine ⟨t.run w [.handOver n], by rw [hstep], moved [.handOver n] fun m j hj => ?_⟩
      rw [hstep] at hj
      by_cases hm : m = n
      · simp [hm] at hj
      · simpa [hm] using hj
    · exact ⟨t, rfl, h.orderly, .refl t⟩

theorem Shut.proceed (h : t.Shut) (w : Worker σ) {sequels : List (Sequel σ)}
    (hsequels : ∀ x ∈ sequels, x.attaches = false) :
    ∃ t' : Traffic σ, t'.pipeline = t.pipeline.proceed w sequels ∧ t'.Shut ∧ Later t t' := by
  induction sequels generalizing t with
  | nil => exact ⟨t, rfl, h, .refl t⟩
  | cons x sequels ih =>
    obtain ⟨hx, hrest⟩ := List.forall_mem_cons.mp hsequels
    obtain ⟨t₁, hp, horderly, hlater⟩ := h.leads_sequel w x
    have hretains := retains_sequel (Capability.lasting_closed w) hx t.pipeline
    rw [← hp] at hretains
    have hshut : t₁.Shut := ⟨horderly, h.sole.retains hretains, hretains.keeps h.closed⟩
    obtain ⟨t₂, hp', hshut', hlater'⟩ := ih hshut hrest
    exact ⟨t₂, by rw [hp', hp]; rfl, hshut', hlater.trans hlater'⟩

theorem Shut.outcome_of_call (h : t.Shut) {n : Nat} {call : Gate.Call Nat}
    (hc : t.pipeline.callsFor n = [call]) : ∃ o, call.outcome = some o := by
  obtain ⟨cap, hcap, hmem, _⟩ := mem_callsFor.mp (hc ▸ List.mem_singleton_self call)
  exact Option.isSome_iff_exists.mp ((h.closed cap hcap).answered call hmem)

/-- What is not settled by then has not reached the capability. -/
theorem Shut.refuses (h : t.Shut) {n : Nat} (hopen : t.outcome? n = none) :
    ∀ cap ∈ t.pipeline.fleet, Refuses n cap := by
  have hnone : t.pipeline.callsFor n = [] := by
    cases h.orderly.stands n with
    | toCome _ _ _ hc => exact hc
    | begun c ready _ hreported =>
      cases hreported with
      | turnedAway _ _ hc => exact hc
      | waiting _ _ _ hc => exact hc
      | handedOver call _ hd hc =>
        obtain ⟨o, ho⟩ := h.outcome_of_call hc
        simp [outcome?, hd, ho] at hopen
  intro cap hcap
  refine ⟨h.closed cap hcap, fun call hmem hfor => ?_⟩
  have hcall : call ∈ t.pipeline.callsFor n := mem_callsFor.mpr ⟨cap, hcap, hmem, hfor⟩
  simp [hnone] at hcall

/-- A dispatch was settled before, or is still on its way, or was turned down. -/
theorem Shut.fate (h : t.Shut) (h' : t'.Shut) (hlater : Later t t') {n : Nat} {d : Dispatch}
    (hrefuses : t.outcome? n = none → ∀ cap ∈ t'.pipeline.fleet, Refuses n cap)
    (hd : t'.pipeline.dispatches[n]? = some d) : Fate t.pipeline t'.pipeline n d := by
  cases hopen : t.outcome? n with
  | some o =>
    have hkeeps := (hlater.settled n (by simp [hopen])).pipeline
    have hsame : t.pipeline.dispatches[n]? = some d := by rw [← hkeeps.dispatch, hd]
    have ho : d.outcome = some o := by simpa [outcome?, hsame] using hopen
    exact .settledBefore hsame (by simp [ho]) hkeeps
  | none =>
    cases h'.orderly.stands n with
    | toCome _ _ hnone => simp [hnone] at hd
    | begun c ready _ hreported =>
      cases hreported with
      | turnedAway _ hd' _ he =>
        obtain rfl := Option.some.inj (hd'.symm.trans hd)
        exact .turnedDown .notReady ⟨hd, rfl, rfl, he⟩
      | waiting i hwaiting hd' =>
        obtain rfl := Option.some.inj (hd'.symm.trans hd)
        obtain ⟨c', _, hsame, _⟩ := h.orderly.reported_of_waiting (hlater.waiting n i hwaiting)
        obtain rfl : c' = c := by
          obtain ⟨more, hmore⟩ := hlater.commands
          have hcommand := congrArg (·[n]?) hmore
          rw [Gate.Watched.getElem?_append_of_some (a := c') (by simp [hsame])] at hcommand
          simpa [hd] using hcommand
        exact .onItsWay hsame rfl rfl
      | handedOver call _ hd' hc hs he =>
        obtain rfl := Option.some.inj (hd'.symm.trans hd)
        obtain ⟨cap, hcap, hmem, hfor⟩ := mem_callsFor.mp (hc ▸ List.mem_singleton_self call)
        -- the call was made since the shutdown, so it was refused
        obtain ⟨o, ho, hunavailable⟩ := (hrefuses hopen cap hcap).refused call hmem hfor c hs
        rw [ho] at he
        exact .turnedDown o ⟨hd, ho, hunavailable, he⟩

/-! ## Dispatches and scripts that come too late -/

theorem Orderly.commands_dispatch (h : t.Orderly) (w : Worker σ) (c : Command) :
    (t.pipeline.dispatch w c).dispatches.map (·.command) =
      t.pipeline.dispatches.map (·.command) ++ [c] := by
  rw [← (h.makes_dispatch w c).1]
  exact commands_run w t [.ask c, .handOver t.pipeline.dispatches.length]

theorem Shut.fates (h : t.Shut) (w : Worker σ) {sequels : List (Sequel σ)}
    (hsequels : ∀ x ∈ sequels, x.attaches = false) :
    ∃ t' : Traffic σ, t'.pipeline = t.pipeline.proceed w sequels ∧ t'.Shut ∧
      t'.pipeline.setup = t.pipeline.setup ∧
      ∀ n d, t'.pipeline.dispatches[n]? = some d → Fate t.pipeline t'.pipeline n d := by
  obtain ⟨t', hp, h', hlater⟩ := h.proceed w hsequels
  refine ⟨t', hp, h', hlater.setup, fun n d => h.fate h' hlater fun hopen => ?_⟩
  rw [hp]
  exact (retains_proceed (lasting_refuses w n) hsequels t.pipeline).keeps (h.refuses hopen)

/-- A dispatch is turned down as soon as it is made. -/
theorem Shut.dispatch (h : t.Shut) (w : Worker σ) (c : Command) :
    ∃ (t' : Traffic σ) (d : Dispatch) (o : Outcome), t'.pipeline = t.pipeline.dispatch w c ∧
      t'.Shut ∧ t'.pipeline.setup = t.pipeline.setup ∧ d.command = c ∧
      t'.pipeline.TurnedDown t.pipeline.dispatches.length d o ∧
      t'.pipeline.lastOutcome? = some o := by
  have honly : ∀ x ∈ [(.use (.dispatch c) : Sequel σ)], x.attaches = false :=
    List.forall_mem_singleton.mpr rfl
  obtain ⟨t', hp, h', hsetup, hfates⟩ := h.fates w honly
  have hcommands := h.orderly.commands_dispatch w c
  have hp' : t'.pipeline = t.pipeline.dispatch w c := hp
  rw [← hp'] at hcommands
  have hlength : t'.pipeline.dispatches.length = t.pipeline.dispatches.length + 1 := by
    simpa using congrArg List.length hcommands
  obtain ⟨d, hd, hc⟩ : ∃ d, t'.pipeline.dispatches[t.pipeline.dispatches.length]? = some d ∧
      d.command = c := by
    have hlast := congrArg (·[t.pipeline.dispatches.length]?) hcommands
    simpa [List.getElem?_append_right, List.getElem?_map, Option.map_eq_some_iff] using hlast
  cases hfates _ d hd with
  | settledBefore hsame => simp at hsame
  | onItsWay hsame => simp at hsame
  | turnedDown o hdown =>
    refine ⟨t', d, o, hp', h', hsetup, hc, hdown, ?_⟩
    rw [lastOutcome?, List.getLast?_eq_getElem?, hlength, Nat.add_sub_cancel, hd]
    exact hdown.outcome

end Traffic

/-- What a script comes to when its commands are turned down: a failure for each, or for the
first only. Otherwise it broke off as the clock did not make a pause. -/
inductive Fruitless (p : Pipeline σ) (stopOnFailure : Bool) (cs : List Command) :
    Except Fault (List Outcome) → Prop
  | failures (os : List Outcome) :
      os.length = (if stopOnFailure then min 1 cs.length else cs.length) →
      (∀ o ∈ os, o.errorKind? = some .capabilityUnavailable) → Fruitless p stopOnFailure cs (.ok os)
  | noPause (f : Fault) : stopOnFailure = false → p.settings.commandDelay.isPositive = true →
      p.pauseFault? p.settings.commandDelay = some f → Fruitless p stopOnFailure cs (.error f)

theorem of_pause_error {f : Fault} (h : p.pause.1 = .error f) :
    p.settings.commandDelay.isPositive = true ∧
      p.pauseFault? p.settings.commandDelay = some f := by
  unfold pause at h
  dsimp only at h
  split at h
  next hdelay =>
    split at h
    next hfault =>
      cases h
      exact ⟨hdelay, hfault⟩
    · cases h
  · cases h

theorem Traffic.Shut.pause {t : Traffic σ} (h : t.Shut) (w : Worker σ) :
    (t.step w .pause).Shut where
  orderly := h.orderly.step w .pause
  sole := h.sole.retains (P := fun _ => True) (retains_pause t.pipeline)
  closed := (retains_pause t.pipeline).keeps h.closed

/-- It depends on the settings and the clock only. -/
theorem Fruitless.of_setup {p' : Pipeline σ} {stopOnFailure : Bool} {cs : List Command}
    {answer : Except Fault (List Outcome)} (h : p'.Fruitless stopOnFailure cs answer)
    (hsetup : p'.setup = p.setup) : p.Fruitless stopOnFailure cs answer := by
  have hsettings : p'.settings = p.settings := congrArg (·.1) hsetup
  have hfault : p'.pauseFault? = p.pauseFault? := congrArg (·.2.2) hsetup
  cases h with
  | failures os hlength hos => exact .failures os hlength hos
  | noPause f hstop hdelay hf =>
    rw [hsettings] at hdelay
    rw [hsettings, hfault] at hf
    exact .noPause f hstop hdelay hf

theorem Traffic.Shut.fruitless {t : Traffic σ} (h : t.Shut) (w : Worker σ) (stopOnFailure : Bool)
    (cs : List Command) :
    t.pipeline.Fruitless stopOnFailure cs (t.pipeline.runCommands w stopOnFailure cs).1 := by
  induction cs generalizing t with
  | nil => exact .failures [] (by cases stopOnFailure <;> rfl) (by simp)
  | cons c cs ih =>
    obtain ⟨t', d, o, hp, h', hsetup, _, hdown, hlast⟩ := h.dispatch w c
    have hfails : o.isFailure = true := by rw [Outcome.isFailure_eq, hdown.unavailable]; rfl
    have hcarried : t.pipeline.carryOut w c = (.ok o, t'.pipeline) := by
      rw [Pipeline.carryOut, ← hp, hlast]
    suffices hthere : t'.pipeline.Fruitless stopOnFailure (c :: cs)
        (t.pipeline.runCommands w stopOnFailure (c :: cs)).1 from
      hthere.of_setup hsetup
    rw [Pipeline.runCommands, hcarried]
    dsimp only
    rw [hfails, Bool.and_true]
    split
    next hend =>
      refine .failures [o] ?_ (by simp [hdown.unavailable])
      cases stopOnFailure with
      | true => simp
      | false => simpa using hend
    next hgo =>
      -- only a script that does not stop at a failure comes to a pause
      obtain ⟨rfl, hmore⟩ : stopOnFailure = false ∧ cs.isEmpty = false := by simpa using hgo
      have hrest := (ih (h'.pause w)).of_setup (setup_step w t' .pause)
      rw [step] at hrest
      have hbroken (f : Fault) := of_pause_error (p := t'.pipeline) (f := f)
      generalize t'.pipeline.pause = paused at hrest hbroken
      obtain ⟨made, p⟩ := paused
      cases made with
      | error f =>
        obtain ⟨hdelay, hf⟩ := hbroken f rfl
        exact .noPause f rfl hdelay hf
      | ok _ =>
        dsimp only at hrest ⊢
        generalize p.runCommands w false cs = answer at hrest
        obtain ⟨os, p⟩ := answer
        cases hrest with
        | failures os hlength hos =>
          refine .failures (o :: os) (by simpa using hlength) ?_
          exact List.forall_mem_cons.mpr ⟨hdown.unavailable, hos⟩
        | noPause f _ hdelay hf => exact .noPause f rfl hdelay hf

/-! ## After the shutdown -/

namespace Traffic

theorem Orderly.shut_shutDown {t : Traffic σ} (h : t.Orderly) (w : Worker σ)
    (hsole : t.pipeline.Sole) (hcaps : ∀ cap ∈ t.pipeline.fleet, cap.Orderly) :
    (t.step w .shutDown).Shut where
  orderly := h.step w .shutDown
  sole := hsole.retains (retains_shutDown (Capability.lasting_orderly w) t.pipeline)
  closed := hsole.closed_shutDown hcaps w

/-- What was handed over before is answered, and the sink heard of it. -/
theorem Shut.answered {t : Traffic σ} (h : t.Shut) {n : Nat} {d : Dispatch}
    (hd : t.pipeline.dispatches[n]? = some d) (hhanded : d.handedOver = true) :
    ∃ o, d.outcome = some o ∧
      t.pipeline.eventsOf n = t.pipeline.sink.heard (some n) (.dispatched d.command) ++
        closing t.pipeline.sink n d.command (some o) := by
  cases h.orderly.stands n with
  | toCome _ _ hnone => simp [hnone] at hd
  | begun c ready _ hreported =>
    cases hreported with
    | turnedAway _ hd' =>
      obtain rfl := Option.some.inj (hd'.symm.trans hd)
      cases hhanded
    | waiting i _ hd' =>
      obtain rfl := Option.some.inj (hd'.symm.trans hd)
      cases hhanded
    | handedOver call _ hd' hc _ he =>
      obtain rfl := Option.some.inj (hd'.symm.trans hd)
      obtain ⟨o, ho⟩ := h.outcome_of_call hc
      rw [ho] at he
      exact ⟨o, ho, he⟩

end Traffic

end GestureScript.Pipeline
