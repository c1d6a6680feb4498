import GestureScript.Proofs.Monitor.Registry
import GestureScript.Proofs.Monitor.Streams
import Mathlib.Logic.Function.Basic
import Mathlib.Logic.Relation

/-!
# Who is told

All that happens at a monitor makes one sequence of events: operations, also those of
listeners in their turn, and tellings, each of which names the event it tells of. While an
observation is delivered it is in debt to the listeners that were not told yet. A ledger of
events and debts stays balanced whatever listeners do in their turns, and when a monitor is
done with what it was given, no debt is left.
-/

set_option autoImplicit false

namespace GestureScript.Audience

/-! ## Events -/

/-- One thing that happens at a monitor. What is told tells of the event at `source`. -/
inductive Event where
  | done (op : Operation)
  | told (source : Nat) (listener : String) (notice : Notice)

namespace Event

def operation? : Event → Option Operation
  | done op => some op
  | told .. => none

def telling? : Event → Option (String × Notice)
  | done _ => none
  | told _ listener notice => some (listener, notice)

/-- Who is told what of the event at `source`. -/
def tellingOf? (source : Nat) : Event → Option (String × Notice)
  | done _ => none
  | told place listener notice => if place = source then some (listener, notice) else none

end Event

def operations (events : List Event) : List Operation := events.filterMap Event.operation?

@[simp] theorem operations_concat_done (past : List Event) (op : Operation) :
    operations (past ++ [.done op]) = operations past ++ [op] := by
  simp [operations, Event.operation?]

@[simp] theorem operations_concat_told (past : List Event) (source : Nat) (listener : String)
    (notice : Notice) : operations (past ++ [.told source listener notice]) = operations past := by
  simp [operations, Event.operation?]

def tellings (events : List Event) : List (String × Notice) := events.filterMap Event.telling?

def tellingsOf (source : Nat) (events : List Event) : List (String × Notice) :=
  events.filterMap (Event.tellingOf? source)

/-- What an operation asks for about the listeners of a channel. -/
def Operation.change? (channel : Channel) : Operation → Option Change
  | .subscribe other listener _ => if other = channel then some (.join listener) else none
  | .unsubscribe other listener _ => if other = channel then some (.leave listener) else none
  | _ => none

def sightings (past : List Event) : List Sighting :=
  (operations past).filterMap Operation.sighting?

/-- The listeners of a channel after some events. -/
def registered (channel : Channel) (past : List Event) : List String :=
  standing ((operations past).filterMap (Operation.change? channel))

/-- The application that was named last since the last reset. -/
def lastNamed (past : List Event) : Option Package :=
  (packages (sinceReset (sightings past))).getLast?

/-- What an operation makes known: any snapshot, also one that was seen before, and the name
of an application, unless it is empty or was the last one, or the clock cannot tell the time. -/
def news (past : List Event) : Operation → Option Notice
  | .foreground (.ok now) (some p) =>
    if p.isEmpty = true ∨ lastNamed past = some p then none
    else some (.transition ⟨(lastNamed past).map Package.name, p.name, now⟩)
  | .snapshot _ (some s) => some (.snapshot s)
  | _ => none

/-- Who has to be told of an operation, and what: the listeners of the channel at this moment. -/
def due (past : List Event) (op : Operation) : List (String × Notice) :=
  (news past op).toList.flatMap fun notice =>
    (registered notice.channel past).map fun listener => (listener, notice)

/-- Who has to be told of the event at a place. -/
def dueAt (source : Nat) (events : List Event) : List (String × Notice) :=
  match events[source]? with
  | some (.done op) => due (events.take source) op
  | _ => []

/-! ## Ledgers -/

/-- The audience after an operation, before anyone is told of it. -/
def seen (a : Audience) : Operation → Audience
  | .foreground now package => { a with monitor := (a.monitor.seeForeground now package).1 }
  | .snapshot _ s => { a with monitor := a.monitor.seeSnapshot s }
  | .subscribe channel listener reaction =>
    (a.name channel listener reaction).subscribe channel listener
  | .unsubscribe channel listener reaction =>
    (a.name channel listener reaction).unsubscribe channel listener
  | .reset => a.reset

/-- Who will be told of an operation, and what. -/
def owed (a : Audience) : Operation → List (String × Notice)
  | .foreground now package => (a.monitor.seeForeground now package).2.toList.flatMap fun t =>
    a.transitionListeners.map fun listener => (listener, .transition t)
  | .snapshot _ s => s.toList.flatMap fun s =>
    a.snapshotListeners.map fun listener => (listener, .snapshot s)
  | _ => []

/-- An audience, all that happened to it, and what is still to be told of each event. -/
structure Ledger where
  audience : Audience
  past : List Event
  pending : Nat → List (String × Notice)

namespace Ledger

def opened (n : Nat) : Ledger := ⟨{ monitor := { capacity := n } }, [], fun _ => []⟩

def perform (l : Ledger) (op : Operation) : Ledger :=
  ⟨l.audience.seen op, l.past ++ [.done op],
    Function.update l.pending l.past.length (l.audience.owed op)⟩

def tell (l : Ledger) (source : Nat) (listener : String) (notice : Notice)
    (rest : List (String × Notice)) : Ledger :=
  ⟨l.audience.note listener notice, l.past ++ [.told source listener notice],
    Function.update l.pending source rest⟩

/-- What can happen next: any operation, be it that of a listener that was told something, or
the next telling of an observation. A listener may do anything in its turn, and its turn may
end anywhere. -/
inductive Step (l : Ledger) : Ledger → Prop
  | perform (op : Operation) : Step l (l.perform op)
  | tell (source : Nat) (listener : String) (notice : Notice) (rest : List (String × Notice)) :
      l.pending source = (listener, notice) :: rest → Step l (l.tell source listener notice rest)

def Reaches : Ledger → Ledger → Prop := Relation.ReflTransGen Step

theorem Step.reaches {l l' : Ledger} (h : l.Step l') : l.Reaches l' := .single h

theorem Reaches.trans {l l' l'' : Ledger} (h : l.Reaches l') (h' : l'.Reaches l'') :
    l.Reaches l'' := Relation.ReflTransGen.trans h h'

/-- The audience is what the events made of it. What was told of an event and what is still
`pending` are together what is due. -/
structure Balanced (n : Nat) (l : Ledger) : Prop where
  monitor : l.audience.monitor = Monitor.replay { capacity := n } (sightings l.past)
  listeners : ∀ channel, l.audience.listeners channel = registered channel l.past
  told : l.audience.told = tellings l.past
  balanced : ∀ source, tellingsOf source l.past ++ l.pending source = dueAt source l.past

theorem balanced_opened (n : Nat) : (opened n).Balanced n where
  monitor := rfl
  listeners channel := by cases channel <;> rfl
  told := rfl
  balanced _ := rfl

end Ledger

/-! ## What operations change -/

theorem monitor_seen (a : Audience) (op : Operation) :
    (a.seen op).monitor = a.monitor.replay op.sighting?.toList := by
  cases op with
  | foreground now package =>
    rcases foreground_cases now package with ⟨hnone, hignored⟩ | ⟨time, p, named, rfl, rfl, hsome⟩
    · simp [seen, hnone, hignored]
    · rw [hsome]
      rfl
  | snapshot now s => cases s <;> rfl
  | subscribe channel listener reaction =>
    exact (monitor_subscribe _ channel listener).trans (a.monitor_name channel listener reaction)
  | unsubscribe channel listener reaction =>
    exact (monitor_unsubscribe _ channel listener).trans
      (a.monitor_name channel listener reaction)
  | reset => rfl

theorem told_seen (a : Audience) (op : Operation) : (a.seen op).told = a.told := by
  cases op with
  | foreground | snapshot | reset => rfl
  | subscribe channel listener reaction => rw [seen, told_subscribe, told_name]
  | unsubscribe channel listener reaction => rw [seen, told_unsubscribe, told_name]

theorem stands_name {a : Audience} {channel : Channel} {log : List Change}
    (h : a.Stands channel log) (listener : String) (reaction : Reaction) :
    (a.name channel listener reaction).Stands channel log := by
  rw [Stands, listeners_name]
  exact h

/-- The listeners of a channel stand by what an operation asks for about it, if anything. -/
theorem stands_seen {a : Audience} {channel : Channel} {log : List Change}
    (h : a.Stands channel log) (op : Operation) :
    (a.seen op).Stands channel (log ++ (op.change? channel).toList) := by
  cases op with
  | foreground | snapshot | reset =>
    have hlisteners : a.listeners channel = standing log := h
    show _ = standing (log ++ [])
    rw [List.append_nil, ← hlisteners]
    cases channel <;> rfl
  | subscribe other listener reaction =>
    by_cases hsame : other = channel
    · subst hsame
      rw [Operation.change?, if_pos rfl]
      exact (stands_name h listener reaction).subscribe
    · rw [Operation.change?, if_neg hsame, Option.toList_none, List.append_nil, Stands, seen,
        listeners_subscribe_of_ne _ _ hsame, listeners_name]
      exact h
  | unsubscribe other listener reaction =>
    by_cases hsame : other = channel
    · subst hsame
      rw [Operation.change?, if_pos rfl]
      exact (stands_name h listener reaction).unsubscribe
    · rw [Operation.change?, if_neg hsame, Option.toList_none, List.append_nil, Stands, seen,
        listeners_unsubscribe_of_ne _ _ hsame, listeners_name]
      exact h

/-! ## What is due -/

theorem dueAt_of_length_le {source : Nat} {past : List Event} (h : past.length ≤ source) :
    dueAt source past = [] := by
  rw [dueAt, List.getElem?_eq_none h]

theorem dueAt_length_done (past : List Event) (op : Operation) :
    dueAt past.length (past ++ [.done op]) = due past op := by
  rw [dueAt, List.getElem?_concat_length, List.take_left]

/-- What is due does not change later. -/
theorem dueAt_concat {source : Nat} {past : List Event} (h : source ≠ past.length) (e : Event) :
    dueAt source (past ++ [e]) = dueAt source past := by
  rcases Nat.lt_or_gt_of_ne h with hlt | hgt
  · rw [dueAt, dueAt, List.getElem?_append_left hlt, List.take_append_of_le_length hlt.le]
  · rw [dueAt_of_length_le hgt.le, dueAt_of_length_le]
    rw [List.length_append, List.length_singleton]
    exact hgt

theorem dueAt_concat_told (source place : Nat) (past : List Event) (listener : String)
    (notice : Notice) :
    dueAt place (past ++ [.told source listener notice]) = dueAt place past := by
  by_cases hplace : place = past.length
  · subst hplace
    rw [dueAt_of_length_le (le_refl past.length), dueAt, List.getElem?_concat_length]
  · exact dueAt_concat hplace _

/-! ## Balance -/

namespace Ledger

variable {n : Nat} {l l' : Ledger}

/-- Nothing is pending of events to come. -/
theorem Balanced.pending_eq_nil (h : l.Balanced n) : l.pending l.past.length = [] := by
  have hbalanced := h.balanced l.past.length
  rw [dueAt_of_length_le (le_refl l.past.length)] at hbalanced
  exact (List.append_eq_nil_iff.mp hbalanced).2

theorem Balanced.foreground_eq (h : l.Balanced n) :
    l.audience.monitor.foreground = lastNamed l.past := by
  rw [h.monitor]
  exact (Monitor.reflects_replay n (sightings l.past)).foreground

/-- There is a transition to tell of exactly if an observation is news. -/
theorem Balanced.transition_eq (h : l.Balanced n) (now : ClockReading)
    (package : Option Package) :
    (l.audience.monitor.seeForeground now package).2.map Notice.transition =
      news l.past (.foreground now package) := by
  cases now with
  | error f =>
    rw [Monitor.seeForeground_error]
    rfl
  | ok now =>
    cases package with
    | none => rfl
    | some p =>
      rw [news, ← h.foreground_eq]
      cases named : p.isEmpty with
      | true =>
        rw [Monitor.seeForeground_of_isEmpty named, if_pos (.inl rfl)]
        rfl
      | false =>
        by_cases hsame : l.audience.monitor.foreground = some p
        · rw [Monitor.seeForeground_same hsame, if_pos (.inr hsame)]
          rfl
        · rw [Monitor.seeForeground_other named hsame, if_neg (by simp [hsame])]
          rfl

theorem Balanced.owed_eq (h : l.Balanced n) (op : Operation) :
    l.audience.owed op = due l.past op := by
  cases op with
  | foreground now package =>
    rw [due, ← h.transition_eq, owed]
    cases (l.audience.monitor.seeForeground now package).2 with
    | none => rfl
    | some t =>
      have hlisteners : l.audience.transitionListeners = registered .transitions l.past :=
        h.listeners .transitions
      simp [hlisteners, Notice.channel]
  | snapshot now s =>
    cases s with
    | none => rfl
    | some s =>
      have hlisteners : l.audience.snapshotListeners = registered .snapshots l.past :=
        h.listeners .snapshots
      simp [owed, due, news, hlisteners, Notice.channel]
  | subscribe | unsubscribe | reset => rfl

/-- An operation owes what is due for it. -/
theorem Balanced.perform (h : l.Balanced n) (op : Operation) : (l.perform op).Balanced n where
  monitor := by
    have hsightings : sightings (l.past ++ [.done op]) =
        sightings l.past ++ op.sighting?.toList := by
      cases hsighting : op.sighting? <;> simp [sightings, hsighting]
    rw [Ledger.perform, monitor_seen, hsightings, Monitor.replay_append, ← h.monitor]
  listeners channel := by
    have hstands := stands_seen (h.listeners channel) op
    have hchanges : (operations (l.past ++ [.done op])).filterMap (Operation.change? channel) =
        (operations l.past).filterMap (Operation.change? channel) ++
          (op.change? channel).toList := by
      cases hchange : op.change? channel <;> simp [hchange]
    rw [Ledger.perform, registered, hchanges]
    exact hstands
  told := by
    rw [Ledger.perform, told_seen, h.told]
    simp [tellings, Event.telling?]
  balanced source := by
    have htellings : tellingsOf source (l.past ++ [.done op]) = tellingsOf source l.past := by
      simp [tellingsOf, Event.tellingOf?]
    have hbalanced := h.balanced source
    show tellingsOf source (l.past ++ [.done op]) ++
      Function.update l.pending l.past.length (l.audience.owed op) source =
        dueAt source (l.past ++ [.done op])
    rw [htellings, h.owed_eq]
    by_cases hsource : source = l.past.length
    · subst hsource
      rw [dueAt_of_length_le (le_refl l.past.length)] at hbalanced
      rw [(List.append_eq_nil_iff.mp hbalanced).1, Function.update_self, dueAt_length_done,
        List.nil_append]
    · rw [Function.update_of_ne hsource, dueAt_concat hsource, hbalanced]

/-- Telling a listener pays a part of what is due. -/
theorem Balanced.tell (h : l.Balanced n) {source : Nat} {listener : String} {notice : Notice}
    {rest : List (String × Notice)} (hpending : l.pending source = (listener, notice) :: rest) :
    (l.tell source listener notice rest).Balanced n where
  monitor := by
    rw [Ledger.tell, sightings, operations_concat_told]
    exact h.monitor
  listeners channel := by
    rw [Ledger.tell, registered, operations_concat_told, ← registered, ← h.listeners channel]
    cases channel <;> rfl
  told := by
    rw [Ledger.tell, Audience.note, h.told]
    simp [tellings, Event.telling?]
  balanced place := by
    show tellingsOf place (l.past ++ [.told source listener notice]) ++
      Function.update l.pending source rest place =
        dueAt place (l.past ++ [.told source listener notice])
    rw [dueAt_concat_told, ← h.balanced place]
    by_cases hplace : place = source
    · subst hplace
      rw [Function.update_self, hpending]
      simp [tellingsOf, Event.tellingOf?]
    · have hother : ¬source = place := fun heq => hplace heq.symm
      rw [Function.update_of_ne hplace]
      simp [tellingsOf, Event.tellingOf?, hother]

theorem Balanced.step (h : l.Balanced n) (hstep : l.Step l') : l'.Balanced n := by
  cases hstep with
  | perform op => exact h.perform op
  | tell source listener notice rest hpending => exact h.tell hpending

theorem Balanced.reaches (h : l.Balanced n) (hrun : l.Reaches l') : l'.Balanced n := by
  induction hrun with
  | refl => exact h
  | tail _ hstep ih => exact ih.step hstep

/-- More events, and no debts but those of before. -/
def extend (l : Ledger) (a : Audience) (more : List Event) : Ledger :=
  ⟨a, l.past ++ more, l.pending⟩

theorem reaches_extend_nil (l : Ledger) : l.Reaches (l.extend l.audience []) := by
  rw [extend, List.append_nil]
  exact .refl

theorem length_extend (l : Ledger) (a : Audience) (more : List Event) :
    (l.extend a more).past.length = l.past.length + more.length := List.length_append

theorem extend_extend (l : Ledger) (a b : Audience) (first second : List Event) :
    (l.extend a first).extend b second = l.extend b (first ++ second) := by
  rw [extend, extend, List.append_assoc]
  rfl

/-- An operation that nobody is told of. -/
theorem Balanced.reaches_perform (h : l.Balanced n) (op : Operation)
    (howed : l.audience.owed op = []) : l.Reaches (l.extend (l.audience.seen op) [.done op]) := by
  have hperform : l.perform op = l.extend (l.audience.seen op) [.done op] := by
    rw [Ledger.perform, howed, ← h.pending_eq_nil, Function.update_eq_self]
    rfl
  rw [← hperform]
  exact (Step.perform op).reaches

end Ledger

/-! ## What listeners do -/

/-- How listeners make observations, and the events of an observation that starts at a place. -/
structure Observer where
  observe : Option Package → Audience → Audience
  events : Nat → Option Package → Audience → List Event

namespace Observer

/-- What a listener does that was told just before `place`. -/
def reactEvents (o : Observer) (channel : Channel) (listener : String) (place : Nat)
    (a : Audience) : List Event :=
  match a.reaction channel listener with
  | .nothing | .fail => []
  | .reset => [.done .reset]
  | .observe package => o.events place package a
  | .subscribe other => [.done (.subscribe channel other .nothing)]
  | .unsubscribe other => [.done (.unsubscribe channel other .nothing)]

/-- Each listener is told and takes its turn. -/
def tellEvents (o : Observer) (channel : Channel) (notice : Notice) (source : Nat) :
    Nat → List String → Audience → List Event
  | _, [], _ => []
  | place, listener :: listeners, a =>
    let turn := .told source listener notice ::
      o.reactEvents channel listener (place + 1) (a.note listener notice)
    turn ++ o.tellEvents channel notice source (place + turn.length) listeners
      (react o.observe channel listener (a.note listener notice))

def foregroundEvents (o : Observer) (now : ClockReading) (place : Nat) (package : Option Package)
    (a : Audience) : List Event :=
  .done (.foreground now package) ::
    match a.monitor.seeForeground now package with
    | (_, none) => []
    | (m, some t) =>
      o.tellEvents .transitions (.transition t) place (place + 1) a.transitionListeners
        { a with monitor := m }

/-- Observations nested at most so deep. One that is nested deeper does not happen. -/
def nested : Nat → ClockReading → Observer
  | 0, now => ⟨seeForeground 0 now, foregroundEvents ⟨fun _ a => a, fun _ _ _ => []⟩ now⟩
  | depth + 1, now => ⟨seeForeground (depth + 1) now, (nested depth now).foregroundEvents now⟩

end Observer

/-- The events of an operation, its own first. -/
def applyEvents (place : Nat) (a : Audience) : Operation → List Event
  | .foreground now package => (Observer.nested depthLimit now).events place package a
  | .snapshot now s => .done (.snapshot now s) ::
    match s with
    | none => []
    | some s =>
      (Observer.nested depthLimit now).tellEvents .snapshots (.snapshot s) place (place + 1)
        a.snapshotListeners { a with monitor := a.monitor.seeSnapshot (some s) }
  | op => [.done op]

def runEvents (place : Nat) (a : Audience) : List Operation → List Event
  | [] => []
  | op :: ops =>
    let first := applyEvents place a op
    first ++ runEvents (place + first.length) (a.apply op) ops

/-- All that happens while inputs reach a monitor. -/
def events (a : Audience) (inputs : List Input) : List Event :=
  runEvents 0 a (inputs.map Input.toOperation)

namespace Observer

/-- Observations are made in a ledger's steps, and leave no debts of their own. -/
def Keeps (o : Observer) : Prop :=
  ∀ (n : Nat) (l : Ledger) (package : Option Package), l.Balanced n →
    l.Reaches (l.extend (o.observe package l.audience) (o.events l.past.length package l.audience))

variable {o : Observer} {n : Nat} {l : Ledger}

theorem Keeps.react (ho : o.Keeps) (h : l.Balanced n) (channel : Channel) (listener : String) :
    l.Reaches (l.extend (Audience.react o.observe channel listener l.audience)
      (o.reactEvents channel listener l.past.length l.audience)) := by
  unfold Audience.react reactEvents
  cases l.audience.reaction channel listener with
  | nothing => exact l.reaches_extend_nil
  | fail => exact l.reaches_extend_nil
  | reset => exact h.reaches_perform .reset rfl
  | observe package => exact ho n l package h
  | subscribe other => exact h.reaches_perform (.subscribe channel other .nothing) rfl
  | unsubscribe other => exact h.reaches_perform (.unsubscribe channel other .nothing) rfl

/-- When all listeners are told, nothing is pending of what they are told of. -/
theorem Keeps.tell (ho : o.Keeps) (h : l.Balanced n) (channel : Channel) {notice : Notice}
    {source : Nat} {listeners : List String}
    (hpending : l.pending source = listeners.map fun listener => (listener, notice)) :
    l.Reaches ⟨Audience.tell o.observe channel notice listeners l.audience,
      l.past ++ o.tellEvents channel notice source l.past.length listeners l.audience,
      Function.update l.pending source []⟩ := by
  induction listeners generalizing l with
  | nil =>
    have hnone : l.pending source = [] := hpending
    rw [← hnone, Function.update_eq_self]
    exact l.reaches_extend_nil
  | cons listener listeners ih =>
    have htold := (Ledger.Step.tell source listener notice _ hpending).reaches
    have hreact := ho.react (h.reaches htold) channel listener
    have hturn := htold.trans hreact
    have hrest := ih (h.reaches hturn) (Function.update_self source _ l.pending)
    have hrun := hturn.trans hrest
    simpa [tellEvents, Audience.tell, Ledger.tell, Ledger.extend, Nat.add_assoc,
      Nat.add_comm 1] using hrun

/-- An operation that owes something to listeners is paid for when they are told. -/
theorem Keeps.deliver (ho : o.Keeps) (h : l.Balanced n) (channel : Channel) {op : Operation}
    {notice : Notice} {listeners : List String}
    (howed : l.audience.owed op = listeners.map fun listener => (listener, notice)) :
    l.Reaches (l.extend (Audience.tell o.observe channel notice listeners (l.audience.seen op))
      (.done op :: o.tellEvents channel notice l.past.length (l.past.length + 1) listeners
        (l.audience.seen op))) := by
  have hperform := (Ledger.Step.perform (l := l) op).reaches
  have hpending : (l.perform op).pending l.past.length =
      listeners.map fun listener => (listener, notice) := by
    rw [← howed]
    exact Function.update_self _ _ _
  have hrun := hperform.trans (ho.tell (h.perform op) channel hpending)
  simpa [Ledger.perform, Ledger.extend, ← h.pending_eq_nil] using hrun

theorem Keeps.foreground (ho : o.Keeps) (h : l.Balanced n) (now : ClockReading)
    (package : Option Package) :
    l.Reaches (l.extend (seeForegroundWith o.observe now package l.audience)
      (o.foregroundEvents now l.past.length package l.audience)) := by
  have hsame := l.audience.monitor.seeForeground_fst_of_snd_eq_none now package
  have howed : l.audience.owed (.foreground now package) =
      (l.audience.monitor.seeForeground now package).2.toList.flatMap fun t =>
        l.audience.transitionListeners.map fun listener => (listener, .transition t) := rfl
  have hseen : l.audience.seen (.foreground now package) = { l.audience with
      monitor := (l.audience.monitor.seeForeground now package).1 } := rfl
  unfold seeForegroundWith foregroundEvents
  generalize l.audience.monitor.seeForeground now package = after at hsame howed hseen ⊢
  obtain ⟨m, t⟩ := after
  cases t with
  | none =>
    obtain rfl : m = l.audience.monitor := hsame rfl
    have hperform := h.reaches_perform _ howed
    rw [hseen] at hperform
    exact hperform
  | some t =>
    rw [Option.toList_some, List.flatMap_singleton] at howed
    have hdeliver := ho.deliver h .transitions howed
    rw [hseen] at hdeliver
    exact hdeliver

theorem observe_nested (depth : Nat) (now : ClockReading) :
    (nested depth now).observe = Audience.seeForeground depth now := by cases depth <;> rfl

theorem keeps_nested (depth : Nat) (now : ClockReading) : (nested depth now).Keeps := by
  induction depth with
  | zero =>
    -- the bottom makes no observations any more
    have hbottom : Keeps ⟨fun _ a => a, fun _ _ _ => []⟩ := fun _ l _ _ => l.reaches_extend_nil
    intro n l package h
    exact hbottom.foreground h now package
  | succ depth ih =>
    intro n l package h
    have hforeground := ih.foreground h now package
    rw [observe_nested] at hforeground
    exact hforeground

end Observer

variable {n : Nat} {l : Ledger}

theorem Ledger.Balanced.reaches_apply (h : l.Balanced n) (op : Operation) :
    l.Reaches (l.extend (l.audience.apply op) (applyEvents l.past.length l.audience op)) := by
  have ho (now : ClockReading) := Observer.keeps_nested depthLimit now
  cases op with
  | foreground now package =>
    have hobserve := ho now n l package h
    rw [Observer.observe_nested] at hobserve
    exact hobserve
  | snapshot now s =>
    cases s with
    | none => exact h.reaches_perform (.snapshot now none) rfl
    | some s =>
      have howed : l.audience.owed (.snapshot now (some s)) =
          l.audience.snapshotListeners.map fun listener => (listener, .snapshot s) :=
        List.append_nil _
      have hdeliver := (ho now).deliver h .snapshots howed
      rw [Observer.observe_nested] at hdeliver
      exact hdeliver
  | subscribe channel listener reaction =>
    exact h.reaches_perform (.subscribe channel listener reaction) rfl
  | unsubscribe channel listener reaction =>
    exact h.reaches_perform (.unsubscribe channel listener reaction) rfl
  | reset => exact h.reaches_perform .reset rfl

theorem Ledger.Balanced.reaches_run (h : l.Balanced n) (ops : List Operation) :
    l.Reaches (l.extend (l.audience.run ops) (runEvents l.past.length l.audience ops)) := by
  induction ops generalizing l with
  | nil => exact l.reaches_extend_nil
  | cons op ops ih =>
    have hop := h.reaches_apply op
    have hrest := ih (h.reaches hop)
    rw [extend_extend] at hrest
    have hrun := hop.trans hrest
    rw [Ledger.length_extend] at hrun
    exact hrun

/-- What a monitor does with what it is given makes up such steps, after which no debt is left. -/
theorem reaches_attend (n : Nat) (inputs : List Input) :
    let a : Audience := { monitor := { capacity := n } }
    (Ledger.opened n).Reaches ⟨a.attend inputs, a.events inputs, fun _ => []⟩ := by
  intro a
  rw [attend_eq_run]
  exact (Ledger.balanced_opened n).reaches_run (inputs.map Input.toOperation)

/-! ## Whatever listeners do -/

/-- Nobody is told twice of the same event. -/
theorem nodup_dueAt (source : Nat) (events : List Event) : (dueAt source events).Nodup := by
  unfold dueAt
  split
  case h_1 op _ =>
    rw [due]
    cases news (events.take source) op with
    | none => exact .nil
    | some notice =>
      rw [Option.toList_some, List.flatMap_singleton]
      exact (nodup_standing _).map fun _ _ heq => (Prod.mk.inj heq).1
  case h_2 => exact .nil

theorem applyEvents_eq_cons (place : Nat) (a : Audience) (op : Operation) :
    ∃ others, applyEvents place a op = .done op :: others := by
  cases op with
  | snapshot now s => cases s <;> exact ⟨_, rfl⟩
  | _ => exact ⟨_, rfl⟩

/-- All operations happen, with those of listeners in between. -/
theorem sublist_operations_runEvents (place : Nat) (a : Audience) (ops : List Operation) :
    ops.Sublist (operations (runEvents place a ops)) := by
  induction ops generalizing place a with
  | nil => exact .slnil
  | cons op ops ih =>
    obtain ⟨others, hothers⟩ := applyEvents_eq_cons place a op
    have hrest := ih (place + (applyEvents place a op).length) (a.apply op)
    have hsplit : operations (runEvents place a (op :: ops)) =
        op :: (operations others ++
          operations (runEvents (place + (applyEvents place a op).length) (a.apply op) ops)) := by
      simp [runEvents, hothers, operations, Event.operation?]
    rw [hsplit]
    exact (hrest.trans (List.sublist_append_right _ _)).cons_cons op

/-- Whoever does what at a monitor, also in the turn of a listener or instead of the rest of it,
those who are told of an observation are the listeners of its channel at that moment, each once
and in order, and nobody is told of anything else. Registrations change by joining and leaving
only, and asking for what is the case already changes nothing. What a monitor does with what it
is given is such a course of events, and leaves nobody to be told. -/
theorem told_those_registered (n : Nat) :
    (∀ inputs : List Input,
      let a : Audience := { monitor := { capacity := n } }
      (Ledger.opened n).Reaches ⟨a.attend inputs, a.events inputs, fun _ => []⟩ ∧
        (∀ source, tellingsOf source (a.events inputs) = dueAt source (a.events inputs)) ∧
        (inputs.map Input.toOperation).Sublist (operations (a.events inputs))) ∧
    ∀ l, (Ledger.opened n).Reaches l →
      l.audience.told = tellings l.past ∧
        l.audience.monitor = Monitor.replay { capacity := n } (sightings l.past) ∧
        (∀ source, tellingsOf source l.past ++ l.pending source = dueAt source l.past ∧
          (dueAt source l.past).Nodup) ∧
        ∀ channel, l.audience.listeners channel = registered channel l.past ∧
          (l.audience.listeners channel).Nodup ∧
          l.audience.reset.listeners channel = l.audience.listeners channel ∧
          ∀ listener,
            (listener ∈ l.audience.listeners channel →
              l.audience.subscribe channel listener = l.audience) ∧
            (listener ∉ l.audience.listeners channel →
              l.audience.unsubscribe channel listener = l.audience) := by
  have hbalanced {l : Ledger} (hrun : (Ledger.opened n).Reaches l) : l.Balanced n :=
    (Ledger.balanced_opened n).reaches hrun
  constructor
  · intro inputs a
    have hrun := reaches_attend n inputs
    refine ⟨hrun, fun source => ?_, sublist_operations_runEvents 0 a _⟩
    exact (List.append_nil _).symm.trans ((hbalanced hrun).balanced source)
  · intro l hrun
    have h := hbalanced hrun
    refine ⟨h.told, h.monitor, fun source => ⟨h.balanced source, nodup_dueAt source l.past⟩, ?_⟩
    intro channel
    refine ⟨h.listeners channel, ?_, by cases channel <;> rfl, fun listener =>
      ⟨l.audience.subscribe_of_mem channel listener,
        l.audience.unsubscribe_of_not_mem channel listener⟩⟩
    rw [h.listeners channel]
    exact nodup_standing _

/-- The first listener fails, the second one sends the first away and the third one brings in
another, and all three are told. -/
theorem three_listeners_told :
    let home (now : Int) : Input := .value (.ok now) (.data (.text "home"))
    let inputs : List Input := [
      .operation (.subscribe .transitions "first" .fail),
      .operation (.subscribe .transitions "second" (.unsubscribe "first")),
      .operation (.subscribe .transitions "third" (.subscribe "fourth")),
      home 1, home 2, .operation .reset, home 3]
    let a : Audience := { monitor := { capacity := 1 } }
    let b := a.attend inputs
    (Ledger.opened 1).Reaches ⟨b, a.events inputs, fun _ => []⟩ ∧
      b.listeners .transitions = ["second", "third", "fourth"] ∧
      b.listeners .transitions = registered .transitions (a.events inputs) ∧
      tellings (a.events inputs) = [
        ("first", .transition ⟨none, "home", 1⟩), ("second", .transition ⟨none, "home", 1⟩),
        ("third", .transition ⟨none, "home", 1⟩), ("second", .transition ⟨none, "home", 3⟩),
        ("third", .transition ⟨none, "home", 3⟩), ("fourth", .transition ⟨none, "home", 3⟩)] := by
  intro home inputs a b
  obtain ⟨hinputs, hledgers⟩ := told_those_registered 1
  obtain ⟨hrun, -, -⟩ := hinputs inputs
  obtain ⟨-, -, -, hlisteners⟩ := hledgers _ hrun
  have hnow := (hlisteners .transitions).1
  dsimp only at hnow
  exact ⟨hrun, by decide +kernel, hnow, by decide +kernel⟩

end GestureScript.Audience
