import GestureScript.Monitor.Basic

/-!
# Listeners

Transitions and snapshots are told to listeners, each on a channel of its own. A
listener has a name, notes what it is told, and may then act on the monitor. The
listeners that are told of a change are those that were subscribed at the change.
-/

set_option autoImplicit false

namespace GestureScript

inductive Channel where
  | transitions
  | snapshots
  deriving DecidableEq, Repr

/-- What a listener does after it noted what it was told. -/
inductive Reaction where
  | nothing
  | fail
  | reset
  | observe (package : Option Package)
  | subscribe (name : String)
  | unsubscribe (name : String)
  deriving DecidableEq, Repr

inductive Notice where
  | transition (t : Transition)
  | snapshot (s : Snapshot)
  deriving DecidableEq, Repr

/-- A monitor with its listeners. The reaction of a listener is fixed when it is
first named. `told` is what the listeners noted, in order. -/
structure Audience where
  monitor : Monitor
  transitionListeners : List String := []
  snapshotListeners : List String := []
  reactions : List ((Channel × String) × Reaction) := []
  told : List (String × Notice) := []

namespace Audience

def listeners (a : Audience) : Channel → List String
  | .transitions => a.transitionListeners
  | .snapshots => a.snapshotListeners

def withListeners (a : Audience) (names : List String) : Channel → Audience
  | .transitions => { a with transitionListeners := names }
  | .snapshots => { a with snapshotListeners := names }

/-- Fix the reaction of a listener, unless it was named before. -/
def name (a : Audience) (channel : Channel) (listener : String) (reaction : Reaction) : Audience :=
  match a.reactions.lookup (channel, listener) with
  | some _ => a
  | none => { a with reactions := a.reactions ++ [((channel, listener), reaction)] }

def reaction (a : Audience) (channel : Channel) (listener : String) : Reaction :=
  (a.reactions.lookup (channel, listener)).getD .nothing

/-- Subscribe a listener at the end, unless it is subscribed. -/
def subscribe (a : Audience) (channel : Channel) (listener : String) : Audience :=
  if listener ∈ a.listeners channel then a
  else a.withListeners (a.listeners channel ++ [listener]) channel

def unsubscribe (a : Audience) (channel : Channel) (listener : String) : Audience :=
  a.withListeners ((a.listeners channel).erase listener) channel

def reset (a : Audience) : Audience := { a with monitor := a.monitor.reset }

def note (a : Audience) (listener : String) (notice : Notice) : Audience :=
  { a with told := a.told ++ [(listener, notice)] }

/-- What a listener does to the monitor; `observe` is how it makes an observation. -/
def react (observe : Option Package → Audience → Audience) (channel : Channel)
    (listener : String) (a : Audience) : Audience :=
  match a.reaction channel listener with
  | .nothing => a
  | .fail => a
  | .reset => a.reset
  | .observe package => observe package a
  | .subscribe other => (a.name channel other .nothing).subscribe channel other
  | .unsubscribe other => (a.name channel other .nothing).unsubscribe channel other

/-- Tell listeners one after the other. One that fails does not keep the others
from being told. -/
def tell (observe : Option Package → Audience → Audience) (channel : Channel) (notice : Notice)
    (listeners : List String) (a : Audience) : Audience :=
  listeners.foldl (fun a listener => react observe channel listener (a.note listener notice)) a

/-- Take note of the application in the foreground, and tell of a transition. -/
def seeForegroundWith (observe : Option Package → Audience → Audience) (now : ClockReading)
    (package : Option Package) (a : Audience) : Audience :=
  match a.monitor.seeForeground now package with
  | (_, none) => a
  | (m, some t) =>
    tell observe .transitions (.transition t) a.transitionListeners { a with monitor := m }

/-- Observations that listeners make while they are told are nested at most as deep
as the first argument says. -/
def seeForeground : Nat → ClockReading → Option Package → Audience → Audience
  | 0, now, package, a => seeForegroundWith (fun _ a => a) now package a
  | depth + 1, now, package, a => seeForegroundWith (seeForeground depth now) now package a

def depthLimit : Nat := 100

def seeSnapshot (now : ClockReading) (snapshot : Option Snapshot) (a : Audience) : Audience :=
  match snapshot with
  | none => a
  | some s =>
    tell (seeForeground depthLimit now) .snapshots (.snapshot s) a.snapshotListeners
      { a with monitor := a.monitor.seeSnapshot (some s) }

/-- What can happen to a monitor with listeners. -/
inductive Operation where
  | foreground (now : ClockReading) (package : Option Package)
  | snapshot (now : ClockReading) (snapshot : Option Snapshot)
  | subscribe (channel : Channel) (listener : String) (reaction : Reaction)
  | unsubscribe (channel : Channel) (listener : String) (reaction : Reaction)
  | reset

def apply (a : Audience) : Operation → Audience
  | .foreground now package => a.seeForeground depthLimit now package
  | .snapshot now s => a.seeSnapshot now s
  | .subscribe channel listener reaction =>
    (a.name channel listener reaction).subscribe channel listener
  | .unsubscribe channel listener reaction =>
    (a.name channel listener reaction).unsubscribe channel listener
  | .reset => a.reset

def run (a : Audience) (operations : List Operation) : Audience := operations.foldl apply a

end Audience

end GestureScript
