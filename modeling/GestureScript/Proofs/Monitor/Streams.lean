import GestureScript.Monitor.Input
import GestureScript.Proofs.Monitor.Quiet

/-!
# Two streams of observations

Snapshots and names of applications arrive on a stream each, and the streams come together
in any order. A snapshot and a name that arrive next to each other may change places: the
monitor ends up the same, and each listener is told the same. So all snapshots may as well
arrive before all names, or after them.
-/

set_option autoImplicit false

namespace GestureScript

def Notice.channel : Notice → Channel
  | .transition _ => .transitions
  | .snapshot _ => .snapshots

namespace Monitor

/-! ## The fields that a stream changes -/

variable (m : Monitor) (s : Option Snapshot) (now : ClockReading) (package : Option Package)

theorem screen_seeForeground :
    (m.seeForeground now package).1.snapshot = m.snapshot ∧
      (m.seeForeground now package).1.history = m.history := by
  rcases Audience.foreground_cases now package with
    ⟨-, hignored⟩ | ⟨time, p, named, rfl, rfl, -⟩
  · rw [hignored]
    exact ⟨rfl, rfl⟩
  · by_cases hsame : m.foreground = some p
    · rw [seeForeground_same hsame]
      exact ⟨rfl, rfl⟩
    · rw [seeForeground_other named hsame]
      exact ⟨rfl, rfl⟩

theorem front_seeSnapshot :
    (m.seeSnapshot s).foreground = m.foreground ∧
      (m.seeSnapshot s).lastTransition = m.lastTransition := by
  cases s <;> exact ⟨rfl, rfl⟩

/-- A transition does not depend on what is on the screen, nor the other way round. -/
theorem seeForeground_seeSnapshot :
    (m.seeSnapshot s).seeForeground now package =
      ((m.seeForeground now package).1.seeSnapshot s, (m.seeForeground now package).2) := by
  cases s with
  | none => rfl
  | some s =>
    rcases Audience.foreground_cases now package with
      ⟨-, hignored⟩ | ⟨time, p, named, rfl, rfl, -⟩
    · rw [hignored, hignored]
    · by_cases hsame : m.foreground = some p
      · rw [seeForeground_same hsame,
          seeForeground_same (m := m.seeSnapshot (some s)) hsame]
      · rw [seeForeground_other named hsame,
          seeForeground_other (m := m.seeSnapshot (some s)) named hsame]
        rfl

end Monitor

namespace Audience

/-- What a listener on a channel was told. -/
def received (channel : Channel) (listener : String) (a : Audience) : List Notice :=
  a.told.filterMap fun (name, notice) =>
    if name = listener ∧ notice.channel = channel then some notice else none

/-- The audiences differ at most in how the two channels took turns. -/
structure Agree (a b : Audience) : Prop where
  monitor : a.monitor = b.monitor
  transitionListeners : a.transitionListeners = b.transitionListeners
  snapshotListeners : a.snapshotListeners = b.snapshotListeners
  reactions : a.reactions = b.reactions
  received : ∀ channel listener, a.received channel listener = b.received channel listener

theorem Agree.refl (a : Audience) : a.Agree a := ⟨rfl, rfl, rfl, rfl, fun _ _ => rfl⟩

theorem Agree.symm {a b : Audience} (h : a.Agree b) : b.Agree a :=
  ⟨h.monitor.symm, h.transitionListeners.symm, h.snapshotListeners.symm, h.reactions.symm,
    fun channel listener => (h.received channel listener).symm⟩

theorem Agree.trans {a b c : Audience} (h₁ : a.Agree b) (h₂ : b.Agree c) : a.Agree c :=
  ⟨h₁.monitor.trans h₂.monitor, h₁.transitionListeners.trans h₂.transitionListeners,
    h₁.snapshotListeners.trans h₂.snapshotListeners, h₁.reactions.trans h₂.reactions,
    fun channel listener => (h₁.received channel listener).trans (h₂.received channel listener)⟩

theorem Agree.quiet {a b : Audience} (h : a.Agree b) (ha : a.Quiet) : b.Quiet := by
  intro channel listener
  rw [reaction, ← h.reactions]
  exact ha channel listener

/-! ## Being told more -/

/-- The monitor is in another state, and listeners were told more. -/
def moved (a : Audience) (m : Monitor) (more : List (String × Notice)) : Audience :=
  { a with monitor := m, told := a.told ++ more }

theorem moved_moved (a : Audience) (m m' : Monitor) (first second : List (String × Notice)) :
    (a.moved m first).moved m' second = a.moved m' (first ++ second) := by
  simp [moved]

/-- The part of some notices that a listener on a channel is told. -/
def share (channel : Channel) (listener : String) (more : List (String × Notice)) : List Notice :=
  more.filterMap fun (name, notice) =>
    if name = listener ∧ notice.channel = channel then some notice else none

theorem received_moved (a : Audience) (m : Monitor) (more : List (String × Notice))
    (channel : Channel) (listener : String) :
    (a.moved m more).received channel listener =
      a.received channel listener ++ share channel listener more := List.filterMap_append

theorem share_append (channel : Channel) (listener : String)
    (first second : List (String × Notice)) :
    share channel listener (first ++ second) =
      share channel listener first ++ share channel listener second := List.filterMap_append

/-- Nothing is shared of what is told on other channels. -/
theorem share_eq_nil {channel : Channel} (listener : String) (more : List (String × Notice))
    (h : ∀ t ∈ more, t.2.channel ≠ channel) : share channel listener more = [] := by
  apply List.filterMap_eq_nil_iff.mpr
  intro t ht
  simp [h t ht]

theorem Agree.moved {a b : Audience} (h : a.Agree b) (m : Monitor)
    (more : List (String × Notice)) : (a.moved m more).Agree (b.moved m more) where
  monitor := rfl
  transitionListeners := h.transitionListeners
  snapshotListeners := h.snapshotListeners
  reactions := h.reactions
  received channel listener := by rw [received_moved, received_moved, h.received]

/-- The order in which notices of two channels are told makes no difference. -/
theorem agree_moved_append (a : Audience) (m : Monitor) {shots names : List (String × Notice)}
    (hshots : ∀ t ∈ shots, t.2.channel = .snapshots)
    (hnames : ∀ t ∈ names, t.2.channel = .transitions) :
    (a.moved m (shots ++ names)).Agree (a.moved m (names ++ shots)) := by
  refine ⟨rfl, rfl, rfl, rfl, ?_⟩
  intro channel listener
  rw [received_moved, received_moved, share_append, share_append]
  cases channel with
  | transitions =>
    rw [share_eq_nil listener shots fun t ht => by simp [hshots t ht]]
    simp
  | snapshots =>
    rw [share_eq_nil listener names fun t ht => by simp [hnames t ht]]
    simp

/-! ## One arrival -/

/-- A snapshot arrives, or something that is none. -/
def Input.ofShot (x : ClockReading × Option Snapshot) : Input := .operation (.snapshot x.1 x.2)

/-- The name of an application arrives, or something that is none. -/
def Input.ofName (x : ClockReading × Passed) : Input := .value x.1 x.2

def shotNotices (a : Audience) (s : Option Snapshot) : List (String × Notice) :=
  s.toList.flatMap fun s => a.snapshotListeners.map fun listener => (listener, .snapshot s)

def nameNotices (a : Audience) (t : Option Transition) : List (String × Notice) :=
  t.toList.flatMap fun t => a.transitionListeners.map fun listener => (listener, .transition t)

theorem channel_shotNotices (a : Audience) (s : Option Snapshot) :
    ∀ t ∈ a.shotNotices s, t.2.channel = .snapshots := by
  cases s <;> simp [shotNotices, Notice.channel]

theorem channel_nameNotices (a : Audience) (t : Option Transition) :
    ∀ n ∈ a.nameNotices t, n.2.channel = .transitions := by
  cases t <;> simp [nameNotices, Notice.channel]

theorem Quiet.give_ofShot {a : Audience} (h : a.Quiet) (x : ClockReading × Option Snapshot) :
    a.give (.ofShot x) = a.moved (a.monitor.seeSnapshot x.2) (a.shotNotices x.2) := by
  obtain ⟨now, s⟩ := x
  cases s with
  | none =>
    show a = a.moved a.monitor []
    simp [Audience.moved]
  | some s =>
    have hquiet : Quiet { a with monitor := a.monitor.seeSnapshot (some s) } := h
    rw [show a.give (.ofShot (now, some s)) = _ from hquiet.tell _ _ _]
    simp [Audience.moved, shotNotices]

theorem Quiet.give_ofName {a : Audience} (h : a.Quiet) (x : ClockReading × Passed) :
    a.give (.ofName x) = a.moved (a.monitor.seeForeground x.1 x.2.package?).1
      (a.nameNotices (a.monitor.seeForeground x.1 x.2.package?).2) := by
  rw [give_eq_apply]
  exact h.seeForeground depthLimit x.1 x.2.package?

theorem Quiet.moved {a : Audience} (h : a.Quiet) (m : Monitor) (more : List (String × Notice)) :
    (a.moved m more).Quiet := h

/-- An input is an arrival on one of the streams. -/
inductive Input.IsArrival : Input → Prop
  | shot (x : ClockReading × Option Snapshot) : IsArrival (.ofShot x)
  | name (x : ClockReading × Passed) : IsArrival (.ofName x)

theorem Quiet.give {a : Audience} (h : a.Quiet) {i : Input} (hi : i.IsArrival) :
    (a.give i).Quiet := by
  cases hi with
  | shot x => rw [h.give_ofShot]; exact h.moved _ _
  | name x => rw [h.give_ofName]; exact h.moved _ _

/-- Audiences that agree take an arrival in the same way. -/
theorem Agree.give {a b : Audience} (h : a.Agree b) (ha : a.Quiet) {i : Input}
    (hi : i.IsArrival) : (a.give i).Agree (b.give i) := by
  have hb := h.quiet ha
  cases hi with
  | shot x =>
    have hnotices : a.shotNotices x.2 = b.shotNotices x.2 := by
      rw [shotNotices, shotNotices, h.snapshotListeners]
    rw [ha.give_ofShot, hb.give_ofShot, h.monitor, hnotices]
    exact h.moved _ _
  | name x =>
    have hnotices : ∀ t, a.nameNotices t = b.nameNotices t := by
      intro t
      rw [nameNotices, nameNotices, h.transitionListeners]
    rw [ha.give_ofName, hb.give_ofName, h.monitor, hnotices]
    exact h.moved _ _

/-- A snapshot and a name that arrive next to each other may change places. -/
theorem Quiet.give_comm {a : Audience} (h : a.Quiet) (x : ClockReading × Option Snapshot)
    (y : ClockReading × Passed) :
    ((a.give (.ofShot x)).give (.ofName y)).Agree ((a.give (.ofName y)).give (.ofShot x)) := by
  have hshot := h.moved (a.monitor.seeSnapshot x.2) (a.shotNotices x.2)
  have hname := h.moved (a.monitor.seeForeground y.1 y.2.package?).1
    (a.nameNotices (a.monitor.seeForeground y.1 y.2.package?).2)
  rw [h.give_ofShot, h.give_ofName, hshot.give_ofName, hname.give_ofShot, moved_moved, moved_moved]
  -- the listeners of one channel are the same before and after an arrival on the other
  show (a.moved ((a.monitor.seeSnapshot x.2).seeForeground y.1 y.2.package?).1 (a.shotNotices x.2 ++
    a.nameNotices ((a.monitor.seeSnapshot x.2).seeForeground y.1 y.2.package?).2)).Agree _
  rw [Monitor.seeForeground_seeSnapshot]
  exact agree_moved_append a _ (a.channel_shotNotices _) (a.channel_nameNotices _)

/-! ## All arrivals -/

/-- The inputs are what arrives on two streams, in the order of each. -/
inductive Merge :
    List (ClockReading × Option Snapshot) → List (ClockReading × Passed) → List Input → Prop
  | nil : Merge [] [] []
  | shot {shots names inputs} (x : ClockReading × Option Snapshot) : Merge shots names inputs →
      Merge (x :: shots) names (.ofShot x :: inputs)
  | name {shots names inputs} (y : ClockReading × Passed) : Merge shots names inputs →
      Merge shots (y :: names) (.ofName y :: inputs)

theorem attend_cons (a : Audience) (i : Input) (inputs : List Input) :
    a.attend (i :: inputs) = (a.give i).attend inputs := rfl

theorem attend_append (a : Audience) (first second : List Input) :
    a.attend (first ++ second) = (a.attend first).attend second := List.foldl_append

theorem isArrival_ofShots (shots : List (ClockReading × Option Snapshot)) :
    ∀ i ∈ shots.map Input.ofShot, i.IsArrival := by
  intro i hi
  obtain ⟨x, _, rfl⟩ := List.mem_map.mp hi
  exact .shot x

theorem isArrival_ofNames (names : List (ClockReading × Passed)) :
    ∀ i ∈ names.map Input.ofName, i.IsArrival := by
  intro i hi
  obtain ⟨y, _, rfl⟩ := List.mem_map.mp hi
  exact .name y

theorem Quiet.attend {a : Audience} (h : a.Quiet) {inputs : List Input}
    (hinputs : ∀ i ∈ inputs, i.IsArrival) : (a.attend inputs).Quiet := by
  induction inputs generalizing a with
  | nil => exact h
  | cons i inputs ih =>
    obtain ⟨hi, hinputs⟩ := List.forall_mem_cons.mp hinputs
    exact ih (h.give hi) hinputs

theorem Agree.attend {a b : Audience} (h : a.Agree b) (ha : a.Quiet) {inputs : List Input}
    (hinputs : ∀ i ∈ inputs, i.IsArrival) : (a.attend inputs).Agree (b.attend inputs) := by
  induction inputs generalizing a b with
  | nil => exact h
  | cons i inputs ih =>
    obtain ⟨hi, hinputs⟩ := List.forall_mem_cons.mp hinputs
    exact ih (h.give ha hi) (ha.give hi) hinputs

/-- A name that arrives before some snapshots may as well arrive after them. -/
theorem Quiet.agree_postpone {a : Audience} (h : a.Quiet) (y : ClockReading × Passed)
    (shots : List (ClockReading × Option Snapshot)) :
    ((a.give (.ofName y)).attend (shots.map .ofShot)).Agree
      ((a.attend (shots.map .ofShot)).give (.ofName y)) := by
  induction shots generalizing a with
  | nil => exact .refl _
  | cons x shots ih =>
    have hnext : (a.give (.ofShot x)).Quiet := h.give (.shot x)
    have hswap := (h.give_comm x y).symm.attend ((h.give (.name y)).give (.shot x))
      (isArrival_ofShots shots)
    exact hswap.trans (ih hnext)

/-- All snapshots may arrive first. -/
theorem Merge.agree_sorted {shots : List (ClockReading × Option Snapshot)}
    {names : List (ClockReading × Passed)} {inputs : List Input} (h : Merge shots names inputs)
    {a : Audience} (ha : a.Quiet) :
    (a.attend inputs).Agree ((a.attend (shots.map .ofShot)).attend (names.map .ofName)) := by
  induction h generalizing a with
  | nil => exact .refl a
  | shot x _ ih => exact ih (ha.give (.shot x))
  | @name shots names inputs y _ ih =>
    have hname : (a.give (.ofName y)).Quiet := ha.give (.name y)
    have hquiet := hname.attend (isArrival_ofShots shots)
    have hpostponed := (ha.agree_postpone y shots).attend hquiet (isArrival_ofNames names)
    exact (ih hname).trans hpostponed

theorem merge_names_shots (shots : List (ClockReading × Option Snapshot))
    (names : List (ClockReading × Passed)) :
    Merge shots names (names.map .ofName ++ shots.map .ofShot) := by
  induction names with
  | nil =>
    induction shots with
    | nil => exact .nil
    | cons x shots ih => exact .shot x ih
  | cons y names ih => exact .name y ih

/-! ## What each stream leaves alone -/

theorem Quiet.screen_ofNames {a : Audience} (h : a.Quiet) (names : List (ClockReading × Passed)) :
    (a.attend (names.map .ofName)).monitor.snapshot = a.monitor.snapshot ∧
      (a.attend (names.map .ofName)).monitor.history = a.monitor.history := by
  induction names generalizing a with
  | nil => exact ⟨rfl, rfl⟩
  | cons y names ih =>
    have hkept := a.monitor.screen_seeForeground y.1 y.2.package?
    rw [List.map_cons, attend_cons]
    have hrest := ih (h.give (.name y))
    rw [h.give_ofName] at hrest ⊢
    exact ⟨hrest.1.trans hkept.1, hrest.2.trans hkept.2⟩

theorem Quiet.front_ofShots {a : Audience} (h : a.Quiet)
    (shots : List (ClockReading × Option Snapshot)) :
    (a.attend (shots.map .ofShot)).monitor.foreground = a.monitor.foreground ∧
      (a.attend (shots.map .ofShot)).monitor.lastTransition = a.monitor.lastTransition := by
  induction shots generalizing a with
  | nil => exact ⟨rfl, rfl⟩
  | cons x shots ih =>
    have hkept := a.monitor.front_seeSnapshot x.2
    rw [List.map_cons, attend_cons]
    have hrest := ih (h.give (.shot x))
    rw [h.give_ofShot] at hrest ⊢
    exact ⟨hrest.1.trans hkept.1, hrest.2.trans hkept.2⟩

/-- Two streams may come together in any order of their arrivals: the audience ends up in
the same state, and every listener is told the same. What is on the screen is what the
snapshots alone would leave, and what is in front is what the names alone would leave. -/
theorem streams_independent {a : Audience} (hquiet : a.Quiet)
    {shots : List (ClockReading × Option Snapshot)} {names : List (ClockReading × Passed)}
    {first second : List Input} (hfirst : Merge shots names first)
    (hsecond : Merge shots names second) :
    (a.attend first).Agree (a.attend second) ∧
      (a.attend first).monitor.snapshot = (a.attend (shots.map .ofShot)).monitor.snapshot ∧
      (a.attend first).monitor.history = (a.attend (shots.map .ofShot)).monitor.history ∧
      (a.attend first).monitor.foreground = (a.attend (names.map .ofName)).monitor.foreground ∧
      (a.attend first).monitor.lastTransition =
        (a.attend (names.map .ofName)).monitor.lastTransition := by
  have hsorted := hfirst.agree_sorted hquiet
  have hreversed := (merge_names_shots shots names).agree_sorted hquiet
  have hscreen := (hquiet.attend (isArrival_ofShots shots)).screen_ofNames names
  have hfront := (hquiet.attend (isArrival_ofNames names)).front_ofShots shots
  have hsame : (a.attend first).Agree
      ((a.attend (names.map .ofName)).attend (shots.map .ofShot)) := by
    rw [← attend_append]
    exact hsorted.trans hreversed.symm
  rw [← hsorted.monitor] at hscreen
  rw [← hsame.monitor] at hfront
  exact ⟨hsorted.trans (hsecond.agree_sorted hquiet).symm, hscreen.1, hscreen.2, hfront.1,
    hfront.2⟩

/-- Whether the second snapshot comes before all names or after them, the listener to
transitions hears of two, and the one to snapshots of two. -/
theorem two_orders_agree :
    let root : Element := .node (Element.Details.unknown 0) []
    let shot (now : Int) : Snapshot := ⟨root, "app", now⟩
    let new : Audience := { monitor := { capacity := 1 } }
    let a := (new.apply (.subscribe .transitions "broken" .fail)).apply
      (.subscribe .snapshots "steady" .nothing)
    let shots := [(.ok 1, some (shot 1)), (.ok 2, none), (.ok 3, some (shot 3))]
    let names := [(.ok 4, .data (.text "a")), (.ok 5, .data (.bool true)),
      (.ok 6, .data (.text "b"))]
    let first : List Input := [.ofName (.ok 4, .data (.text "a")), .ofShot (.ok 1, some (shot 1)),
      .ofName (.ok 5, .data (.bool true)), .ofShot (.ok 2, none),
      .ofName (.ok 6, .data (.text "b")), .ofShot (.ok 3, some (shot 3))]
    let second := shots.map .ofShot ++ names.map .ofName
    a.Quiet ∧ Merge shots names first ∧ Merge shots names second ∧
      (a.attend first).monitor = (a.attend second).monitor ∧
      (a.attend first).monitor.history = [shot 3] ∧
      (a.attend first).monitor.foreground = some (.text "b") ∧
      (a.attend first).received .transitions "broken" =
        [.transition ⟨none, "a", 4⟩, .transition ⟨some "a", "b", 6⟩] ∧
      (a.attend second).received .transitions "broken" =
        [.transition ⟨none, "a", 4⟩, .transition ⟨some "a", "b", 6⟩] ∧
      (a.attend second).received .snapshots "steady" =
        [.snapshot (shot 1), .snapshot (shot 3)] := by
  intro root shot new a shots names first second
  have hquiet : a.Quiet := ((quiet_new _).apply rfl).apply rfl
  have hfirst : Merge shots names first :=
    .name _ (.shot _ (.name _ (.shot _ (.name _ (.shot _ .nil)))))
  have hsecond : Merge shots names second :=
    .shot _ (.shot _ (.shot _ (.name _ (.name _ (.name _ .nil)))))
  obtain ⟨hagree, _, hhistory, hforeground, _⟩ := streams_independent hquiet hfirst hsecond
  have hheard : (a.attend first).received .transitions "broken" =
      [.transition ⟨none, "a", 4⟩, .transition ⟨some "a", "b", 6⟩] := by decide +kernel
  refine ⟨hquiet, hfirst, hsecond, hagree.monitor, ?_, ?_, hheard, ?_, by decide +kernel⟩
  · rw [hhistory]
    decide +kernel
  · rw [hforeground]
    decide +kernel
  · rw [← hagree.received]
    exact hheard

end Audience

end GestureScript
