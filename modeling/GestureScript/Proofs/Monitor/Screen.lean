import GestureScript.Monitor.Input
import GestureScript.Pipeline.Payload
import GestureScript.Proofs.Element.RoundTrip

/-!
# The screen in two texts

The screen is shown to a planner as one text, together with the application in the foreground
and the last transition; the snapshot is also written as a text of its own. The writers are
different: one writes blanks and ASCII only, the other neither. Both have a text for the same
monitors, unless the foreground was not named by a text, and the texts hold the same snapshot.
-/

set_option autoImplicit false

namespace GestureScript

open Numeral

namespace Json

mutual

/-- How deep objects are nested in a value, the value itself included. -/
def objectDepth : Json → Nat
  | .array items => objectDepthItems items
  | .object entries => 1 + objectDepthEntries entries
  | _ => 0

def objectDepthItems : List Json → Nat
  | [] => 0
  | j :: js => max (objectDepth j) (objectDepthItems js)

def objectDepthEntries : List (String × Json) → Nat
  | [] => 0
  | (_, v) :: es => max (objectDepth v) (objectDepthEntries es)

end

theorem objectDepthEntries_append (es fs : List (String × Json)) :
    objectDepthEntries (es ++ fs) = max (objectDepthEntries es) (objectDepthEntries fs) := by
  induction es with
  | nil => simp [objectDepthEntries]
  | cons e es ih => simp [objectDepthEntries, ih, Nat.max_assoc]

end Json

/-! ## What is nested in an element -/

namespace Element

@[simp] theorem objectDepth_textOrNull (s : Option String) : (textOrNull s).objectDepth = 0 := by
  cases s <;> simp [textOrNull, Json.objectDepth]

theorem objectDepth_boundsOrNull (b : Option Bounds) :
    (boundsOrNull b).objectDepth = if b.isSome then 1 else 0 := by
  cases b <;> simp [boundsOrNull, Bounds.toJson, Json.objectDepth, Json.objectDepthEntries]

theorem objectDepth_detailEntries (spelling : Key → String) (d : Details) :
    Json.objectDepthEntries (detailEntries spelling d) = if d.hasBounds then 1 else 0 := by
  simp only [detailEntries, Json.objectDepthEntries, objectDepth_textOrNull,
    objectDepth_boundsOrNull, Json.objectDepth, Details.hasBounds]
  by_cases hbounds : d.bounds.isSome = true <;>
    by_cases hscreen : d.boundsInScreen.isSome = true <;> simp [hbounds, hscreen]

mutual

/-- The values that are written for an element are objects, nested as they are. -/
theorem objectDepth_toJson (spelling : Key → String) (e : Element) :
    (e.toJson spelling).objectDepth = e.nesting := by
  match e with
  | node d cs =>
    have hcs := objectDepth_toJsonList spelling cs
    simp [toJson, nesting, Json.objectDepth, Json.objectDepthEntries_append,
      objectDepth_detailEntries, Json.objectDepthEntries, hcs]

theorem objectDepth_toJsonList (spelling : Key → String) (cs : List Element) :
    Json.objectDepthItems (toJsonList spelling cs) = nestingList cs := by
  match cs with
  | [] => rfl
  | e :: es =>
    have he := objectDepth_toJson spelling e
    have hes := objectDepth_toJsonList spelling es
    simp [toJsonList, nestingList, Json.objectDepthItems, he, hes]

end

end Element

theorem Snapshot.objectDepth_toJson (spelling : Key → String) (s : Snapshot) :
    (s.toJson spelling).objectDepth = s.root.nesting + 1 := by
  simp [toJson, Json.objectDepth, Json.objectDepthEntries, s.root.objectDepth_toJson spelling,
    Nat.add_comm]

/-! ## The two texts -/

namespace Monitor

/-- The snapshot as a text. -/
def snapshotText? {τ : Type} [TextKind τ] (m : Monitor τ) : Option String :=
  m.snapshot.bind (·.write? Key.camel)

/-- What a planner is told of the last transition. -/
def transitionValue (m : Monitor) : Json :=
  m.lastTransition.elim .null fun t =>
    .object [("previousPackage", t.previous.elim .null .text), ("newPackage", .text t.current),
      ("timestamp", .int t.timestamp)]

variable {m : Monitor} {s : Snapshot}

/-- The foreground is shown if there is none, or if it was named by a text. -/
theorem isShown_iff (m : Monitor) :
    m.isShown = true ↔ m.foreground = (m.foreground.bind Package.text?).map .text := by
  unfold isShown
  cases m.foreground with
  | none => simp
  | some p => cases p <;> simp [Package.text?]

theorem not_isShown_iff (m : Monitor) :
    m.isShown = false ↔ ∃ p ∈ m.foreground, p.text? = none := by
  unfold isShown
  cases m.foreground with
  | none => simp
  | some p => cases p <;> simp [Package.text?]

theorem payload?_eq (h : m.snapshot = some s) : m.payload? =
    if (s.toJson Key.camel).objectDepth ≤ 255 ∧ m.isShown = true ∧
      (m.payloadOf s).isWritable = true then some (m.payloadOf s).spaced else none := by
  simp [payload?, h, Snapshot.objectDepth_toJson, Snapshot.isShallow, Json.nestingLimit, and_assoc]

theorem snapshotText?_eq (h : m.snapshot = some s) : m.snapshotText? =
    if (s.toJson Key.camel).objectDepth ≤ 255 then some (s.toJson Key.camel).compact else none := by
  rw [snapshotText?, h, Option.bind_some, Snapshot.write?, Snapshot.write, Snapshot.isShallow,
    Snapshot.objectDepth_toJson, Json.nestingLimit, Json.write_eq]
  by_cases hdepth : s.root.nesting + 1 ≤ 255 <;> simp [hdepth, Except.toOption]

theorem depth_transitionValue_le (m : Monitor) : m.transitionValue.depth ≤ 1 := by
  unfold transitionValue
  cases m.lastTransition with
  | none => simp [Json.depth]
  | some t => cases h : t.previous <;> simp [Json.depth, Json.depthEntries, h]

theorem fits_transitionValue {P : Int → Prop} {m : Monitor}
    (h : ∀ t ∈ m.lastTransition, P t.timestamp) : Json.Fits P m.transitionValue := by
  unfold transitionValue
  cases htransition : m.lastTransition with
  | none => trivial
  | some t =>
    have hprevious : Json.Fits P (t.previous.elim .null .text) := by
      cases t.previous <;> trivial
    exact ⟨hprevious, trivial, h t htransition, trivial⟩

theorem payloadOf_eq (m : Monitor) (s : Snapshot) : m.payloadOf s =
    .object [("foregroundPackage", (m.foreground.bind Package.text?).elim .null .text),
      ("lastTransition", m.transitionValue), ("uiTree", s.toJson Key.camel)] := rfl

theorem fits_payloadOf {P : Int → Prop} {m : Monitor} {s : Snapshot}
    (hs : ∀ n ∈ s.integers, P n) (ht : ∀ t ∈ m.lastTransition, P t.timestamp) :
    Json.Fits P (m.payloadOf s) := by
  have hforeground : Json.Fits P ((m.foreground.bind Package.text?).elim .null .text) := by
    cases m.foreground.bind Package.text? <;> trivial
  exact ⟨hforeground, fits_transitionValue ht, Snapshot.fits_toJson hs, trivial⟩

/-- The snapshot is one level down in what a planner is shown. -/
theorem depth_payloadOf_le (m : Monitor) (s : Snapshot) :
    (m.payloadOf s).depth ≤ 2 * (s.root.nesting + 1) := by
  have hsnapshot := s.depth_toJson_lt
  have htransition := m.depth_transitionValue_le
  have hforeground : ((m.foreground.bind Package.text?).elim .null .text : Json).depth = 0 := by
    cases m.foreground.bind Package.text? <;> simp [Json.depth]
  rw [payloadOf_eq]
  simp [Json.depth, Json.depthEntries, hforeground]
  omega

/-- No integer in what is shown is too long to be written. -/
def IsShort (m : Monitor) : Prop :=
  (∀ s ∈ m.snapshot, ∀ n ∈ s.integers, Numeral.IsShort n) ∧
    ∀ t ∈ m.lastTransition, Numeral.IsShort t.timestamp

theorem IsShort.isWritable_payloadOf (hshort : m.IsShort) (h : m.snapshot = some s) :
    (m.payloadOf s).isWritable = true :=
  Json.isWritable_of_fits _ (fits_payloadOf (hshort.1 s h) hshort.2)

theorem snapshotText?_eq_none_iff (m : Monitor) :
    m.snapshotText? = none ↔ ∀ s ∈ m.snapshot, 255 < (s.toJson Key.camel).objectDepth := by
  cases h : m.snapshot with
  | none => simp [snapshotText?, h]
  | some s => simp [snapshotText?_eq h]

/-- Both texts are missing, or neither is, but that a name which is no text cannot be shown. -/
theorem IsShort.payload?_eq_none_iff (hshort : m.IsShort) :
    m.payload? = none ↔ m.snapshotText? = none ∨ ∃ p ∈ m.foreground, p.text? = none := by
  cases h : m.snapshot with
  | none => simp [payload?, snapshotText?, h]
  | some s =>
    rw [payload?_eq h, snapshotText?_eq h, ← m.not_isShown_iff, hshort.isWritable_payloadOf h]
    by_cases hdepth : (s.toJson Key.camel).objectDepth ≤ 255 <;> simp [hdepth]

/-- What a reader finds in the two texts of a monitor. -/
structure Shows (l : Json.Limits) (now : Int) (m : Monitor) (s : Snapshot)
    (payload text : String) : Prop where
  payload : ∃ front : Option String, m.foreground = front.map .text ∧
    Json.read? l payload.toList = some (.object [("foregroundPackage", front.elim .null .text),
      ("lastTransition", m.transitionValue), ("uiTree", s.toJson Key.camel)])
  text : Json.read? l text.toList = some (s.toJson Key.camel)
  snapshot : Snapshot.ofJson now (s.toJson Key.camel) = .valid s

theorem IsShort.shows_texts (hshort : m.IsShort) (h : m.snapshot = some s) {l : Json.Limits}
    (hwhole : digitLimit + 1 ≤ l.whole) (hdepth : 2 * Json.nestingLimit ≤ l.depth)
    (hwritable : (s.toJson Key.camel).objectDepth ≤ 255) (hshown : m.isShown = true) (now : Int) :
    Shows l now m s (m.payloadOf s).spaced (s.toJson Key.camel).compact := by
  have htakes : ∀ n, Numeral.IsShort n → l.Takes n := fun _ hn => hn.length_written_le.trans hwhole
  have hs : ∀ n ∈ s.integers, l.Takes n := fun n hn => htakes n (hshort.1 s h n hn)
  have ht : ∀ t ∈ m.lastTransition, l.Takes t.timestamp := fun t ht => htakes _ (hshort.2 t ht)
  rw [Snapshot.objectDepth_toJson] at hwritable
  have hpayload := m.depth_payloadOf_le s
  have hsnapshot := s.depth_toJson_lt
  rw [Json.nestingLimit] at hdepth
  constructor
  case payload =>
    refine ⟨_, m.isShown_iff.mp hshown, ?_⟩
    rw [Json.spaced, String.toList_ofList,
      Json.read?_chars Json.Style.usual_spaced (fits_payloadOf hs ht) (by omega), payloadOf_eq]
  case text =>
    rw [Json.compact, String.toList_ofList,
      Json.read?_chars Json.Style.usual_compact (Snapshot.fits_toJson hs) (by omega)]
  case snapshot => exact Snapshot.ofJson_toJson now hwritable

end Monitor

/-! ## Asking for the texts -/

namespace Audience

/-- What is given to a monitor, and the two texts that can be asked for. -/
inductive Visit where
  | give (i : Input)
  | payload
  | snapshotText

def Visit.input? : Visit → Option Input
  | .give i => some i
  | .payload | .snapshotText => none

def visit : Visit → StateM Audience (Option String)
  | .give i => do
    modify (·.give i)
    return none
  | .payload => return (← get).monitor.payload?
  | .snapshotText => return (← get).monitor.snapshotText?

/-- What was asked for does not change anything. -/
theorem visits_eq (a : Audience) (visits : List Visit) :
    ((visits.mapM visit).run a).2 = a.attend (visits.filterMap Visit.input?) := by
  induction visits generalizing a with
  | nil => rfl
  | cons v visits ih =>
    have hstep : ((List.mapM visit (v :: visits)).run a).2 =
        ((visits.mapM visit).run ((visit v).run a).2).2 := by
      rw [List.mapM_cons]
      rfl
    rw [hstep, ih]
    cases v <;> rfl

/-- Whatever a monitor was given and asked for: it is as if nothing had been asked for. There is
no text of the snapshot exactly if there is no snapshot or one that is nested too deeply. If no
integer is too long, then there is the other text just when there is this one, unless the
foreground was not named by a text; and a reader with room for them finds the snapshot in both. -/
theorem screen_texts_agree {l : Json.Limits} (hwhole : digitLimit + 1 ≤ l.whole)
    (hdepth : 2 * Json.nestingLimit ≤ l.depth) (now : Int) (a : Audience) (visits : List Visit) :
    let after := ((visits.mapM visit).run a).2
    let m := after.monitor
    after = a.attend (visits.filterMap Visit.input?) ∧
    (m.snapshotText? = none ↔ ∀ s ∈ m.snapshot, 255 < (s.toJson Key.camel).objectDepth) ∧
    (m.IsShort →
      (m.payload? = none ↔ m.snapshotText? = none ∨ ∃ p ∈ m.foreground, p.text? = none) ∧
      ∀ payload text, m.payload? = some payload → m.snapshotText? = some text →
        ∃ s, m.snapshot = some s ∧ m.Shows l now s payload text) := by
  intro after m
  refine ⟨visits_eq a visits, m.snapshotText?_eq_none_iff, fun hshort =>
    ⟨hshort.payload?_eq_none_iff, ?_⟩⟩
  intro payload text hpayload htext
  obtain ⟨s, hs, -⟩ := Option.bind_eq_some_iff.mp hpayload
  rw [Monitor.payload?_eq hs] at hpayload
  rw [Monitor.snapshotText?_eq hs] at htext
  split at hpayload
  next hpossible =>
    obtain ⟨hwritable, hshown, -⟩ := hpossible
    rw [if_pos hwritable] at htext
    cases hpayload
    cases htext
    exact ⟨s, hs, hshort.shows_texts hs hwhole hdepth hwritable hshown now⟩
  next => cases hpayload

/-- Quotes, control characters and characters of all sizes, asked for between observations. -/
theorem nested_screen_shown :
    let l : Json.Limits := ⟨4301, 510⟩
    let details : Element.Details :=
      { Element.Details.unknown 7 with text := some "\"é\\\n\x7f😀", bounds := some ⟨-3, 0, 10, 20⟩ }
    let s : Snapshot := ⟨.node details [.node (.unknown (-8)) []], "app", 12⟩
    let visits : List Visit := [.give (.operation (.foreground (.ok 5) (some (.text "ä😀")))),
      .payload, .give (.operation (.snapshot (.ok 6) (some s))), .snapshotText, .payload]
    let m := ((visits.mapM visit).run { monitor := { capacity := 3 } }).2.monitor
    digitLimit + 1 ≤ l.whole ∧ 2 * Json.nestingLimit ≤ l.depth ∧
      m.IsShort ∧ m.foreground = some (.text "ä😀") ∧
      m.lastTransition = some ⟨none, "ä😀", 5⟩ ∧
      ∃ payload text, m.payload? = some payload ∧ m.snapshotText? = some text ∧
        m.Shows l 0 s payload text := by
  intro l details s visits m
  obtain ⟨-, -, hagree⟩ := screen_texts_agree (l := l) (by decide) (by decide) 0
    { monitor := { capacity := 3 } } visits
  have hintegers : ∀ n ∈ s.integers, IsShort n := by decide +kernel
  have hshort : m.IsShort := by
    constructor
    · rintro _ ⟨⟩
      exact hintegers
    · rintro _ ⟨⟩
      decide
  obtain ⟨payload, hpayload⟩ : ∃ payload, m.payload? = some payload := by
    refine Option.ne_none_iff_exists'.mp fun hnone => ?_
    exact absurd ((hagree hshort).1.mp hnone) (by decide +kernel)
  obtain ⟨s', hs', hshows⟩ := (hagree hshort).2 payload _ hpayload rfl
  obtain rfl : s = s' := Option.some.inj hs'
  exact ⟨by decide, by decide, hshort, rfl, rfl, payload, _, hpayload, rfl, hshows⟩

/-- A snapshot with half of a character in a text is shown to a planner, and has no text of its
own. -/
theorem half_shown_not_written :
    let new : Monitor LooseText := { capacity := 1 }
    let details : Element.Details LooseText :=
      { Element.Details.unknown 0 with text := some ⟨[.half ⟨0⟩]⟩ }
    let s : Snapshot LooseText := ⟨.node details [], .ofString "app", 0⟩
    let m := new.seeSnapshot (some s)
    m.snapshotText? = none ∧ m.payload? ≠ none ∧
      ¬∀ s : Snapshot LooseText, (new.seeSnapshot (some s)).payload? = none ↔
        (new.seeSnapshot (some s)).snapshotText? = none := by
  intro new details s m
  have htext : m.snapshotText? = none := by decide +kernel
  have hpayload : m.payload? ≠ none := by decide +kernel
  exact ⟨htext, hpayload, fun h => hpayload ((h s).mpr htext)⟩

end Audience

end GestureScript
