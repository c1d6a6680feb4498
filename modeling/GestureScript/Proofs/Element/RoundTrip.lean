import GestureScript.Proofs.Element.Written

/-!
# Elements that are read back

An element, a snapshot or a transition is read back as it was from the text that is written
for it. The reader of texts must not be narrower than the writer: it must have room for the
integers, and for values as deep as those that are written.
-/

set_option autoImplicit false

namespace GestureScript

open Numeral

namespace Json

/-- There is room for whatever can be written: a sign in front of all digits, and elements
in arrays in elements as deep as the writer goes. -/
structure Limits.Roomy (l : Limits) : Prop where
  whole : digitLimit + 1 ≤ l.whole
  depth : 2 * nestingLimit ≤ l.depth + 1

/-- Read a text within some limits, and check the value in it. -/
def checkText {α : Type} (l : Limits) (check : Json → Checked α) (s : String) : Checked α :=
  match read? l s.toList with
  | some j => check j
  | none => .refuse .notJson

theorem checkText_compact {α : Type} {l : Limits} {j : Json} (hfits : Fits l.Takes j)
    (hdepth : j.depth ≤ l.depth) (check : Json → Checked α) :
    checkText l check j.compact = check j := by
  rw [checkText, compact, String.toList_ofList, read?_chars Style.usual_compact hfits hdepth]

end Json

/-! ## Snapshots and transitions -/

namespace Snapshot

def integers (t : Snapshot) : List Int := t.root.integers ++ [t.timestamp]

theorem ofJson_toJson (now : Int) {t : Snapshot} (h : t.root.nesting < Json.nestingLimit) :
    ofJson now (t.toJson Key.camel) = .valid t :=
  ofJson_of_spelledBy now (t.spelledBy_toJson fun _ => .inl rfl) h

theorem depth_toJson_lt (t : Snapshot) :
    (t.toJson Key.camel).depth < 2 * (t.root.nesting + 1) := by
  have hroot := t.root.depth_toJson_lt
  simp [toJson, Json.depth, Json.depthEntries]
  omega

theorem fits_toJson {P : Int → Prop} {t : Snapshot} (h : ∀ n ∈ t.integers, P n) :
    Json.Fits P (t.toJson Key.camel) := by
  rw [integers, List.forall_mem_append] at h
  have hroot := t.root.fits_toJson h.1
  simpa [toJson, Json.Fits, Json.FitEntries, hroot] using h.2

end Snapshot

theorem Transition.ofJson_toJson (now : Int) (t : Transition) :
    ofJson now (t.toJson Key.camel) = .valid t :=
  ofJson_of_spelledBy now (t.spelledBy_toJson fun _ => .inl rfl)

/-! ## Texts -/

theorem Element.ofText_eq (now : Int) : ofText now = Json.checkText .standard (ofValue now) := rfl

theorem Snapshot.ofText_eq (now : Int) : ofText now = Json.checkText .standard (ofJson now) := rfl

theorem Element.write?_eq_some_iff (spelling : Key → String) (e : Element) (text : String) :
    e.write? spelling = some text ↔
      e.nesting ≤ Json.nestingLimit ∧ (e.toJson spelling).compact = text := by
  rw [write?, Json.write_eq]
  split <;> simp_all [Except.toOption]

theorem Snapshot.write?_eq_some_iff (spelling : Key → String) (t : Snapshot) (text : String) :
    t.write? spelling = some text ↔
      t.root.nesting + 1 ≤ Json.nestingLimit ∧ (t.toJson spelling).compact = text := by
  have hshallow : t.isShallow = true ↔ t.root.nesting + 1 ≤ Json.nestingLimit :=
    decide_eq_true_iff
  rw [write?, write, Json.write_eq, ← hshallow]
  split <;> simp_all [Except.toOption]

theorem Element.checkText_write? {l : Json.Limits} {e : Element} {text : String}
    (hintegers : ∀ n ∈ e.integers, (written n).length ≤ l.whole)
    (hdepth : 2 * e.nesting ≤ l.depth + 1) (h : e.write? Key.camel = some text) (now : Int) :
    Json.checkText l (ofValue now) text = .valid e := by
  obtain ⟨hnesting, rfl⟩ := (write?_eq_some_iff _ _ _).mp h
  have hwritten := e.depth_toJson_lt
  rw [Json.checkText_compact (e.fits_toJson hintegers) (by omega)]
  exact ofJson_toJson now e hnesting

theorem Snapshot.checkText_write? {l : Json.Limits} {t : Snapshot} {text : String}
    (hintegers : ∀ n ∈ t.integers, (written n).length ≤ l.whole)
    (hdepth : 2 * (t.root.nesting + 1) ≤ l.depth + 1) (h : t.write? Key.camel = some text)
    (now : Int) : Json.checkText l (ofJson now) text = .valid t := by
  obtain ⟨hnesting, rfl⟩ := (write?_eq_some_iff _ _ _).mp h
  have hwritten := t.depth_toJson_lt
  rw [Json.checkText_compact (fits_toJson hintegers) (by omega)]
  exact ofJson_toJson now hnesting

theorem Transition.checkText_compact {l : Json.Limits} {t : Transition}
    (htimestamp : (written t.timestamp).length ≤ l.whole) (hdepth : 1 ≤ l.depth) (now : Int) :
    Json.checkText l (ofJson now) (t.toJson Key.camel).compact = .valid t := by
  have hprevious : Json.Fits l.Takes (Element.textOrNull t.previous) := by
    cases t.previous <;> trivial
  have hfits : Json.Fits l.Takes (t.toJson Key.camel) := ⟨hprevious, trivial, htimestamp, trivial⟩
  have hwritten : (t.toJson Key.camel).depth = 1 := by
    simp [toJson, Json.depth, Json.depthEntries, Element.depth_textOrNull]
  rw [Json.checkText_compact hfits (hwritten ▸ hdepth)]
  exact ofJson_toJson now t

/-- The standard limits are met up to a hundred elements deep. -/
theorem Element.ofText_write? {e : Element} {text : String}
    (hintegers : ∀ n ∈ e.integers, (written n).length ≤ digitLimit) (hnesting : e.nesting ≤ 100)
    (h : e.write? Key.camel = some text) (now : Int) : ofText now text = .valid e := by
  rw [ofText_eq]
  exact checkText_write? hintegers (Nat.le_succ_of_le (Nat.mul_le_mul_left 2 hnesting)) h now

theorem Snapshot.ofText_write? {t : Snapshot} {text : String}
    (hintegers : ∀ n ∈ t.integers, (written n).length ≤ digitLimit)
    (hnesting : t.root.nesting < 100) (h : t.write? Key.camel = some text) (now : Int) :
    ofText now text = .valid t := by
  rw [ofText_eq]
  exact checkText_write? hintegers (Nat.le_succ_of_le (Nat.mul_le_mul_left 2 hnesting)) h now

/-- Whatever can be written is read back as it was, by a reader with room for it: elements
with all that is in them, snapshots, and transitions. -/
theorem written_texts_read_back {l : Json.Limits} (hl : l.Roomy) (now : Int) :
    (∀ (e : Element) (text : String), (∀ n ∈ e.integers, IsShort n) →
      e.write? Key.camel = some text →
        Json.checkText l (Element.ofValue now) text = .valid e) ∧
    (∀ (t : Snapshot) (text : String), (∀ n ∈ t.integers, IsShort n) →
      t.write? Key.camel = some text → Json.checkText l (Snapshot.ofJson now) text = .valid t) ∧
    ∀ t : Transition, IsShort t.timestamp →
      Json.checkText l (Transition.ofJson now) (t.toJson Key.camel).compact = .valid t := by
  have hwhole : ∀ {n}, IsShort n → (written n).length ≤ l.whole := fun hn =>
    hn.length_written_le.trans hl.whole
  have hroom : ∀ {n}, n ≤ Json.nestingLimit → 2 * n ≤ l.depth + 1 := fun hn =>
    (Nat.mul_le_mul_left 2 hn).trans hl.depth
  refine ⟨?_, ?_, ?_⟩
  · intro e text hintegers h
    have hnesting := ((Element.write?_eq_some_iff _ _ _).mp h).1
    exact Element.checkText_write? (fun n hn => hwhole (hintegers n hn)) (hroom hnesting) h now
  · intro t text hintegers h
    have hnesting := ((Snapshot.write?_eq_some_iff _ _ _).mp h).1
    exact Snapshot.checkText_write? (fun n hn => hwhole (hintegers n hn)) (hroom hnesting) h now
  · intro t htimestamp
    have hdepth : 1 ≤ l.depth :=
      Nat.le_of_succ_le_succ (hroom (n := 1) (by decide))
    exact Transition.checkText_compact (hwhole htimestamp) hdepth now

/-- Quotes, escapes and characters of all sizes, bounds and two children. -/
theorem nested_texts_read_back :
    let l : Json.Limits := ⟨4301, 509⟩
    let details : Element.Details :=
      { Element.Details.unknown 7 with
        text := some "say \"hi\\\"\n\x01é😀"
        bounds := some ⟨-3, 0, 10, 20⟩
        isEnabled := false }
    let e : Element := .node details [.node { Element.Details.unknown 8 with id := some "a" } [],
      .node (.unknown (-9)) []]
    let t : Snapshot := ⟨e, "app", 12⟩
    l.Roomy ∧ (∀ n ∈ t.integers, IsShort n) ∧ IsShort (-5) ∧
      (∃ text, e.write? Key.camel = some text ∧
        Json.checkText l (Element.ofValue 0) text = .valid e) ∧
      (∃ text, t.write? Key.camel = some text ∧
        Json.checkText l (Snapshot.ofJson 0) text = .valid t) ∧
      Json.checkText l (Transition.ofJson 0)
        ((⟨none, "app", -5⟩ : Transition).toJson Key.camel).compact = .valid ⟨none, "app", -5⟩ := by
  intro l details e t
  have hl : l.Roomy := ⟨by decide, by decide⟩
  have hintegers : ∀ n ∈ e.integers, IsShort n := by decide +kernel
  have hmore : ∀ n ∈ t.integers, IsShort n := by decide +kernel
  obtain ⟨helements, hsnapshots, htransitions⟩ := written_texts_read_back hl 0
  exact ⟨hl, hmore, by decide, ⟨_, rfl, helements e _ hintegers rfl⟩,
    ⟨_, rfl, hsnapshots t _ hmore rfl⟩, htransitions ⟨none, "app", -5⟩ (by decide)⟩

end GestureScript
