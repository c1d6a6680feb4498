import GestureScript.Command.Schema
import GestureScript.Proofs.Command.Script
import GestureScript.Proofs.Element.Written

/-!
# Commands that were written

A well-formed command is read back from the value that is written for it. The commands of a
script are well formed, and their integers are short, but for durations that come from the
settings.
-/

set_option autoImplicit false

namespace GestureScript

open Numeral

/-! ## Reading back -/

variable {τ : Type} [TextKind τ]

theorem Read.atLeast_int {bound n : Int} (h : bound ≤ n) :
    atLeast bound (.int n : Json τ) = .valid n := by
  simp [atLeast, Checked.andThen, h]

theorem Read.choice_ofString {α : Type} (name : α → String) (values : List α) (g : Grievance)
    (s : String) : choice name values g (.ofString s : Json τ) =
      (values.find? (fun v => name v == s)).elim (.refuse g) .valid := by
  rw [Json.ofString, choice, string_ofString, Checked.andThen]

theorem Point.ofJson_toJson (p : Point) : ofJson (p.toJson : Json τ) = .valid p := rfl

theorem Direction.ofJson_name (d : Direction) : ofJson (.ofString d.name : Json τ) = .valid d := by
  rw [ofJson, Read.choice_ofString]
  cases d <;> rfl

theorem Button.ofJson_name (b : Button) : ofJson (.ofString b.name : Json τ) = .valid b := by
  rw [ofJson, Read.choice_ofString]
  cases b <;> rfl

omit [TextKind τ] in
theorem Read.itemsFrom_map {α : Type} {read : Json τ → Checked α} {write : α → Json τ}
    (h : ∀ x, read (write x) = .valid x) (i : Nat) (xs : List α) :
    itemsFrom read i (xs.map write) = .valid xs := by
  induction xs generalizing i with
  | nil => rfl
  | cons x xs ih =>
    rw [List.map_cons, itemsFrom, h, ih]
    rfl

theorem Point.listOfJson_map {points : List Point} (h : points ≠ []) :
    listOfJson (.array (points.map toJson) : Json τ) = .valid points := by
  rw [listOfJson, Read.itemsFrom_map ofJson_toJson]
  cases points with
  | nil => exact absurd rfl h
  | cons p points => rfl

namespace Command

theorem Kind.ofName?_name (k : Kind) : ofName? k.name = some k := by cases k <;> rfl

/-- The tag of an object says how its fields are read. -/
theorem ofJson_of_kind {es : List (String × Json τ)} {k : Kind}
    (h : Json.lookup? "kind" es = some (.ofString k.name)) :
    ofJson (.object es) = (readFields es k).under (.key k.name) := by
  rw [ofJson, h]
  simp only [kindOfTag?, Json.ofString, TextKind.string?_ofString, Option.bind_some,
    Kind.ofName?_name]

theorem ofJson_toJson {c : Command τ} (h : c.WellFormed) : ofJson c.toJson = .valid c := by
  -- Every key is known, so the fields are found by evaluation.
  cases c with
  | tap points duration =>
    rw [toJson, ofJson_of_kind (k := .tap) rfl]
    show Checked.under _ (.both Command.tap
      ((Point.listOfJson (.array (points.map Point.toJson) : Json τ)).under (.key "points"))
      ((Read.atLeast 1 (.int duration : Json τ)).under (.key "duration_ms"))) = _
    rw [Point.listOfJson_map h.1, Read.atLeast_int h.2]
    rfl
  | swipe start finish duration =>
    rw [toJson, ofJson_of_kind (k := .swipe) rfl]
    show Checked.under _ (.both id (.both Command.swipe
      ((Point.ofJson (start.toJson : Json τ)).under (.key "start"))
      ((Point.ofJson (finish.toJson : Json τ)).under (.key "end")))
      ((Read.atLeast 1 (.int duration : Json τ)).under (.key "duration_ms"))) = _
    rw [Read.atLeast_int h]
    rfl
  | scroll direction duration =>
    rw [toJson, ofJson_of_kind (k := .scroll) rfl]
    show Checked.under _ (.both Command.scroll
      ((Direction.ofJson (.ofString direction.name : Json τ)).under (.key "direction"))
      ((Read.atLeast 1 (.int duration : Json τ)).under (.key "duration_ms"))) = _
    rw [Direction.ofJson_name, Read.atLeast_int h]
    rfl
  | typeText text commit clear =>
    rw [toJson, ofJson_of_kind (k := .typeText) rfl]
    rfl
  | wait duration =>
    rw [toJson, ofJson_of_kind (k := .wait) rfl]
    show Checked.under _ (.map Command.wait
      ((Read.atLeast 0 (.int duration : Json τ)).under (.key "duration_ms"))) = _
    rw [Read.atLeast_int h]
    rfl
  | press button =>
    rw [toJson, ofJson_of_kind (k := .press) rfl]
    show Checked.under _ (.map Command.press
      ((Button.ofJson (.ofString button.name : Json τ)).under (.key "action"))) = _
    rw [Button.ofJson_name]
    rfl

/-! ## What is in a command -/

theorem fits_points {P : Int → Prop} {points : List Point}
    (h : ∀ n ∈ points.flatMap (fun p => [p.x, p.y]), P n) :
    Json.FitItems P (points.map Point.toJson) := by
  rw [Json.fitItems_iff, List.forall_mem_map]
  intro p hp
  have hx := h p.x (List.mem_flatMap.mpr ⟨p, hp, by simp⟩)
  have hy := h p.y (List.mem_flatMap.mpr ⟨p, hp, by simp⟩)
  exact ⟨hx, hy, trivial⟩

theorem fits_toJson {P : Int → Prop} {c : Command} (h : ∀ n ∈ c.integers, P n) :
    Json.Fits P c.toJson := by
  cases c with
  | tap points duration =>
    rw [integers, List.forall_mem_append] at h
    have hpoints := fits_points h.1
    simpa [toJson, Json.Fits, Json.FitEntries, hpoints] using h.2
  | swipe | scroll | wait =>
    simpa [integers, toJson, Json.Fits, Json.FitEntries, Point.toJson, and_assoc] using h
  | typeText | press => simp [toJson, Json.Fits, Json.FitEntries]

theorem isWritable_toJson_iff (c : Command) : c.toJson.isWritable = true ↔ c.IsShort := by
  cases c with
  | tap points duration =>
    have hpoints : Json.areWritable (points.map (Point.toJson (τ := String))) = true ↔
        ∀ n ∈ points.flatMap (fun p => [p.x, p.y]), Numeral.IsShort n := by
      rw [Json.areWritable_iff, List.forall_mem_map, List.forall_mem_flatMap]
      refine forall₂_congr fun p _ => ?_
      simp [Point.toJson, Json.isWritable, Json.haveWritable, Numeral.isWritable_iff]
    rw [IsShort, integers, List.forall_mem_append, ← hpoints]
    simp [toJson, Json.isWritable, Json.haveWritable, Numeral.isWritable_iff]
  | swipe | scroll | typeText | wait | press =>
    simp [toJson, IsShort, integers, Point.toJson, Json.isWritable, Json.haveWritable,
      Numeral.isWritable_iff, and_assoc]

theorem depth_points (points : List Point) : Json.depthItems (points.map Point.toJson) ≤ 2 := by
  rw [Json.depthItems_le_iff, List.forall_mem_map]
  intro p _
  simp [Point.toJson, Json.depth, Json.depthEntries]

/-- Points are in an array in an object. -/
theorem depth_toJson_le (c : Command) : c.toJson.depth ≤ 3 := by
  cases c with
  | tap points duration =>
    have hpoints := depth_points points
    simp only [toJson, Json.ofString_eq, Json.depth, Json.depthEntries]
    omega
  | swipe | scroll | typeText | wait | press =>
    simp [toJson, Json.depth, Json.depthEntries, Point.toJson]

/-! ## Commands of lines -/

theorem Lasts.of_settings {standard : Int} {words : List (List Char)} {duration : Int}
    (h : Lasts standard words duration) :
    1 ≤ duration ∧ (Numeral.IsShort duration ∨ duration = standard) := by
  cases h with
  | absent hpos => exact ⟨hpos, .inr rfl⟩
  | given hdenotes hpos => exact ⟨hpos, .inl hdenotes.isShort⟩
  | ignored _ hpos => exact ⟨hpos, .inr rfl⟩

theorem Means.wellFormed {settings : Settings} {line : List Char} {c : Command}
    (h : Means settings line c) : c.WellFormed := by
  cases h with
  | tap _ _ _ _ hlasts => exact ⟨by simp, hlasts.of_settings.1⟩
  | swipe _ _ _ _ _ _ hlasts => exact hlasts.of_settings.1
  | scroll _ _ _ _ hlasts => exact hlasts.of_settings.1
  | input => trivial
  | wait _ _ _ hpos => exact hpos
  | press => trivial

/-- The durations that stand in where a line has none. -/
def standardDurations (settings : Settings) : List Int :=
  [settings.tapDuration, settings.swipeDuration, settings.scrollDuration]

theorem Means.integers_short {settings : Settings} {line : List Char} {c : Command}
    (h : Means settings line c) {n : Int} (hn : n ∈ c.integers) :
    Numeral.IsShort n ∨ n ∈ standardDurations settings := by
  have hduration : ∀ {standard words d}, Lasts standard words d →
      standard ∈ standardDurations settings →
        Numeral.IsShort d ∨ d ∈ standardDurations settings := by
    intro standard words d hlasts hstandard
    rcases hlasts.of_settings.2 with hshort | rfl
    · exact .inl hshort
    · exact .inr hstandard
  cases h with
  | tap _ _ hx hy hlasts =>
    have hd := hduration hlasts (by simp [standardDurations])
    simp only [integers, List.flatMap_cons, List.flatMap_nil, List.append_nil, List.cons_append,
      List.nil_append, List.mem_cons, List.not_mem_nil, or_false] at hn
    rcases hn with rfl | rfl | rfl
    · exact .inl hx.isShort
    · exact .inl hy.isShort
    · exact hd
  | swipe _ _ hx hy hx' hy' hlasts =>
    have hd := hduration hlasts (by simp [standardDurations])
    simp only [integers, List.mem_cons, List.not_mem_nil, or_false] at hn
    rcases hn with rfl | rfl | rfl | rfl | rfl
    · exact .inl hx.isShort
    · exact .inl hy.isShort
    · exact .inl hx'.isShort
    · exact .inl hy'.isShort
    · exact hd
  | scroll _ _ _ _ hlasts =>
    obtain rfl := List.mem_singleton.mp hn
    exact hduration hlasts (by simp [standardDurations])
  | input => cases hn
  | wait _ _ hdenotes =>
    obtain rfl := List.mem_singleton.mp hn
    exact .inl hdenotes.isShort
  | press => cases hn

end Command

/-- A command of a script is what one of its lines means. -/
theorem Script.exists_means {settings : Settings} {script : String} {c : Command}
    (h : c ∈ commands settings script) : ∃ line, Command.Means settings line c := by
  obtain ⟨line, -, hline⟩ := List.mem_filterMap.mp h
  rw [commandOf?] at hline
  split at hline
  · contradiction
  · exact ⟨_, .of_ofLine? hline⟩

end GestureScript
