import GestureScript.Element.Traversal
import GestureScript.Proofs.Element.Spelled
import GestureScript.Proofs.Json.Reading

/-!
# Elements that were written

The value that is written for an element is read as that element. It is at most twice as
deep as the elements are nested, since children are in an array of their own, and it holds
no other integers than they do. The inductions are on the element, with its children
alongside.
-/

set_option autoImplicit false

namespace GestureScript

open Numeral

/-! ## Objects -/

namespace Json

theorem fitEntries_iff {P : Int → Prop} (es : List (String × Json)) :
    FitEntries P es ↔ ∀ e ∈ es, Fits P e.2 := by
  induction es with
  | nil => simp [FitEntries]
  | cons e es ih => simp [FitEntries, ih]

theorem fitItems_iff {P : Int → Prop} (js : List Json) :
    FitItems P js ↔ ∀ j ∈ js, Fits P j := by
  induction js with
  | nil => simp [FitItems]
  | cons j js ih => simp [FitItems, ih]

theorem depthItems_le_iff (js : List Json) (n : Nat) :
    depthItems js ≤ n ↔ ∀ j ∈ js, j.depth < n := by
  induction js with
  | nil => simp [depthItems]
  | cons j js ih =>
    rw [depthItems, List.forall_mem_cons, ← ih]
    omega

theorem depthEntries_le_iff (es : List (String × Json)) (n : Nat) :
    depthEntries es ≤ n ↔ ∀ e ∈ es, e.2.depth < n := by
  induction es with
  | nil => simp [depthEntries]
  | cons e es ih =>
    rw [depthEntries, List.forall_mem_cons, ← ih]
    omega

end Json

/-! ## Elements -/

def Bounds.integers (b : Bounds) : List Int := [b.left, b.top, b.right, b.bottom]

def Element.Details.integers (d : Details) : List Int :=
  d.bounds.elim [] Bounds.integers ++ d.boundsInScreen.elim [] Bounds.integers ++ [d.timestamp]

namespace Element

/-- The integers of an element and of all elements in it. -/
def integers (e : Element) : List Int := e.walk.flatMap (·.details.integers)

def entries (d : Details) (cs : List Element) : List (String × Json) :=
  detailEntries Key.camel d ++
    [("children", .array (toJsonList Key.camel cs)), ("timestamp", .int d.timestamp)]

theorem toJson_node (d : Details) (cs : List Element) :
    (node d cs).toJson Key.camel = .object (entries d cs) := by
  rw [toJson, entries]

theorem ofJson_toJson (now : Int) (e : Element) {room : Nat} (h : e.nesting ≤ room) :
    ofJson now room (e.toJson Key.camel) = .valid e :=
  ofJson_of_spelledBy now e (e.spelledBy_toJson fun _ => .inl rfl) h

/-! ## What is written for an element -/

/-- What holds of a text, of a flag and of the bounds holds of all entries for the details. -/
theorem forall_detailEntries {P : Json → Prop} {d : Details} (htext : ∀ s, P (textOrNull s))
    (hflag : ∀ b, P (.bool b)) (hbounds : P (boundsOrNull d.bounds))
    (hscreen : P (boundsOrNull d.boundsInScreen)) : ∀ e ∈ detailEntries Key.camel d, P e.2 := by
  simp [detailEntries, htext, hflag, hbounds, hscreen]

theorem depth_textOrNull (s : Option String) : (textOrNull s).depth = 0 := by
  cases s <;> rfl

theorem depth_boundsOrNull_lt {b : Option Bounds} {room : Nat} (h : b.isSome → 0 < room) :
    (boundsOrNull b).depth < 1 + 2 * room := by
  cases b with
  | none => exact Nat.lt_of_lt_of_le Nat.zero_lt_one (Nat.le_add_right 1 _)
  | some b =>
    have hroom := h rfl
    have hdepth : (boundsOrNull (some b)).depth = 1 := rfl
    omega

mutual

theorem depth_toJson_lt (e : Element) : (e.toJson Key.camel).depth < 2 * e.nesting := by
  match e with
  | node d cs =>
    have hchildren := depthItems_toJsonList_le cs
    rw [nesting, toJson_node, Json.depth]
    generalize hroom : max (if d.hasBounds then 1 else 0) (nestingList cs) = room
    have hbounds : d.hasBounds → 0 < room := by
      intro hbounds
      rw [if_pos hbounds] at hroom
      omega
    have hentries : ∀ e ∈ entries d cs, e.2.depth < 1 + 2 * room := by
      rw [entries, List.forall_mem_append]
      constructor
      · refine forall_detailEntries (P := fun j => j.depth < 1 + 2 * room) ?_ ?_ ?_ ?_
        · intro s
          rw [depth_textOrNull]
          omega
        · intro b
          show 0 < 1 + 2 * room
          omega
        · exact depth_boundsOrNull_lt fun h => hbounds (Details.hasBounds_iff.mpr (.inl h))
        · exact depth_boundsOrNull_lt fun h => hbounds (Details.hasBounds_iff.mpr (.inr h))
      · simp [Json.depth]
        omega
    have hdepth := (Json.depthEntries_le_iff _ _).mpr hentries
    omega

/-- An array and an object are nested for each element on the way down. -/
theorem depthItems_toJsonList_le (es : List Element) :
    Json.depthItems (toJsonList Key.camel es) ≤ 2 * nestingList es := by
  match es with
  | [] => exact Nat.le_refl 0
  | e :: es =>
    have he := depth_toJson_lt e
    have hes := depthItems_toJsonList_le es
    rw [toJsonList, Json.depthItems, nestingList]
    omega

end

theorem integers_node (d : Details) (cs : List Element) :
    (node d cs).integers = d.integers ++ cs.flatMap integers := by
  have hwalk : integers = fun e => e.preorder.flatMap (·.details.integers) := by
    funext e
    rw [integers, walk_eq_preorder]
  rw [hwalk, ← List.flatMap_assoc, ← preorderList_eq]
  rfl

variable {P : Int → Prop}

theorem fits_boundsOrNull {b : Option Bounds}
    (h : ∀ n ∈ b.elim [] Bounds.integers, P n) : Json.Fits P (boundsOrNull b) := by
  cases b with
  | none => trivial
  | some b =>
    simpa [boundsOrNull, Bounds.toJson, Bounds.integers, Json.Fits, Json.FitEntries] using h

mutual

theorem fits_toJson (e : Element) (h : ∀ n ∈ e.integers, P n) :
    Json.Fits P (e.toJson Key.camel) := by
  match e with
  | node d cs =>
    rw [integers_node, List.forall_mem_append, Details.integers, List.forall_mem_append,
      List.forall_mem_append] at h
    obtain ⟨⟨⟨hbounds, hscreen⟩, htimestamp⟩, hchildren⟩ := h
    rw [toJson_node, Json.Fits, Json.fitEntries_iff, entries, List.forall_mem_append]
    constructor
    · refine forall_detailEntries (P := Json.Fits P) ?_ ?_ ?_ ?_
      · intro s
        cases s <;> trivial
      · intro b
        trivial
      · exact fits_boundsOrNull hbounds
      · exact fits_boundsOrNull hscreen
    · have hitems := fitItems_toJsonList cs hchildren
      simpa [Json.Fits, hitems] using htimestamp

theorem fitItems_toJsonList (es : List Element) (h : ∀ n ∈ es.flatMap integers, P n) :
    Json.FitItems P (toJsonList Key.camel es) := by
  match es with
  | [] => trivial
  | e :: es =>
    rw [List.flatMap_cons, List.forall_mem_append] at h
    exact ⟨fits_toJson e h.1, fitItems_toJsonList es h.2⟩

end

end Element

end GestureScript
