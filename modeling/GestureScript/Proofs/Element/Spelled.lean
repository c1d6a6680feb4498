import GestureScript.Element.Schema
import GestureScript.Proofs.Element.Fields

/-!
# Spellings of screen elements

The values that stand for an element: each of its fields under either spelling of its key, in
any order, with defaults left out or not and with other keys beside them, and so for all
elements in it. All of them are read as the element. The induction is on the element, with its
children alongside; at each element the choices for its own fields are free.
-/

set_option autoImplicit false

namespace GestureScript

/-! ## What is spelled -/

namespace Field

def integer (name : String) (n : Int) : Field := ⟨.plain name, (· = .int n), False⟩

def text (key : Key) (s : String) : Field := ⟨key, (· = .text s), False⟩

def optionalText (key : Key) (s : Option String) : Field :=
  ⟨key, (· = Element.textOrNull s), s = none⟩

def flag (key : Key) (b absent : Bool) : Field := ⟨key, (· = .bool b), b = absent⟩

end Field

namespace Bounds

def fields (b : Bounds) : List Field :=
  [.integer "left" b.left, .integer "top" b.top, .integer "right" b.right,
    .integer "bottom" b.bottom]

def SpelledBy (b : Bounds) (j : Json) : Prop := j.Describes b.fields

end Bounds

def Field.optionalBounds (key : Key) (b : Option Bounds) : Field :=
  ⟨key, fun v => b.elim (v = .null) (·.SpelledBy v), b = none⟩

namespace Element

def Details.fields (d : Details) : List Field :=
  [.optionalText (.plain "id") d.id,
   .optionalText .className d.className,
   .optionalText .packageName d.packageName,
   .optionalText (.plain "text") d.text,
   .optionalText .contentDescription d.contentDescription,
   .optionalText .viewIdResourceName d.viewIdResourceName,
   .optionalBounds (.plain "bounds") d.bounds,
   .optionalBounds .boundsInScreen d.boundsInScreen,
   .flag .isClickable d.isClickable false,
   .flag .isEnabled d.isEnabled true,
   .flag .isFocusable d.isFocusable false,
   .flag .isFocused d.isFocused false,
   .flag .isScrollable d.isScrollable false,
   .flag .isSelected d.isSelected false,
   .flag .isVisible d.isVisible true]

/-- The fields of an element, whose children are given by the field for them. -/
def fields (d : Details) (children : Field) : List Field :=
  d.fields ++ [children, .integer "timestamp" d.timestamp]

mutual

/-- Does a value stand for an element, however its keys are spelled? -/
def SpelledBy : Element → Json → Prop
  | node d cs, j => j.Describes (fields d
      ⟨.plain "children", fun v => ∃ items, v = .array items ∧ EachSpelledBy cs items, cs = []⟩)

def EachSpelledBy : List Element → List Json → Prop
  | [], items => items = []
  | e :: es, items => ∃ j js, items = j :: js ∧ SpelledBy e j ∧ EachSpelledBy es js

end

end Element

namespace Snapshot

def fields (t : Snapshot) : List Field :=
  [⟨.plain "root", t.root.SpelledBy, False⟩, .text .packageName t.packageName,
    .integer "timestamp" t.timestamp]

def SpelledBy (t : Snapshot) (j : Json) : Prop := j.Describes t.fields

end Snapshot

namespace Transition

def fields (t : Transition) : List Field :=
  [.optionalText .previousPackage t.previous, .text .newPackage t.current,
    .integer "timestamp" t.timestamp]

def SpelledBy (t : Transition) (j : Json) : Prop := j.Describes t.fields

end Transition

/-! ## Reading -/

namespace Field.Given

variable {key : Key} {es : List (String × Json)}

theorem integer_eq {name : String} {n : Int} (h : (Field.integer name n).Given es) :
    (Key.plain name).required Read.integer es = .valid n := by
  refine h.required (fun v hv => ?_) id
  obtain rfl : v = .int n := hv
  rfl

theorem timestamp_eq {t : Int} (h : (Field.integer "timestamp" t).Given es) (now : Int) :
    Key.timestamp now es = .valid t := by
  refine h.withDefault (fun v hv => ?_) False.elim
  obtain rfl : v = .int t := hv
  rfl

theorem text_eq {s : String} (h : (Field.text key s).Given es) :
    key.required Read.text es = .valid s := by
  refine h.required (fun v hv => ?_) id
  obtain rfl : v = .text s := hv
  rfl

theorem optionalText_eq {s : Option String} (h : (Field.optionalText key s).Given es) :
    key.optionalText es = .valid s := by
  refine h.withDefault (fun v hv => ?_) Eq.symm
  obtain rfl : v = Element.textOrNull s := hv
  cases s <;> rfl

theorem flag_eq {b absent : Bool} (h : (Field.flag key b absent).Given es) :
    key.flag absent es = .valid b := by
  refine h.withDefault (fun v hv => ?_) Eq.symm
  obtain rfl : v = .bool b := hv
  rfl

end Field.Given

namespace Bounds

theorem ofJson_of_spelledBy {b : Bounds} {j : Json} (h : b.SpelledBy j) (room : Nat) :
    ofJson (room + 1) j = .valid b := by
  obtain ⟨es, rfl⟩ := h.exists_entries
  have hkeys : (b.fields.map Field.key).Pairwise Key.Apart := by
    show List.Pairwise Key.Apart [.plain "left", .plain "top", .plain "right", .plain "bottom"]
    decide
  have hgiven : ∀ i {f : Field}, b.fields[i]? = some f → f.Given es := fun i f hf =>
    Json.Describes.given h hkeys (List.mem_of_getElem? hf)
  rw [ofJson, (hgiven 0 rfl).integer_eq, (hgiven 1 rfl).integer_eq, (hgiven 2 rfl).integer_eq,
    (hgiven 3 rfl).integer_eq]
  rfl

end Bounds

theorem Field.Given.optionalBounds_eq {key : Key} {es : List (String × Json)} {b : Option Bounds}
    (h : (Field.optionalBounds key b).Given es) {room : Nat} (hroom : b.isSome → 0 < room) :
    key.optionalBounds room es = .valid b := by
  refine h.withDefault (fun v hv => ?_) Eq.symm
  cases b with
  | none =>
    obtain rfl : v = .null := hv
    rfl
  | some b =>
    obtain ⟨room, rfl⟩ := Nat.exists_eq_succ_of_ne_zero (Nat.ne_of_gt (hroom rfl))
    have hspelled : b.SpelledBy v := hv
    obtain ⟨es, rfl⟩ := hspelled.exists_entries
    have hread := Bounds.ofJson_of_spelledBy hspelled room
    exact congrArg (Checked.map some) hread

namespace Element

theorem Details.hasBounds_iff {d : Details} :
    d.hasBounds = true ↔ d.bounds.isSome = true ∨ d.boundsInScreen.isSome = true := by
  simp [hasBounds]

/-- The details are read from their entries, whatever else is in the object. -/
theorem readDetails_of_given {d : Details} {es : List (String × Json)}
    (h : ∀ f ∈ d.fields, f.Given es) {room : Nat} (hroom : d.hasBounds → 0 < room) :
    readDetails room es = .valid fun t => { d with timestamp := t } := by
  have hgiven : ∀ i {f : Field}, d.fields[i]? = some f → f.Given es :=
    fun i f hf => h f (List.mem_of_getElem? hf)
  have hbounds : d.bounds.isSome → 0 < room :=
    fun hsome => hroom (Details.hasBounds_iff.mpr (.inl hsome))
  have hscreen : d.boundsInScreen.isSome → 0 < room :=
    fun hsome => hroom (Details.hasBounds_iff.mpr (.inr hsome))
  rw [readDetails, (hgiven 0 rfl).optionalText_eq, (hgiven 1 rfl).optionalText_eq,
    (hgiven 2 rfl).optionalText_eq, (hgiven 3 rfl).optionalText_eq,
    (hgiven 4 rfl).optionalText_eq, (hgiven 5 rfl).optionalText_eq,
    (hgiven 6 rfl).optionalBounds_eq hbounds, (hgiven 7 rfl).optionalBounds_eq hscreen,
    (hgiven 8 rfl).flag_eq, (hgiven 9 rfl).flag_eq, (hgiven 10 rfl).flag_eq,
    (hgiven 11 rfl).flag_eq, (hgiven 12 rfl).flag_eq, (hgiven 13 rfl).flag_eq,
    (hgiven 14 rfl).flag_eq]
  rfl

theorem childrenOfEntries?_eq (now : Int) (room : Nat) (es : List (String × Json)) :
    childrenOfEntries? now room es =
      (Json.lookup? "children" es).map (childrenOfJson now room) := by
  induction es with
  | nil => rfl
  | cons e es ih =>
    obtain ⟨k, v⟩ := e
    rw [childrenOfEntries?, ih, Json.lookup?]
    cases Json.lookup? "children" es with
    | some w => rfl
    | none =>
      by_cases h : k = "children" <;> simp [h]

theorem children_mem_fields (d : Details) (children : Field) : children ∈ fields d children := by
  simp [fields]

theorem timestamp_mem_fields (d : Details) (children : Field) :
    .integer "timestamp" d.timestamp ∈ fields d children := by
  simp [fields]

/-- All elements have the same keys. -/
def keys : List Key :=
  [.plain "id", .className, .packageName, .plain "text", .contentDescription,
   .viewIdResourceName, .plain "bounds", .boundsInScreen, .isClickable, .isEnabled,
   .isFocusable, .isFocused, .isScrollable, .isSelected, .isVisible, .plain "children",
   .plain "timestamp"]

theorem keys_eq (d : Details) (stands : Json → Prop) (spare : Prop) :
    (fields d ⟨.plain "children", stands, spare⟩).map Field.key = keys := rfl

/-- The keys of an element spell different names. -/
theorem apart_keys : keys.Pairwise Key.Apart := by decide

mutual

/-- However an element is spelled, it is read wherever there is room for it. -/
theorem ofJson_of_spelledBy (now : Int) (e : Element) {j : Json} (h : e.SpelledBy j) {room : Nat}
    (hroom : e.nesting ≤ room) : ofJson now room j = .valid e := by
  match e with
  | node d cs =>
    -- One value's room is taken by the element; its bounds and children share what is left.
    rw [nesting] at hroom
    obtain ⟨room, rfl⟩ : ∃ n, room = n + 1 := Nat.exists_eq_succ_of_ne_zero (by omega)
    rw [SpelledBy] at h
    obtain ⟨es, rfl⟩ := h.exists_entries
    have hgiven {f : Field} := h.given (f := f) (keys_eq d _ _ ▸ apart_keys)
    have hdetails : readDetails room es = .valid fun t => { d with timestamp := t } := by
      apply readDetails_of_given
      · intro f hf
        exact hgiven (List.mem_append_left _ hf)
      · intro hbounds
        rw [if_pos hbounds] at hroom
        omega
    have hchildren : childrenOfEntries? now room es = none ∧ cs = [] ∨
        childrenOfEntries? now room es = some (.valid cs) := by
      have hlookup := (hgiven (children_mem_fields d _)).find?
      rw [Key.find?_plain] at hlookup
      rw [childrenOfEntries?_eq]
      rcases hlookup with ⟨name, v, ⟨items, rfl, hitems⟩, hfound⟩ | ⟨hnil, hnone⟩
      · right
        obtain ⟨w, hw, heq⟩ := Option.map_eq_some_iff.mp hfound
        obtain rfl : w = .array items := congrArg Prod.snd heq
        rw [hw, Option.map_some, childrenOfJson,
          childrenFrom_of_spelledBy now cs hitems (by omega)]
      · left
        rw [Option.map_eq_none_iff.mp hnone]
        exact ⟨rfl, hnil⟩
    have htimestamp : Key.timestamp now es = .valid d.timestamp :=
      (hgiven (timestamp_mem_fields d _)).timestamp_eq now
    rw [ofJson, assemble, hdetails, htimestamp]
    rcases hchildren with ⟨hnone, rfl⟩ | hsome
    · rw [hnone]
      rfl
    · rw [hsome]
      rfl

theorem childrenFrom_of_spelledBy (now : Int) (es : List Element) {items : List Json}
    (h : EachSpelledBy es items) {room : Nat} (hroom : nestingList es ≤ room) (i : Nat) :
    childrenFrom now room i items = .valid es := by
  match es with
  | [] =>
    rw [EachSpelledBy] at h
    rw [h]
    rfl
  | e :: es =>
    rw [EachSpelledBy] at h
    obtain ⟨j, js, rfl, hfirst, hrest⟩ := h
    rw [nestingList] at hroom
    rw [childrenFrom, ofJson_of_spelledBy now e hfirst (by omega),
      childrenFrom_of_spelledBy now es hrest (by omega)]
    rfl

end

end Element

namespace Snapshot

theorem ofJson_of_spelledBy (now : Int) {t : Snapshot} {j : Json} (h : t.SpelledBy j)
    (hroom : t.root.nesting < Json.nestingLimit) : ofJson now j = .valid t := by
  obtain ⟨es, rfl⟩ := h.exists_entries
  have hkeys : (t.fields.map Field.key).Pairwise Key.Apart := by
    show List.Pairwise Key.Apart [.plain "root", .packageName, .plain "timestamp"]
    decide
  have hgiven : ∀ i {f : Field}, t.fields[i]? = some f → f.Given es := fun i f hf =>
    Json.Describes.given h hkeys (List.mem_of_getElem? hf)
  have hroot : (Key.plain "root").required (Element.ofJson now (Json.nestingLimit - 1)) es =
      .valid t.root := by
    refine (hgiven 0 rfl).required (fun v hv => ?_) id
    exact Element.ofJson_of_spelledBy now t.root hv (Nat.le_pred_of_lt hroom)
  have hname : Key.packageName.required Read.text es = .valid t.packageName :=
    (hgiven 1 rfl).text_eq
  have htimestamp : Key.timestamp now es = .valid t.timestamp :=
    (hgiven 2 rfl).timestamp_eq now
  rw [ofJson, hroot, hname, htimestamp]
  rfl

end Snapshot

theorem Transition.ofJson_of_spelledBy (now : Int) {t : Transition} {j : Json}
    (h : t.SpelledBy j) : ofJson now j = .valid t := by
  obtain ⟨es, rfl⟩ := h.exists_entries
  have hkeys : (t.fields.map Field.key).Pairwise Key.Apart := by
    show List.Pairwise Key.Apart [.previousPackage, .newPackage, .plain "timestamp"]
    decide
  have hgiven : ∀ i {f : Field}, t.fields[i]? = some f → f.Given es := fun i f hf =>
    Json.Describes.given h hkeys (List.mem_of_getElem? hf)
  have hprevious : Key.previousPackage.optionalText es = .valid t.previous :=
    (hgiven 0 rfl).optionalText_eq
  have hcurrent : Key.newPackage.required Read.text es = .valid t.current :=
    (hgiven 1 rfl).text_eq
  have htimestamp : Key.timestamp now es = .valid t.timestamp :=
    (hgiven 2 rfl).timestamp_eq now
  rw [ofJson, hprevious, hcurrent, htimestamp]
  rfl

/-! ## Writing -/

theorem Bounds.spelledBy_toJson (b : Bounds) : b.SpelledBy b.toJson := by
  apply Entered.describes
  exact .entered (.inl rfl) rfl <| .entered (.inl rfl) rfl <| .entered (.inl rfl) rfl <|
    .entered (.inl rfl) rfl .none

theorem Field.stands_boundsOrNull (key : Key) (b : Option Bounds) :
    (optionalBounds key b).stands (Element.boundsOrNull b) := by
  cases b with
  | none => rfl
  | some b => exact b.spelledBy_toJson

namespace Element

theorem entered_detailEntries {spelling : Key → String}
    (hspelling : ∀ key : Key, key.Spells (spelling key)) (d : Details)
    {fs : List Field} {es : List (String × Json)} (h : Entered fs es) :
    Entered (d.fields ++ fs) (detailEntries spelling d ++ es) := by
  refine .entered (.inl rfl) rfl <| .entered (hspelling _) rfl <| .entered (hspelling _) rfl <|
    .entered (.inl rfl) rfl <| .entered (hspelling _) rfl <| .entered (hspelling _) rfl <|
    .entered (.inl rfl) (Field.stands_boundsOrNull _ _) <|
    .entered (hspelling _) (Field.stands_boundsOrNull _ _) ?_
  exact .entered (hspelling _) rfl <| .entered (hspelling _) rfl <|
    .entered (hspelling _) rfl <| .entered (hspelling _) rfl <| .entered (hspelling _) rfl <|
    .entered (hspelling _) rfl <| .entered (hspelling _) rfl h

mutual

/-- What is written for an element is one of its spellings. -/
theorem spelledBy_toJson {spelling : Key → String}
    (hspelling : ∀ key : Key, key.Spells (spelling key)) (e : Element) :
    e.SpelledBy (e.toJson spelling) := by
  match e with
  | node d cs =>
    rw [SpelledBy, toJson]
    apply Entered.describes
    apply entered_detailEntries hspelling
    exact .entered (.inl rfl) ⟨_, rfl, eachSpelledBy_toJsonList hspelling cs⟩ <|
      .entered (.inl rfl) rfl .none

theorem eachSpelledBy_toJsonList {spelling : Key → String}
    (hspelling : ∀ key : Key, key.Spells (spelling key))
    (es : List Element) :
    EachSpelledBy es (toJsonList spelling es) := by
  match es with
  | [] => rw [EachSpelledBy, toJsonList]
  | e :: es =>
    rw [EachSpelledBy, toJsonList]
    exact ⟨_, _, rfl, spelledBy_toJson hspelling e, eachSpelledBy_toJsonList hspelling es⟩

end

end Element

theorem Snapshot.spelledBy_toJson {spelling : Key → String}
    (hspelling : ∀ key : Key, key.Spells (spelling key)) (t : Snapshot) :
    t.SpelledBy (t.toJson spelling) := by
  apply Entered.describes
  exact .entered (.inl rfl) (Element.spelledBy_toJson hspelling t.root) <|
    .entered (hspelling _) rfl <| .entered (.inl rfl) rfl .none

theorem Transition.spelledBy_toJson {spelling : Key → String}
    (hspelling : ∀ key : Key, key.Spells (spelling key)) (t : Transition) :
    t.SpelledBy (t.toJson spelling) := by
  apply Entered.describes
  exact .entered (hspelling _) rfl <| .entered (hspelling _) rfl <| .entered (.inl rfl) rfl .none

end GestureScript
