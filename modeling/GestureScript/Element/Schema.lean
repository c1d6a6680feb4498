import GestureScript.Element.Basic
import GestureScript.Json.Reader
import GestureScript.Json.Writer
import GestureScript.Outcome.Fault
import GestureScript.Validation.Field
import GestureScript.Validation.Scalar

/-!
# Screen elements as data

Keys are read in both spellings and are written in either. A field that is
absent has its default; an absent timestamp is the time of reading.
-/

set_option autoImplicit false

namespace GestureScript

namespace Bounds

/-- Bounds are values of their own: there must be room for one. -/
def ofJson : Nat → Json → Checked Bounds
  | 0, _ => .refuse .nestedTooDeep
  | _ + 1, .object es =>
    .both id
      (.both id
        (.both Bounds.mk ((Key.plain "left").required Read.integer es)
          ((Key.plain "top").required Read.integer es))
        ((Key.plain "right").required Read.integer es))
      ((Key.plain "bottom").required Read.integer es)
  | _ + 1, _ => .refuse .modelType

def toJson {τ : Type} (b : Bounds) : Json τ :=
  .object [("left", .int b.left), ("top", .int b.top), ("right", .int b.right),
    ("bottom", .int b.bottom)]

end Bounds

namespace Key

def className : Key := ⟨"className", "class_name"⟩
def packageName : Key := ⟨"packageName", "package_name"⟩
def contentDescription : Key := ⟨"contentDescription", "content_description"⟩
def viewIdResourceName : Key := ⟨"viewIdResourceName", "view_id_resource_name"⟩
def boundsInScreen : Key := ⟨"boundsInScreen", "bounds_in_screen"⟩
def isClickable : Key := ⟨"isClickable", "is_clickable"⟩
def isEnabled : Key := ⟨"isEnabled", "is_enabled"⟩
def isFocusable : Key := ⟨"isFocusable", "is_focusable"⟩
def isFocused : Key := ⟨"isFocused", "is_focused"⟩
def isScrollable : Key := ⟨"isScrollable", "is_scrollable"⟩
def isSelected : Key := ⟨"isSelected", "is_selected"⟩
def isVisible : Key := ⟨"isVisible", "is_visible"⟩
def previousPackage : Key := ⟨"previousPackage", "previous_package"⟩
def newPackage : Key := ⟨"newPackage", "new_package"⟩

def optionalText (key : Key) (es : List (String × Json)) : Checked (Option String) :=
  key.withDefault none (Read.optional Read.text) es

def optionalBounds (key : Key) (room : Nat) (es : List (String × Json)) :
    Checked (Option Bounds) :=
  key.withDefault none (Read.optional (Bounds.ofJson room)) es

def flag (key : Key) (absent : Bool) (es : List (String × Json)) : Checked Bool :=
  key.withDefault absent Read.truth es

def timestamp (now : Int) (es : List (String × Json)) : Checked Int :=
  (plain "timestamp").withDefault now Read.integer es

end Key

namespace Element

/-- All details but the timestamp, which comes after the children. -/
def readDetails (room : Nat) (es : List (String × Json)) : Checked (Int → Details) :=
  Details.mk <$> (Key.plain "id").optionalText es
    <*> Key.className.optionalText es
    <*> Key.packageName.optionalText es
    <*> (Key.plain "text").optionalText es
    <*> Key.contentDescription.optionalText es
    <*> Key.viewIdResourceName.optionalText es
    <*> (Key.plain "bounds").optionalBounds room es
    <*> Key.boundsInScreen.optionalBounds room es
    <*> Key.isClickable.flag false es
    <*> Key.isEnabled.flag true es
    <*> Key.isFocusable.flag false es
    <*> Key.isFocused.flag false es
    <*> Key.isScrollable.flag false es
    <*> Key.isSelected.flag false es
    <*> Key.isVisible.flag true es

def assemble (now : Int) (room : Nat) (es : List (String × Json))
    (children : Checked (List Element)) : Checked Element :=
  .both (fun mk t => mk t) (.both (fun mk cs t => node (mk t) cs) (readDetails room es) children)
    (Key.timestamp now es)

mutual

/-- An element is read while there is room for as many values as are nested in it. -/
def ofJson (now : Int) : Nat → Json → Checked Element
  | 0, _ => .refuse .nestedTooDeep
  | room + 1, .object es =>
    assemble now room es
      (match childrenOfEntries? now room es with
        | some children => children.under (.key "children")
        | none => .valid [])
  | _ + 1, _ => .refuse .modelType

/-- The children under their key. Of repeated keys the last one counts. -/
def childrenOfEntries? (now : Int) (room : Nat) :
    List (String × Json) → Option (Checked (List Element))
  | [] => none
  | (k, v) :: es =>
    match childrenOfEntries? now room es with
    | some children => some children
    | none => if k = "children" then some (childrenOfJson now room v) else none

def childrenOfJson (now : Int) (room : Nat) : Json → Checked (List Element)
  | .array items => childrenFrom now room 0 items
  | _ => .refuse .tupleType

def childrenFrom (now : Int) (room i : Nat) : List Json → Checked (List Element)
  | [] => .valid []
  | j :: js =>
    .both (· :: ·) ((ofJson now room j).under (.index i)) (childrenFrom now room (i + 1) js)

end

variable {τ : Type}

def textOrNull (t : Option τ) : Json τ := t.elim .null .text

def boundsOrNull (b : Option Bounds) : Json τ := b.elim .null Bounds.toJson

def detailEntries (spelling : Key → String) (d : Details τ) : List (String × Json τ) :=
  [("id", textOrNull d.id),
   (spelling .className, textOrNull d.className),
   (spelling .packageName, textOrNull d.packageName),
   ("text", textOrNull d.text),
   (spelling .contentDescription, textOrNull d.contentDescription),
   (spelling .viewIdResourceName, textOrNull d.viewIdResourceName),
   ("bounds", boundsOrNull d.bounds),
   (spelling .boundsInScreen, boundsOrNull d.boundsInScreen),
   (spelling .isClickable, .bool d.isClickable),
   (spelling .isEnabled, .bool d.isEnabled),
   (spelling .isFocusable, .bool d.isFocusable),
   (spelling .isFocused, .bool d.isFocused),
   (spelling .isScrollable, .bool d.isScrollable),
   (spelling .isSelected, .bool d.isSelected),
   (spelling .isVisible, .bool d.isVisible)]

mutual

def toJson (spelling : Key → String) : Element τ → Json τ
  | node d cs =>
    .object (detailEntries spelling d ++
      [("children", .array (toJsonList spelling cs)), ("timestamp", .int d.timestamp)])

def toJsonList (spelling : Key → String) : List (Element τ) → List (Json τ)
  | [] => []
  | e :: es => toJson spelling e :: toJsonList spelling es

end

/-- The text of an element, unless it is nested too deeply or has halves of characters in it. -/
def write? [TextKind τ] (spelling : Key → String) (e : Element τ) : Option String :=
  if e.nesting ≤ Json.nestingLimit then (e.toJson spelling).write.toOption else none

/-- The element that a value is, with nothing around it. -/
def ofValue (now : Int) : Json → Checked Element := ofJson now Json.nestingLimit

def ofText (now : Int) (s : String) : Checked Element :=
  match Json.read? .standard s.toList with
  | some j => ofValue now j
  | none => .refuse .notJson

end Element

namespace Snapshot

/-- The snapshot counts as one more value around its root. -/
def ofJson (now : Int) : Json → Checked Snapshot
  | .object es =>
    .both id
      (.both Snapshot.mk
        ((Key.plain "root").required (Element.ofJson now (Json.nestingLimit - 1)) es)
        (Key.packageName.required Read.text es))
      (Key.timestamp now es)
  | _ => .refuse .modelType

def ofText (now : Int) (s : String) : Checked Snapshot :=
  match Json.read? .standard s.toList with
  | some j => ofJson now j
  | none => .refuse .notJson

variable {τ : Type}

def toJson (spelling : Key → String) (t : Snapshot τ) : Json τ :=
  .object [("root", t.root.toJson spelling), (spelling .packageName, .text t.packageName),
    ("timestamp", .int t.timestamp)]

/-- The snapshot counts as one more value around its root. -/
def isShallow (t : Snapshot τ) : Bool := t.root.nesting + 1 ≤ Json.nestingLimit

variable [TextKind τ]

/-- The text of a snapshot, unless it is nested too deeply or has halves of characters in it. -/
def write (spelling : Key → String) (t : Snapshot τ) : Except Fault String :=
  if t.isShallow then (t.toJson spelling).write else .error .nestedTooDeep

def write? (spelling : Key → String) (t : Snapshot τ) : Option String :=
  (t.write spelling).toOption

end Snapshot

namespace Transition

def ofJson (now : Int) : Json → Checked Transition
  | .object es =>
    .both id
      (.both Transition.mk (Key.previousPackage.optionalText es)
        (Key.newPackage.required Read.text es))
      (Key.timestamp now es)
  | _ => .refuse .modelType

def toJson {τ : Type} (spelling : Key → String) (t : Transition τ) : Json τ :=
  .object [(spelling .previousPackage, Element.textOrNull t.previous),
    (spelling .newPackage, .text t.current), ("timestamp", .int t.timestamp)]

end Transition

/-- The time in whole milliseconds of a clock that shows seconds. -/
def millisecondsOf (seconds : Binary64) : Except Fault Int :=
  match seconds.scale 1000 1 with
  | .infinite _ => .error .infiniteTime
  | x => x.truncate?.elim (.error .undefinedTime) .ok

end GestureScript
