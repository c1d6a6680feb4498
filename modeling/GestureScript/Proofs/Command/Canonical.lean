import GestureScript.Proofs.Command.Written

/-!
# Commands that were read from data

Data may give a command in many ways: integers as texts, truth values as words, fields in any
order or left out. Whatever way was taken, the command that was read is well formed, and the
value that is written for it is read as the same command again. The same holds of the text that
is written for it, but none is written if the command types halves of characters.
-/

set_option autoImplicit false

namespace GestureScript

/-! ## What makes a check succeed -/

namespace Checked

variable {α β γ : Type}

theorem both_eq_valid_iff (f : α → β → γ) (x : Checked α) (y : Checked β) (c : γ) :
    both f x y = .valid c ↔ ∃ a b, x = .valid a ∧ y = .valid b ∧ f a b = c := by
  cases x <;> cases y <;> simp [both]

theorem under_eq_valid_iff (step : PathStep) (x : Checked α) (a : α) :
    x.under step = .valid a ↔ x = .valid a := by
  cases x <;> simp [under]

theorem andThen_eq_valid_iff (x : Checked α) (f : α → Checked β) (b : β) :
    x.andThen f = .valid b ↔ ∃ a, x = .valid a ∧ f a = .valid b := by
  cases x <;> simp [andThen]

end Checked

variable {τ : Type}

/-- A field that is required holds what was read for it. -/
theorem Key.exists_of_required {α : Type} {key : Key} {read : Json τ → Checked α}
    {es : List (String × Json τ)} {a : α} (h : key.required read es = .valid a) :
    ∃ v, read v = .valid a := by
  rw [Key.required] at h
  split at h
  next name v _ => exact ⟨v, (Checked.under_eq_valid_iff _ _ _).mp h⟩
  next => contradiction

theorem Key.absent_or_exists_of_withDefault {α : Type} {key : Key} {absent : α}
    {read : Json τ → Checked α} {es : List (String × Json τ)} {a : α}
    (h : key.withDefault absent read es = .valid a) : a = absent ∨ ∃ v, read v = .valid a := by
  rw [Key.withDefault] at h
  split at h
  next name v _ => exact .inr ⟨v, (Checked.under_eq_valid_iff _ _ _).mp h⟩
  next =>
    cases h
    exact .inl rfl

variable [TextKind τ]

theorem Read.le_of_atLeast {bound n : Int} {j : Json τ} (h : atLeast bound j = .valid n) :
    bound ≤ n := by
  rw [atLeast, Checked.andThen_eq_valid_iff] at h
  obtain ⟨m, -, hm⟩ := h
  split at hm
  next hbound =>
    cases hm
    exact hbound
  next => contradiction

/-- A duration that was left out keeps the bound, too. -/
theorem Key.le_of_withDefault {key : Key} {bound absent n : Int} {es : List (String × Json τ)}
    (h : key.withDefault absent (Read.atLeast bound) es = .valid n) (habsent : bound ≤ absent) :
    bound ≤ n := by
  rcases absent_or_exists_of_withDefault h with rfl | ⟨v, hv⟩
  · exact habsent
  · exact Read.le_of_atLeast hv

theorem Point.ne_nil_of_listOfJson {j : Json τ} {points : List Point}
    (h : listOfJson j = .valid points) : points ≠ [] := by
  rw [listOfJson.eq_def] at h
  split at h
  next items =>
    split at h
    · contradiction
    next hne _ =>
      cases h
      exact fun hnil => hne (by assumption)
    · contradiction
  next => contradiction

namespace Command

theorem Kind.name_of_ofName? {s : String} {k : Kind} (h : ofName? s = some k) : k.name = s := by
  have hname := List.find?_some h
  exact eq_of_beq hname

theorem eq_of_kindOfTag? {tag : Json τ} {k : Kind} (h : kindOfTag? tag = some k) :
    tag = .ofString k.name := by
  cases tag with
  | text t =>
    obtain ⟨s, hs, hk⟩ := Option.bind_eq_some_iff.mp h
    rw [(TextKind.string?_eq_some_iff t s).mp hs, Kind.name_of_ofName? hk, Json.ofString]
  | null | bool | int | real | array | object => cases h

/-! ## Commands -/

/-- The fields of a kind make a well-formed command of that kind. -/
theorem wellFormed_of_readFields {es : List (String × Json τ)} {k : Kind} {c : Command τ}
    (h : readFields es k = .valid c) : c.kind = k ∧ c.WellFormed := by
  cases k with
  | tap =>
    obtain ⟨points, duration, hpoints, hduration, rfl⟩ := (Checked.both_eq_valid_iff _ _ _ _).mp h
    obtain ⟨v, hv⟩ := Key.exists_of_required hpoints
    exact ⟨rfl, Point.ne_nil_of_listOfJson hv, Key.le_of_withDefault hduration (by decide)⟩
  | swipe =>
    obtain ⟨make, duration, hmake, hduration, rfl⟩ := (Checked.both_eq_valid_iff _ _ _ _).mp h
    obtain ⟨start, finish, -, -, rfl⟩ := (Checked.both_eq_valid_iff _ _ _ _).mp hmake
    exact ⟨rfl, Key.le_of_withDefault hduration (by decide)⟩
  | scroll =>
    obtain ⟨direction, duration, -, hduration, rfl⟩ := (Checked.both_eq_valid_iff _ _ _ _).mp h
    exact ⟨rfl, Key.le_of_withDefault hduration (by decide)⟩
  | typeText =>
    obtain ⟨make, clear, hmake, -, rfl⟩ := (Checked.both_eq_valid_iff _ _ _ _).mp h
    obtain ⟨text, commit, -, -, rfl⟩ := (Checked.both_eq_valid_iff _ _ _ _).mp hmake
    exact ⟨rfl, trivial⟩
  | wait =>
    obtain ⟨duration, hduration, rfl⟩ := (Checked.map_eq_valid_iff _ _ _).mp h
    obtain ⟨v, hv⟩ := Key.exists_of_required hduration
    exact ⟨rfl, Read.le_of_atLeast hv⟩
  | press =>
    obtain ⟨button, -, rfl⟩ := (Checked.map_eq_valid_iff _ _ _).mp h
    exact ⟨rfl, trivial⟩

/-- A command is read from an object whose tag names its kind. -/
theorem exists_of_ofJson {v : Json τ} {c : Command τ} (h : ofJson v = .valid c) :
    ∃ es, v = .object es ∧ Json.lookup? "kind" es = some (.ofString c.kind.name) ∧
      c.WellFormed := by
  rw [ofJson.eq_def] at h
  split at h
  next es =>
    split at h
    · contradiction
    next tag hlookup =>
      split at h
      · contradiction
      next k hk =>
        obtain ⟨rfl, hformed⟩ :=
          wellFormed_of_readFields ((Checked.under_eq_valid_iff _ _ _).mp h)
        exact ⟨es, rfl, by rw [hlookup, eq_of_kindOfTag? hk], hformed⟩
  next => contradiction

/-! ## Commands that type strings -/

/-- The same command, if what it types is a string. -/
def strings? : Command τ → Option Command
  | .tap points duration => some (.tap points duration)
  | .swipe start finish duration => some (.swipe start finish duration)
  | .scroll direction duration => some (.scroll direction duration)
  | .typeText text commit clear =>
    (TextKind.string? text).map fun text => .typeText text commit clear
  | .wait duration => some (.wait duration)
  | .press button => some (.press button)

theorem strings?_eq (c : Command) : c.strings? = some c := by cases c <;> rfl

theorem kept_of_strings? {c : Command τ} {d : Command} (h : c.strings? = some d) :
    d.integers = c.integers ∧ (c.WellFormed → d.WellFormed) := by
  cases c with
  | typeText text commit clear =>
    obtain ⟨s, -, rfl⟩ := Option.map_eq_some_iff.mp h
    exact ⟨rfl, id⟩
  | tap | swipe | scroll | wait | press =>
    obtain rfl := Option.some.inj h
    exact ⟨rfl, id⟩

theorem itemStrings_points (points : List Point) :
    Json.itemStrings (points.map (Point.toJson (τ := τ))) = .ok (points.map Point.toJson) := by
  induction points with
  | nil => rfl
  | cons p points ih =>
    rw [List.map_cons, Json.itemStrings, ih]
    rfl

/-- A command that types a string is written as it would be without any halves about. -/
theorem write_of_strings? {c : Command τ} {d : Command} (h : c.strings? = some d) :
    c.write = .ok d.toJson.compact := by
  have hstrings : c.toJson.strings = .ok d.toJson := by
    cases c with
    | typeText text commit clear =>
      obtain ⟨s, hs, rfl⟩ := Option.map_eq_some_iff.mp h
      simp only [toJson, Json.strings, Json.entryStrings, Json.strings_ofString, hs]
      rfl
    | tap points duration =>
      obtain rfl := Option.some.inj h
      simp only [toJson, Json.strings, Json.entryStrings, Json.strings_ofString,
        itemStrings_points]
      rfl
    | swipe | scroll | wait | press =>
      obtain rfl := Option.some.inj h
      simp only [toJson, Json.strings, Json.entryStrings, Json.strings_ofString, Point.toJson]
      rfl
  rw [write, Json.write, hstrings]
  rfl

/-- What is written for a command, as a value or as a text, is read as the same command. The
text must have no integers that are too long. -/
structure Reproduced (l : Json.Limits) (c : Command τ) : Prop where
  value : ofJson c.toJson = .valid c
  text : c.IsShort → ∀ d, c.strings? = some d →
    ∃ text j, c.write = .ok text ∧ Json.read? l text.toList = some j ∧ ofJson j = .valid d

theorem WellFormed.reproduced {l : Json.Limits} (hwhole : Numeral.digitLimit + 1 ≤ l.whole)
    (hdepth : 3 ≤ l.depth) {c : Command τ} (h : c.WellFormed) : c.Reproduced l where
  value := ofJson_toJson h
  text := by
    intro hshort d hd
    obtain ⟨hintegers, hformed⟩ := kept_of_strings? hd
    have hfits : Json.Fits l.Takes d.toJson := by
      apply fits_toJson
      rw [hintegers]
      exact fun n hn => (hshort n hn).length_written_le.trans hwhole
    refine ⟨_, d.toJson, write_of_strings? hd, ?_, ofJson_toJson (hformed h)⟩
    rw [Json.compact, String.toList_ofList]
    exact Json.read?_chars Json.Style.usual_compact hfits (d.depth_toJson_le.trans hdepth)

/-- A value that is accepted as a command has the command's kind as its tag, whatever kind of
text is in it. The command keeps all bounds, and is what is read again when it is written. So
is every command of a line. The reader of the text must have room for the integers. -/
theorem accepted_commands_reproduced {l : Json.Limits}
    (hwhole : Numeral.digitLimit + 1 ≤ l.whole) (hdepth : 3 ≤ l.depth) :
    (∀ (τ : Type) [TextKind τ] (v : Json τ) (c : Command τ), ofJson v = .valid c →
      (∃ es, v = .object es ∧ Json.lookup? "kind" es = some (.ofString c.kind.name)) ∧
        c.WellFormed ∧ c.Reproduced l) ∧
    ∀ (settings : Settings) (line : List Char) (c : Command),
      ofLine? settings line = some c → c.Reproduced l := by
  constructor
  · intro τ _ v c h
    obtain ⟨es, hv, htag, hformed⟩ := exists_of_ofJson h
    exact ⟨⟨es, hv, htag⟩, hformed, hformed.reproduced hwhole hdepth⟩
  · intro settings line c h
    exact (Means.of_ofLine? h).wellFormed.reproduced hwhole hdepth

/-- A tap that is given in other words: numerals with signs, blanks and underscores, a truth
value and a binary number as integers, and keys that mean nothing. -/
theorem loose_tap_reproduced :
    let l : Json.Limits := ⟨4301, 3⟩
    let v : Json := .object [("duration_ms", .text " 1_0 "), ("note", .null),
      ("points", .array [.object [("x", .text "+05"), ("y", .bool true)],
        .object [("y", .real (.ofDecimal false 2 0)), ("z", .int 7), ("x", .int (-3))]]),
      ("kind", .text "tap")]
    let c : Command := .tap [⟨5, 1⟩, ⟨-3, 2⟩] 10
    Numeral.digitLimit + 1 ≤ l.whole ∧ 3 ≤ l.depth ∧ ofJson v = .valid c ∧
      c.toJson.compact =
        "\x7b\"kind\":\"tap\",\"points\":[\x7b\"x\":5,\"y\":1\x7d," ++
          "\x7b\"x\":-3,\"y\":2\x7d],\"duration_ms\":10\x7d" ∧
      (∃ text j, c.write = .ok text ∧ Json.read? l text.toList = some j ∧ ofJson j = .valid c) ∧
      ofLine? .default " Wait +07 ".toList = some (.wait 7) ∧
      ofJson (Command.wait 7 : Command).toJson = .valid (.wait 7) := by
  intro l v c
  have hread : ofJson v = .valid c := by rfl
  have hline : ofLine? .default " Wait +07 ".toList = some (.wait 7) := by decide +kernel
  obtain ⟨hvalues, hlines⟩ := accepted_commands_reproduced (l := l) (by decide) (by decide)
  exact ⟨by decide, by decide, hread, by decide +kernel,
    (hvalues String v c hread).2.2.text (by decide +kernel) c c.strings?_eq, hline,
    (hlines _ _ _ hline).value⟩

/-- Half of a character is accepted as a text to type, and has no JSON text. -/
theorem half_typed_not_written :
    let text : LooseText := ⟨[.half ⟨0⟩]⟩
    let v : Json LooseText := .object [("kind", .ofString "type_text"), ("text", .text text)]
    let c : Command LooseText := .typeText text false false
    ofJson v = .valid c ∧ ofJson c.toJson = .valid c ∧
      c.write = .error (.notEncodable [.half ⟨0⟩]) ∧
      ¬∀ (v : Json LooseText) (c : Command LooseText), ofJson v = .valid c →
        ∃ text j, c.write = .ok text ∧ Json.read? .standard text.toList = some j := by
  intro text v c
  have hread : ofJson v = .valid c := by rfl
  have hwrite : c.write = .error (.notEncodable [.half ⟨0⟩]) := by rfl
  refine ⟨hread, by rfl, hwrite, fun h => ?_⟩
  obtain ⟨text, j, hwritten, -⟩ := h v c hread
  rw [hwrite] at hwritten
  cases hwritten

end Command

end GestureScript
