import GestureScript.Proofs.Element.RoundTrip

/-!
# Elements that are read however they are spelled

Whatever keys were chosen for the fields of an element, of a snapshot or of a transition, and
of all values in it, what is read is the same. What is written in camel case or in snake case
is a case of this.
-/

set_option autoImplicit false

namespace GestureScript

theorem Key.spells_of_mem {spelling : Key → String} (h : spelling ∈ [Key.camel, Key.snake])
    (key : Key) : key.Spells (spelling key) := by
  rcases List.mem_cons.mp h with rfl | h
  · exact .inl rfl
  · rw [List.mem_singleton.mp h]
    exact .inr rfl

theorem Json.checkText_of_read? {α : Type} {l : Limits} {text : String} {j : Json}
    (h : read? l text.toList = some j) (check : Json → Checked α) :
    checkText l check text = check j := by
  rw [checkText, h]

/-- Every spelling of an element is read as the element, wherever there is room for it, and
every spelling of a snapshot or of a transition as what it spells. So it is with each text
that is read as such a value. What is written in one of the two spellings is among them. -/
theorem every_spelling_read (now : Int) :
    (∀ (e : Element) (room : Nat) (j : Json), e.nesting ≤ room → e.SpelledBy j →
      Element.ofJson now room j = .valid e) ∧
    (∀ (t : Snapshot) (j : Json), t.root.nesting < Json.nestingLimit → t.SpelledBy j →
      Snapshot.ofJson now j = .valid t) ∧
    (∀ (t : Transition) (j : Json), t.SpelledBy j → Transition.ofJson now j = .valid t) ∧
    (∀ (l : Json.Limits) (text : String) (j : Json), Json.read? l text.toList = some j →
      (∀ e : Element, e.nesting ≤ Json.nestingLimit → e.SpelledBy j →
        Json.checkText l (Element.ofValue now) text = .valid e) ∧
      (∀ t : Snapshot, t.root.nesting < Json.nestingLimit → t.SpelledBy j →
        Json.checkText l (Snapshot.ofJson now) text = .valid t) ∧
      ∀ t : Transition, t.SpelledBy j →
        Json.checkText l (Transition.ofJson now) text = .valid t) ∧
    ∀ spelling ∈ [Key.camel, Key.snake],
      (∀ e : Element, e.SpelledBy (e.toJson spelling)) ∧
      (∀ t : Snapshot, t.SpelledBy (t.toJson spelling)) ∧
      ∀ t : Transition, t.SpelledBy (t.toJson spelling) := by
  refine ⟨?_, ?_, ?_, ?_, ?_⟩
  · intro e room j hroom h
    exact Element.ofJson_of_spelledBy now e h hroom
  · intro t j hroom h
    exact Snapshot.ofJson_of_spelledBy now h hroom
  · intro t j h
    exact Transition.ofJson_of_spelledBy now h
  · intro l text j hread
    refine ⟨fun e hroom h => ?_, fun t hroom h => ?_, fun t h => ?_⟩
    · rw [Json.checkText_of_read? hread]
      exact Element.ofJson_of_spelledBy now e h hroom
    · rw [Json.checkText_of_read? hread]
      exact Snapshot.ofJson_of_spelledBy now h hroom
    · rw [Json.checkText_of_read? hread]
      exact Transition.ofJson_of_spelledBy now h
  · intro spelling hspelling
    have hspells := Key.spells_of_mem hspelling
    exact ⟨Element.spelledBy_toJson hspells, Snapshot.spelledBy_toJson hspells,
      Transition.spelledBy_toJson hspells⟩

/-- The keys of an element in the order against that of its fields, in both spellings, with
most defaults left out and with a key that is not known. -/
theorem backward_spelling_read :
    let b : Bounds := ⟨1, 2, 3, 4⟩
    let child : Element := .node { Element.Details.unknown 8 with packageName := some "app" } []
    let e : Element := .node
      { Element.Details.unknown 7 with
        text := some "Go"
        boundsInScreen := some b
        isEnabled := false }
      [child]
    let spelledChild : Json := .object [("timestamp", .int 8), ("isVisible", .bool true),
      ("package_name", .text "app"), ("id", .null)]
    let spelledBounds : Json := .object [("bottom", .int 4), ("right", .int 3), ("top", .int 2),
      ("left", .int 1)]
    let spelled : Json := .object [("z_index", .real (.infinite false)), ("timestamp", .int 7),
      ("children", .array [spelledChild]), ("is_selected", .bool false),
      ("is_enabled", .bool false), ("boundsInScreen", spelledBounds), ("text", .text "Go"),
      ("className", .null)]
    let spelledSnapshot : Json := .object [("timestamp", .int 9), ("package_name", .text "app"),
      ("root", spelled)]
    let spelledTransition : Json := .object [("timestamp", .int (-5)), ("newPackage", .text "app"),
      ("previousPackage", .text "home")]
    Element.ofJson 0 2 spelled = .valid e ∧
      Snapshot.ofJson 0 spelledSnapshot = .valid ⟨e, "app", 9⟩ ∧
      Json.checkText .standard (Transition.ofJson 0) spelledTransition.compact =
        .valid ⟨some "home", "app", -5⟩ := by
  intro b child e spelledChild spelledBounds spelled spelledSnapshot spelledTransition
  obtain ⟨helements, hsnapshots, _, htexts, _⟩ := every_spelling_read 0
  have hback {es kept : List (String × Json)} (h : kept.reverse = es) : es.Perm kept :=
    h ▸ List.reverse_perm kept
  have hbounds : b.SpelledBy spelledBounds := by
    refine ⟨[("left", .int 1), ("top", .int 2), ("right", .int 3), ("bottom", .int 4)], [],
      hback rfl, ?_, by simp⟩
    exact .entered (.inl rfl) rfl <| .entered (.inl rfl) rfl <| .entered (.inl rfl) rfl <|
      .entered (.inl rfl) rfl .none
  have hchild : child.SpelledBy spelledChild := by
    rw [Element.SpelledBy]
    refine ⟨[("id", .null), ("package_name", .text "app"), ("isVisible", .bool true),
      ("timestamp", .int 8)], [], hback rfl, ?_, by simp⟩
    refine .entered (.inl rfl) rfl <| .leftOut rfl <| .entered (.inr rfl) rfl <| .leftOut rfl <|
      .leftOut rfl <| .leftOut rfl <| .leftOut rfl <| .leftOut rfl ?_
    exact .leftOut rfl <| .leftOut rfl <| .leftOut rfl <| .leftOut rfl <| .leftOut rfl <|
      .leftOut rfl <| .entered (.inl rfl) rfl <| .leftOut rfl <| .entered (.inl rfl) rfl .none
  have hspelled : e.SpelledBy spelled := by
    rw [Element.SpelledBy]
    refine ⟨[("className", .null), ("text", .text "Go"), ("boundsInScreen", spelledBounds),
      ("is_enabled", .bool false), ("is_selected", .bool false),
      ("children", .array [spelledChild]), ("timestamp", .int 7)],
      [("z_index", .real (.infinite false))], hback rfl, ?_, ?_⟩
    · refine .leftOut rfl <| .entered (.inl rfl) rfl <| .leftOut rfl <| .entered (.inl rfl) rfl <|
        .leftOut rfl <| .leftOut rfl <| .leftOut rfl <| .entered (.inl rfl) hbounds ?_
      refine .leftOut rfl <| .entered (.inr rfl) rfl <| .leftOut rfl <| .leftOut rfl <|
        .leftOut rfl <| .entered (.inr rfl) rfl <| .leftOut rfl <|
        .entered (.inl rfl) ⟨_, rfl, ?_⟩ <| .entered (.inl rfl) rfl .none
      rw [Element.EachSpelledBy]
      exact ⟨_, _, rfl, hchild, by rw [Element.EachSpelledBy]⟩
    · have hunknown : ∀ key ∈ Element.keys, ¬ key.Spells "z_index" := by decide
      rw [← Element.keys_eq, List.forall_mem_map] at hunknown
      simpa using hunknown
  have hsnapshot : (⟨e, "app", 9⟩ : Snapshot).SpelledBy spelledSnapshot := by
    refine ⟨[("root", spelled), ("package_name", .text "app"), ("timestamp", .int 9)], [],
      hback rfl, ?_, by simp⟩
    exact .entered (.inl rfl) hspelled <| .entered (.inr rfl) rfl <|
      .entered (.inl rfl) rfl .none
  have htransition : (⟨some "home", "app", -5⟩ : Transition).SpelledBy spelledTransition := by
    refine ⟨[("previousPackage", .text "home"), ("newPackage", .text "app"),
      ("timestamp", .int (-5))], [], hback rfl, ?_, by simp⟩
    exact .entered (.inl rfl) rfl <| .entered (.inl rfl) rfl <| .entered (.inl rfl) rfl .none
  have hread : Json.read? .standard spelledTransition.compact.toList = some spelledTransition := by
    have hwritten : (Numeral.written (-5)).length ≤ Json.Limits.standard.whole := by decide
    have hfits : Json.Fits Json.Limits.standard.Takes spelledTransition :=
      ⟨hwritten, trivial, trivial, trivial⟩
    rw [Json.compact, String.toList_ofList,
      Json.read?_chars Json.Style.usual_compact hfits (by decide)]
  exact ⟨helements e 2 spelled (by decide) hspelled,
    hsnapshots _ spelledSnapshot (by decide) hsnapshot,
    (htexts .standard _ _ hread).2.2 _ htransition⟩

end GestureScript
