import GestureScript.Validation.Basic
import GestureScript.Validation.Field

/-!
# Fields among entries

An object describes some fields if each of them is entered once, under either spelling of its
key, or is left out where its default stands for it. The order of the entries does not matter,
and neither do entries of which no field knows. Then each field is read as what it holds.
-/

set_option autoImplicit false

namespace GestureScript

/-! ## Spellings -/

namespace Key

def Spells (key : Key) (name : String) : Prop := name = key.camel ∨ name = key.snake

instance (key : Key) : DecidablePred key.Spells := fun name =>
  inferInstanceAs (Decidable (name = key.camel ∨ name = key.snake))

/-- No name spells both keys. -/
def Apart (key other : Key) : Prop := ¬ other.Spells key.camel ∧ ¬ other.Spells key.snake

instance : DecidableRel Apart := fun key other =>
  inferInstanceAs (Decidable (¬ other.Spells key.camel ∧ ¬ other.Spells key.snake))

theorem Apart.not_spells {key other : Key} (h : key.Apart other) {name : String}
    (hname : key.Spells name) : ¬ other.Spells name := by
  rcases hname with rfl | rfl
  · exact h.1
  · exact h.2

end Key

/-! ## Descriptions -/

/-- A field of an object, with what it holds. -/
structure Field where
  key : Key
  /-- Does a value stand for what the field holds? -/
  stands : Json → Prop
  /-- Is it the default that the field holds? -/
  spare : Prop

/-- Each field is entered under one spelling of its key, or left out if it may be. -/
inductive Entered : List Field → List (String × Json) → Prop
  | none : Entered [] []
  | entered {f fs name v es} : f.key.Spells name → f.stands v → Entered fs es →
      Entered (f :: fs) ((name, v) :: es)
  | leftOut {f fs es} : f.spare → Entered fs es → Entered (f :: fs) es

/-- Some fields are entered in any order, and the other keys spell none of them. -/
def Json.Describes (fields : List Field) : Json → Prop
  | .object es => ∃ kept extra, es.Perm (kept ++ extra) ∧ Entered fields kept ∧
      ∀ e ∈ extra, ∀ f ∈ fields, ¬ f.key.Spells e.1
  | _ => False

/-- What some entries say of a field. -/
inductive Field.Given (f : Field) (es : List (String × Json)) : Prop
  | once (name : String) (v : Json) : f.key.Spells name → f.stands v → (name, v) ∈ es →
      (∀ e ∈ es, f.key.Spells e.1 → e = (name, v)) → Given f es
  | absent : f.spare → (∀ e ∈ es, ¬ f.key.Spells e.1) → Given f es

theorem Entered.exists_spelled {fields : List Field} {es : List (String × Json)}
    (h : Entered fields es) : ∀ e ∈ es, ∃ f ∈ fields, f.key.Spells e.1 := by
  induction h with
  | none => simp
  | @entered f fs name v es hname _ _ ih =>
    rw [List.forall_mem_cons]
    refine ⟨⟨f, by simp, hname⟩, fun e he => ?_⟩
    obtain ⟨g, hg, hspells⟩ := ih e he
    exact ⟨g, List.mem_cons_of_mem f hg, hspells⟩
  | @leftOut f fs es _ _ ih =>
    intro e he
    obtain ⟨g, hg, hspells⟩ := ih e he
    exact ⟨g, List.mem_cons_of_mem f hg, hspells⟩

/-- All fields are entered in their order, with nothing beside them. -/
theorem Entered.describes {fields : List Field} {es : List (String × Json)}
    (h : Entered fields es) : Json.Describes fields (.object es) :=
  ⟨es, [], by simp, h, by simp⟩

theorem Json.Describes.exists_entries {fields : List Field} {j : Json} (h : j.Describes fields) :
    ∃ es, j = .object es := by
  cases j with
  | object es => exact ⟨es, rfl⟩
  | _ => cases h

theorem pairwise_apart_cons {f : Field} {fs : List Field} :
    ((f :: fs).map Field.key).Pairwise Key.Apart ↔
      (∀ g ∈ fs, f.key.Apart g.key) ∧ (fs.map Field.key).Pairwise Key.Apart := by
  rw [List.map_cons, List.pairwise_cons, List.forall_mem_map]

theorem Entered.given {fields : List Field} {es : List (String × Json)} (h : Entered fields es)
    (hkeys : (fields.map Field.key).Pairwise Key.Apart) {f : Field}
    (hf : f ∈ fields) : f.Given es := by
  induction h with
  | none => cases hf
  | @entered g fs name v es hname hv hrest ih =>
    obtain ⟨hfirst, hkeys⟩ := pairwise_apart_cons.mp hkeys
    rcases List.mem_cons.mp hf with rfl | hf
    · refine .once name v hname hv (List.mem_cons_self) fun e he hspells => ?_
      rcases List.mem_cons.mp he with rfl | he
      · rfl
      · obtain ⟨other, hother, hspells'⟩ := hrest.exists_spelled e he
        exact absurd hspells' ((hfirst other hother).not_spells hspells)
    · -- the first entry is of a field whose key is another
      have hother : ¬ f.key.Spells name := (hfirst f hf).not_spells hname
      cases ih hkeys hf with
      | once name' v' hname' hv' hmem honly =>
        refine .once name' v' hname' hv' (List.mem_cons_of_mem _ hmem) ?_
        exact List.forall_mem_cons.mpr ⟨fun hspells => absurd hspells hother, honly⟩
      | absent hspare hnone =>
        exact .absent hspare (List.forall_mem_cons.mpr ⟨hother, hnone⟩)
  | @leftOut g fs es hspare hrest ih =>
    obtain ⟨hfirst, hkeys⟩ := pairwise_apart_cons.mp hkeys
    rcases List.mem_cons.mp hf with rfl | hf
    · refine .absent hspare fun e he hspells => ?_
      obtain ⟨other, hother, hspells'⟩ := hrest.exists_spelled e he
      exact (hfirst other hother).not_spells hspells hspells'
    · exact ih hkeys hf

/-- The order of the entries and the entries that are not of the field do not matter. -/
theorem Field.Given.of_perm {f : Field} {es kept extra : List (String × Json)}
    (h : f.Given kept) (hperm : es.Perm (kept ++ extra))
    (hextra : ∀ e ∈ extra, ¬ f.key.Spells e.1) : f.Given es := by
  have hcases : ∀ e ∈ es, e ∈ kept ∨ e ∈ extra := fun e he =>
    List.mem_append.mp (hperm.mem_iff.mp he)
  cases h with
  | once name v hname hv hmem honly =>
    refine .once name v hname hv (hperm.mem_iff.mpr (List.mem_append_left _ hmem)) ?_
    intro e he hspells
    rcases hcases e he with hkept | hadded
    · exact honly e hkept hspells
    · exact absurd hspells (hextra e hadded)
  | absent hspare hnone =>
    refine .absent hspare fun e he => ?_
    rcases hcases e he with hkept | hadded
    · exact hnone e hkept
    · exact hextra e hadded

theorem Json.Describes.given {fields : List Field} {es : List (String × Json)}
    (h : Describes fields (.object es)) (hkeys : (fields.map Field.key).Pairwise Key.Apart)
    {f : Field} (hf : f ∈ fields) : f.Given es := by
  obtain ⟨kept, extra, hperm, hentered, hextra⟩ := h
  exact (hentered.given hkeys hf).of_perm hperm fun e he => hextra e he f hf

/-! ## Looking up -/

namespace Json

theorem lookup?_eq_none_iff {es : List (String × Json)} {k : String} :
    lookup? k es = none ↔ ∀ e ∈ es, e.1 ≠ k := by
  induction es with
  | nil => simp
  | cons e es ih =>
    obtain ⟨k', v⟩ := e
    rw [List.forall_mem_cons, ← ih, lookup?]
    cases lookup? k es with
    | some w => simp
    | none => by_cases hk : k' = k <;> simp [hk]

theorem mem_of_lookup? {es : List (String × Json)} {k : String} {v : Json}
    (h : lookup? k es = some v) : (k, v) ∈ es := by
  induction es with
  | nil => cases h
  | cons e es ih =>
    obtain ⟨k', v'⟩ := e
    rw [lookup?] at h
    cases hrest : lookup? k es with
    | some w =>
      rw [hrest] at h
      cases h
      exact List.mem_cons_of_mem _ (ih hrest)
    | none =>
      rw [hrest] at h
      by_cases hk : k' = k
      · rw [if_pos hk] at h
        cases h
        rw [hk]
        exact List.mem_cons_self
      · rw [if_neg hk] at h
        cases h

/-- The only value of a key is found. -/
theorem lookup?_of_unique {es : List (String × Json)} {k : String} {v : Json}
    (hmem : (k, v) ∈ es) (honly : ∀ w, (k, w) ∈ es → w = v) : lookup? k es = some v := by
  cases hfound : lookup? k es with
  | some w => rw [honly w (mem_of_lookup? hfound)]
  | none => exact absurd rfl (lookup?_eq_none_iff.mp hfound _ hmem)

end Json

namespace Field.Given

variable {f : Field} {es : List (String × Json)}

theorem find? (h : f.Given es) :
    (∃ name v, f.stands v ∧ f.key.find? es = some (name, v)) ∨
      f.spare ∧ f.key.find? es = none := by
  cases h with
  | once name v hname hv hmem honly =>
    have hlookup : Json.lookup? name es = some v := Json.lookup?_of_unique hmem fun w hw =>
      congrArg Prod.snd (honly _ hw hname)
    refine .inl ⟨name, v, hv, ?_⟩
    rw [Key.find?]
    by_cases hcamel : name = f.key.camel
    · rw [← hcamel, hlookup]
    · have hnone : Json.lookup? f.key.camel es = none :=
        Json.lookup?_eq_none_iff.mpr fun e he heq =>
          hcamel <| (congrArg Prod.fst (honly e he (.inl heq))).symm.trans heq
      obtain rfl : name = f.key.snake := hname.resolve_left hcamel
      rw [hnone, hlookup]
      rfl
  | absent hspare hnone =>
    refine .inr ⟨hspare, ?_⟩
    rw [Key.find?, Json.lookup?_eq_none_iff.mpr fun e he heq => hnone e he (.inl heq),
      Json.lookup?_eq_none_iff.mpr fun e he heq => hnone e he (.inr heq)]
    rfl

variable {α : Type} {a absent : α} {read : Json → Checked α}

theorem withDefault (h : f.Given es) (hread : ∀ v, f.stands v → read v = .valid a)
    (habsent : f.spare → absent = a) : f.key.withDefault absent read es = .valid a := by
  rw [Key.withDefault]
  rcases h.find? with ⟨name, v, hv, hfound⟩ | ⟨hspare, hnone⟩
  · rw [hfound]
    dsimp only
    rw [hread v hv, Checked.under_valid]
  · rw [hnone]
    dsimp only
    rw [habsent hspare]

theorem required (h : f.Given es) (hread : ∀ v, f.stands v → read v = .valid a)
    (hneeded : ¬ f.spare) : f.key.required read es = .valid a := by
  rw [Key.required]
  rcases h.find? with ⟨name, v, hv, hfound⟩ | ⟨hspare, _⟩
  · rw [hfound]
    dsimp only
    rw [hread v hv, Checked.under_valid]
  · exact absurd hspare hneeded

end Field.Given

end GestureScript
