import GestureScript.Element.Traversal
import Mathlib.Algebra.Ring.Nat
import Mathlib.Data.List.Basic

/-!
# The order of the elements of a tree

An element may occur in a tree several times, so a node of a tree is told by its path: the
indices of the children that lead to it. The paths have an order of their own, in which a
path comes before whatever goes on from it. A walk passes the nodes in that order.
-/

set_option autoImplicit false

namespace GestureScript.Element

/-! ## Paths -/

/-- The element at the end of a path. -/
def at? (e : Element) : List Nat → Option Element
  | [] => some e
  | i :: path => e.children[i]?.bind fun c => c.at? path

mutual

/-- All nodes, each with its path: parents first, and children in their order. -/
def places : Element → List (List Nat × Element)
  | node d cs => ([], node d cs) :: placesFrom 0 cs

/-- The nodes in elements that are counted from `i` on. -/
def placesFrom (i : Nat) : List Element → List (List Nat × Element)
  | [] => []
  | e :: es => (places e).map (Prod.map (i :: ·) id) ++ placesFrom (i + 1) es

end

@[simp] theorem at?_nil (e : Element) : e.at? [] = some e := rfl

theorem at?_cons_eq_some_iff {e d : Element} {i : Nat} {path : List Nat} :
    e.at? (i :: path) = some d ↔ ∃ c, e.children[i]? = some c ∧ c.at? path = some d :=
  Option.bind_eq_some_iff

theorem mem_placesFrom {i : Nat} {es : List Element} {path : List Nat} {d : Element} :
    (path, d) ∈ placesFrom i es ↔
      ∃ j rest c, path = (i + j) :: rest ∧ es[j]? = some c ∧ (rest, d) ∈ places c := by
  induction es generalizing i with
  | nil => simp [placesFrom]
  | cons e es ih =>
    rw [placesFrom, List.mem_append, List.mem_map, ih]
    constructor
    · rintro (⟨⟨rest, d⟩, hmem, heq⟩ | ⟨j, rest, c, rfl, hc, hmem⟩)
      · obtain ⟨rfl, rfl⟩ := Prod.mk.inj heq
        exact ⟨0, rest, e, rfl, rfl, hmem⟩
      · exact ⟨j + 1, rest, c, by rw [Nat.add_right_comm, Nat.add_assoc], hc, hmem⟩
    · rintro ⟨_ | j, rest, c, rfl, hc, hmem⟩
      · exact .inl ⟨(rest, d), Option.some.inj hc ▸ hmem, rfl⟩
      · exact .inr ⟨j, rest, c, by rw [Nat.add_right_comm, Nat.add_assoc], hc, hmem⟩

/-- The places of a tree are its paths with the elements at their ends. -/
theorem mem_places {e : Element} {path : List Nat} {d : Element} :
    (path, d) ∈ e.places ↔ e.at? path = some d := by
  induction path generalizing e with
  | nil =>
    obtain ⟨details, cs⟩ := e
    rw [places, List.mem_cons, mem_placesFrom]
    simp [eq_comm]
  | cons i path ih =>
    obtain ⟨details, cs⟩ := e
    rw [places, List.mem_cons, mem_placesFrom, at?_cons_eq_some_iff]
    constructor
    · rintro (heq | ⟨j, rest, c, heq, hc, hmem⟩)
      · cases heq
      · obtain ⟨rfl, rfl⟩ := List.cons.inj heq
        rw [Nat.zero_add]
        exact ⟨c, hc, ih.mp hmem⟩
    · rintro ⟨c, hc, hd⟩
      exact .inr ⟨i, path, c, by rw [Nat.zero_add], hc, ih.mpr hd⟩

mutual

/-- Every path is smaller than those that come after it. -/
theorem pairwise_places (e : Element) : (places e).Pairwise fun x y => x.1 < y.1 := by
  match e with
  | node d cs =>
    rw [places, List.pairwise_cons]
    refine ⟨?_, pairwise_placesFrom 0 cs⟩
    rintro ⟨path, c⟩ hmem
    obtain ⟨j, rest, -, rfl, -, -⟩ := mem_placesFrom.mp hmem
    exact List.nil_lt_cons _ _

theorem pairwise_placesFrom (i : Nat) (es : List Element) :
    (placesFrom i es).Pairwise fun x y => x.1 < y.1 := by
  match es with
  | [] => exact .nil
  | e :: es =>
    rw [placesFrom, List.pairwise_append]
    refine ⟨?_, pairwise_placesFrom (i + 1) es, ?_⟩
    · rw [List.pairwise_map]
      refine (pairwise_places e).imp ?_
      intro x y hlt
      exact List.cons_lt_cons_iff.mpr (.inr ⟨rfl, hlt⟩)
    · -- the paths into later elements start with a larger index
      rintro x hx ⟨path, d⟩ hy
      obtain ⟨⟨p, c⟩, -, rfl⟩ := List.mem_map.mp hx
      obtain ⟨j, rest, -, rfl, -, -⟩ := mem_placesFrom.mp hy
      exact List.cons_lt_cons_iff.mpr (.inl (by omega))

end

mutual

theorem map_snd_places (e : Element) : (places e).map Prod.snd = e.preorder := by
  match e with
  | node d cs => rw [places, preorder, List.map_cons, map_snd_placesFrom 0 cs]

theorem map_snd_placesFrom (i : Nat) (es : List Element) :
    (placesFrom i es).map Prod.snd = preorderList es := by
  match es with
  | [] => rfl
  | e :: es =>
    rw [placesFrom, preorderList, List.map_append, List.map_map, ← map_snd_places e,
      map_snd_placesFrom (i + 1) es]
    rfl

end

theorem placesFrom_append (i : Nat) (as bs : List Element) :
    placesFrom i (as ++ bs) = placesFrom i as ++ placesFrom (i + as.length) bs := by
  induction as generalizing i with
  | nil => rfl
  | cons a as ih =>
    rw [List.cons_append, placesFrom, placesFrom, ih, List.append_assoc, List.length_cons,
      Nat.add_right_comm, Nat.add_assoc]

/-- The places in an element follow each other. -/
theorem exists_places_eq_append {e d : Element} {path : List Nat} (h : e.at? path = some d) :
    ∃ before after, e.places = before ++ d.places.map (Prod.map (path ++ ·) id) ++ after := by
  induction path generalizing e with
  | nil =>
    obtain rfl := Option.some.inj h
    refine ⟨[], [], ?_⟩
    rw [List.nil_append, List.append_nil]
    exact (List.map_id e.places).symm
  | cons i path ih =>
    obtain ⟨details, cs⟩ := e
    obtain ⟨c, hc, hd⟩ := at?_cons_eq_some_iff.mp h
    rw [children_node] at hc
    obtain ⟨before, after, hplaces⟩ := ih hd
    obtain ⟨hi, hget⟩ := List.getElem?_eq_some_iff.mp hc
    have hlength : 0 + (cs.take i).length = i := by
      rw [Nat.zero_add, List.length_take_of_le (Nat.le_of_lt hi)]
    have hcs : placesFrom 0 cs = placesFrom 0 (cs.take i) ++
        (c.places.map (Prod.map (i :: ·) id) ++ placesFrom (i + 1) (cs.drop (i + 1))) := by
      conv_lhs => rw [← List.take_append_drop i cs, List.drop_eq_getElem_cons hi, hget]
      rw [placesFrom_append, hlength, placesFrom]
    refine ⟨([], node details cs) :: placesFrom 0 (cs.take i) ++
      before.map (Prod.map (i :: ·) id), after.map (Prod.map (i :: ·) id) ++
      placesFrom (i + 1) (cs.drop (i + 1)), ?_⟩
    rw [places, hcs, hplaces]
    simp

/-! ## The loop over a stack -/

/-- What a loop yields until its stack is empty. The top of the stack is its last item; at
each turn it is taken off, and the elements in it are put on, the last one of them first. -/
inductive Yields : List Element → List Element → Prop
  | done : Yields [] []
  | turn {stack : List Element} {e : Element} {rest : List Element} :
      Yields (stack ++ e.children.reverse) rest → Yields (stack ++ [e]) (e :: rest)

theorem yields_walkFrom (stack : List Element) : Yields stack.reverse (walkFrom stack) := by
  fun_induction walkFrom stack with
  | case1 => exact .done
  | case2 d cs stack ih =>
    rw [List.reverse_append] at ih
    rw [List.reverse_cons]
    exact .turn ih

/-- The loop ends on any stack, and yields nothing but what a walk yields. -/
theorem yields_iff (stack out : List Element) :
    Yields stack out ↔ out = walkFrom stack.reverse := by
  constructor
  · intro h
    induction h with
    | done => rw [List.reverse_nil, walkFrom]
    | @turn stack e rest _ ih =>
      obtain ⟨d, cs⟩ := e
      rw [children_node, List.reverse_append, List.reverse_reverse] at ih
      rw [List.reverse_concat, walkFrom, ih]
  · rintro rfl
    have h := yields_walkFrom stack.reverse
    rwa [List.reverse_reverse] at h

/-! ## Walks -/

theorem preorder_eq (e : Element) : e.preorder = e :: e.children.flatMap preorder := by
  obtain ⟨d, cs⟩ := e
  rw [preorder, preorderList_eq]
  rfl

theorem count_eq (e : Element) : e.count = 1 + (e.children.map count).sum := by
  have hcount : ∀ e : Element, e.count = e.preorder.length := fun e => by
    rw [count, walk_eq_preorder]
  rw [hcount, preorder_eq, List.length_cons, List.length_flatMap, Nat.add_comm,
    List.map_congr_left fun c _ => (hcount c).symm]

/-- The loop over the stack ends, and a walk yields the element and then what the walks of its
children yield: every node of the tree once, in the order of the paths. So the elements are
counted child by child, those that are looked for are found in this order, and what is in
an element comes without a break. -/
theorem walk_in_order_of_paths (e : Element) :
    (∀ out, Yields [e] out ↔ out = e.walk) ∧
      e.walk = e :: e.children.flatMap walk ∧
      (e.places.map Prod.snd = e.walk ∧ e.places.Pairwise (fun x y => x.1 < y.1) ∧
        ∀ path d, (path, d) ∈ e.places ↔ e.at? path = some d) ∧
      e.count = 1 + (e.children.map count).sum ∧
      (∀ p, e.findAll p = e.walk.filter p) ∧
      ∀ path d, e.at? path = some d → ∃ before after,
        e.places = before ++ d.places.map (Prod.map (path ++ ·) id) ++ after ∧
        e.walk = before.map Prod.snd ++ d.walk ++ after.map Prod.snd := by
  refine ⟨yields_iff [e], ?_, ⟨?_, e.pairwise_places, fun _ _ => mem_places⟩, e.count_eq,
    fun _ => rfl, ?_⟩
  · rw [walk_eq_preorder, preorder_eq, List.flatMap_congr fun c _ => c.walk_eq_preorder.symm]
  · rw [walk_eq_preorder, map_snd_places]
  · intro path d h
    obtain ⟨before, after, hplaces⟩ := exists_places_eq_append h
    refine ⟨before, after, hplaces, ?_⟩
    rw [walk_eq_preorder, walk_eq_preorder, ← map_snd_places e, ← map_snd_places d, hplaces]
    simp

/-- A leaf that occurs four times is walked through four times, two of them within `inner`. -/
theorem inner_walk_in_place :
    let leaf := node (Details.unknown 0) []
    let inner := node (Details.unknown 1) [leaf, leaf]
    let e := node (Details.unknown 2) [leaf, inner, leaf]
    e.at? [1] = some inner ∧ e.walk = [e, leaf, inner, leaf, leaf, leaf] ∧
      ∃ before after, e.places = before ++ inner.places.map (Prod.map ([1] ++ ·) id) ++ after ∧
        e.walk = before.map Prod.snd ++ inner.walk ++ after.map Prod.snd := by
  intro leaf inner e
  have hinner : e.at? [1] = some inner := rfl
  obtain ⟨-, -, ⟨hwalk, -, -⟩, -, -, hblock⟩ := walk_in_order_of_paths e
  exact ⟨hinner, hwalk.symm, hblock [1] inner hinner⟩

end GestureScript.Element
