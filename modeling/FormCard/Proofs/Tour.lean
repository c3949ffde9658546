import FormCard.Proofs.Tree
import Mathlib.Data.List.Sort

/-!
# Tours through trees

A walk through trees may keep a stack or be a recursion, and it lists the items that it comes by.
What can be told of such a list does not depend on how it is made: it stops at all places, each
once, in the order of the document, and places in this order are lists in lexicographic order.  A
list with these properties is a tour (`Place.IsTour`), and the properties are all that is used of
it.

* `Place.exists_tour`: a walk that goes on from an item to what is inside it and then to the
  siblings behind is a tour; `Node.exists_tour` and `View.exists_tour` are the two cases.
* `Place.IsTour.find?_eq_some_iff`: what is found first stands at the first place.
* `Place.IsTour.map_place_eq` and `Place.IsTour.map_item_eq` compare tours through different trees
  by what stands at the same places, and `Place.IsTour.exists_find?` compares what is found in them.

The items of a walk need not be different from each other, and so a position in the list of items
says little.  Stops carry their places instead, which the walks themselves know nothing about.  That
such places exist is shown by induction on the length of the walk, since what is inside an item is
no part of the list that the item stands in.
-/

namespace FormCard

/-! ## 1. Places behind a sibling -/

namespace Place

variable {α β : Type} {children : α → List α}

/-- The place with one more sibling in front of all that it leads through. -/
def next : Place → Place
  | [] => []
  | position :: place => (position + 1) :: place

theorem next_lt_next {place other : Place} (less : place < other) : place.next < other.next := by
  cases other with
  | nil => exact absurd less (List.not_lt_nil place)
  | cons position other =>
    cases place with
    | nil => exact List.nil_lt_cons _ _
    | cons first place =>
      rw [List.cons_lt_cons_iff] at less
      rw [next, next, List.cons_lt_cons_iff, Nat.succ_lt_succ_iff, Nat.succ_inj]
      exact less

theorem zero_cons_lt_next (place : Place) {other : Place} (nonempty : other ≠ []) :
    0 :: place < other.next := by
  obtain ⟨position, other, rfl⟩ := List.exists_cons_of_ne_nil nonempty
  exact List.cons_lt_cons_iff.2 (.inl (Nat.succ_pos position))

theorem at?_next (first : α) (siblings : List α) (place : Place) :
    at? children (first :: siblings) place.next = at? children siblings place := by
  cases place with
  | nil => rfl
  | cons position place => exact at?_cons_succ first siblings position place

theorem ne_nil_of_at? {siblings : List α} {place : Place} {item : α}
    (stands : at? children siblings place = some item) : place ≠ [] := by
  rintro rfl
  simp [at?] at stands

/-- **What stands among siblings is the first of them, or is inside it, or is among the others.** -/
theorem at?_cons_eq_some_iff {item found : α} {siblings : List α} {place : Place} :
    at? children (item :: siblings) place = some found
      ↔ (place = [0] ∧ found = item)
        ∨ (∃ inner, place = 0 :: inner ∧ at? children (children item) inner = some found)
        ∨ ∃ other, place = other.next ∧ at? children siblings other = some found := by
  have here : (item :: siblings)[0]? = some item := rfl
  constructor
  · intro stands
    match place, stands with
    | [0], stands => exact .inl ⟨rfl, (Option.some.inj stands).symm⟩
    | 0 :: position :: place, stands =>
      rw [at?_cons here (List.cons_ne_nil _ _)] at stands
      exact .inr (.inl ⟨position :: place, rfl, stands⟩)
    | (position + 1) :: place, stands =>
      rw [at?_cons_succ] at stands
      exact .inr (.inr ⟨position :: place, rfl, stands⟩)
  · rintro (⟨rfl, rfl⟩ | ⟨inner, rfl, stands⟩ | ⟨other, rfl, stands⟩)
    · rfl
    · rw [at?_cons here (ne_nil_of_at? stands)]
      exact stands
    · rw [at?_next]
      exact stands

/-! ## 2. Tours -/

/-- A tour stops at all places of trees, each once, in the order of the document: a place comes
before those inside it, and siblings come by their positions. -/
structure IsTour (children : α → List α) (siblings : List α) (tour : List (Placed α)) : Prop where
  ordered : (tour.map Placed.place).Pairwise (· < ·)
  complete : ∀ stop, stop ∈ tour ↔ at? children siblings stop.place = some stop.item

namespace IsTour

variable {siblings : List α} {tour : List (Placed α)}

theorem place_ne_nil (h : IsTour children siblings tour) {stop : Placed α} (mem : stop ∈ tour) :
    stop.place ≠ [] :=
  ne_nil_of_at? ((h.complete stop).1 mem)

theorem nil : IsTour children [] [] where
  ordered := .nil
  complete stop := by
    obtain ⟨place, item⟩ := stop
    refine iff_of_false List.not_mem_nil fun found => ?_
    match place, found with
    | [_], found => simp [at?] at found
    | _ :: _ :: _, found => simp [at?] at found

/-- **A tour goes through an item, then through what is inside it, then through the siblings
behind.** -/
theorem cons {item : α} {inside behind : List (Placed α)}
    (below : IsTour children (children item) inside) (later : IsTour children siblings behind) :
    IsTour children (item :: siblings)
      (⟨[0], item⟩ :: (inside.map (Placed.under 0)
        ++ behind.map fun stop => ⟨stop.place.next, stop.item⟩)) := by
  constructor
  · have nested := List.pairwise_map.1 below.ordered
    have moved := List.pairwise_map.1 later.ordered
    rw [List.pairwise_map, List.pairwise_cons, List.pairwise_append, List.pairwise_map,
      List.pairwise_map]
    refine ⟨fun stop mem => ?_, nested.imp fun less => ?_, moved.imp fun less => next_lt_next less,
      fun first mem second mem' => ?_⟩
    · rcases List.mem_append.1 mem with nested | moved
      · obtain ⟨own, visited, rfl⟩ := List.mem_map.1 nested
        obtain ⟨position, place, eq⟩ := List.exists_cons_of_ne_nil (below.place_ne_nil visited)
        simp [eq]
      · obtain ⟨own, visited, rfl⟩ := List.mem_map.1 moved
        exact zero_cons_lt_next [] (later.place_ne_nil visited)
    · exact List.cons_lt_cons_iff.2 (.inr ⟨rfl, less⟩)
    · obtain ⟨own, -, rfl⟩ := List.mem_map.1 mem
      obtain ⟨other, visited, rfl⟩ := List.mem_map.1 mem'
      exact zero_cons_lt_next own.place (later.place_ne_nil visited)
  · rintro ⟨place, found⟩
    rw [at?_cons_eq_some_iff, List.mem_cons, List.mem_append, List.mem_map, List.mem_map,
      Placed.mk.injEq]
    refine or_congr Iff.rfl (or_congr ⟨?_, ?_⟩ ⟨?_, ?_⟩)
    · rintro ⟨stop, mem, same⟩
      obtain ⟨rfl, rfl⟩ := Placed.mk.inj same
      exact ⟨stop.place, rfl, (below.complete stop).1 mem⟩
    · rintro ⟨inner, rfl, stands⟩
      exact ⟨⟨inner, found⟩, (below.complete _).2 stands, rfl⟩
    · rintro ⟨stop, mem, same⟩
      obtain ⟨rfl, rfl⟩ := Placed.mk.inj same
      exact ⟨stop.place, rfl, (later.complete stop).1 mem⟩
    · rintro ⟨other, rfl, stands⟩
      exact ⟨⟨other, found⟩, (later.complete _).2 stands, rfl⟩

/-- **What a tour finds first stands at the first place where such an item stands.** -/
theorem find?_eq_some_iff (h : IsTour children siblings tour) {wanted : α → Bool} {item : α} :
    (tour.map Placed.item).find? wanted = some item
      ↔ ∃ place, at? children siblings place = some item ∧ wanted item = true
        ∧ ∀ other, other < place → ∀ earlier, at? children siblings other = some earlier →
          wanted earlier = false := by
  have ordered := List.pairwise_map.1 h.ordered
  rw [List.find?_map, Option.map_eq_some_iff]
  constructor
  · rintro ⟨stop, found, rfl⟩
    obtain ⟨good, before, after, split, none⟩ := List.find?_eq_some_iff_append.1 found
    have mem : stop ∈ tour := split ▸ List.mem_append_right before List.mem_cons_self
    refine ⟨stop.place, (h.complete stop).1 mem, good, fun other less earlier stands => ?_⟩
    have visited : (⟨other, earlier⟩ : Placed α) ∈ tour := (h.complete _).2 stands
    rw [split, List.pairwise_append, List.pairwise_cons] at ordered
    rw [split, List.mem_append, List.mem_cons] at visited
    rcases visited with first | rfl | later
    · simpa using none _ first
    · exact absurd less (List.lt_irrefl other)
    · exact absurd less (List.lt_asymm (ordered.2.1.1 _ later))
  · rintro ⟨place, stands, good, first⟩
    refine ⟨⟨place, item⟩, ?_, rfl⟩
    obtain ⟨before, after, split⟩ := List.append_of_mem ((h.complete ⟨place, item⟩).2 stands)
    refine List.find?_eq_some_iff_append.2 ⟨good, before, after, split, fun stop mem => ?_⟩
    have visited : stop ∈ tour := split ▸ List.mem_append_left _ mem
    rw [split, List.pairwise_append] at ordered
    have less := ordered.2.2 stop mem _ List.mem_cons_self
    simpa using first stop.place less stop.item ((h.complete stop).1 visited)

theorem mem_map_place_iff (h : IsTour children siblings tour) {place : Place} :
    place ∈ tour.map Placed.place ↔ (at? children siblings place).isSome = true := by
  rw [List.mem_map, Option.isSome_iff_exists]
  constructor
  · rintro ⟨stop, mem, rfl⟩
    exact ⟨stop.item, (h.complete stop).1 mem⟩
  · rintro ⟨item, stands⟩
    exact ⟨⟨place, item⟩, (h.complete _).2 stands, rfl⟩

section Shape

variable {γ : Type} {inner : β → List β} {others : List β} {walk : List (Placed β)} {f : α → γ}
  {g : β → γ}

/-- **Where the same is known of the items at the same places, tours stop at the same places.** -/
theorem map_place_eq (h : IsTour children siblings tour) (h' : IsTour inner others walk)
    (same : ∀ place, (at? inner others place).map g = (at? children siblings place).map f) :
    walk.map Placed.place = tour.map Placed.place := by
  refine h'.ordered.eq_of_mem_iff h.ordered fun place => ?_
  rw [h.mem_map_place_iff, h'.mem_map_place_iff, ← Option.isSome_map (f := g), same,
    Option.isSome_map]

/-- **And they list the same of the items.** -/
theorem map_item_eq (h : IsTour children siblings tour) (h' : IsTour inner others walk)
    (same : ∀ place, (at? inner others place).map g = (at? children siblings place).map f) :
    (walk.map Placed.item).map g = (tour.map Placed.item).map f := by
  apply List.map_injective_iff.2 (Option.some_injective γ)
  calc ((walk.map Placed.item).map g).map some
      = (walk.map Placed.place).map fun place => (at? inner others place).map g := by
        simp only [List.map_map]
        exact List.map_congr_left fun stop mem => by simp [(h'.complete stop).1 mem]
    _ = (tour.map Placed.place).map fun place => (at? children siblings place).map f := by
        rw [h.map_place_eq h' same, funext same]
    _ = ((tour.map Placed.item).map f).map some := by
        simp only [List.map_map]
        exact List.map_congr_left fun stop mem => by simp [(h.complete stop).1 mem]

/-- **What one of them finds first stands where the other one finds something first,** if what they
look for is the same at each place. -/
theorem exists_find? (h : IsTour children siblings tour) (h' : IsTour inner others walk)
    {wanted : α → Bool} {sought : β → Bool}
    (same : ∀ place, (at? inner others place).map sought = (at? children siblings place).map wanted)
    {item : α} (found : (tour.map Placed.item).find? wanted = some item) :
    ∃ place twin, at? children siblings place = some item ∧ wanted item = true
      ∧ (∀ other, other < place → ∀ earlier, at? children siblings other = some earlier →
        wanted earlier = false)
      ∧ at? inner others place = some twin ∧ (walk.map Placed.item).find? sought = some twin := by
  obtain ⟨place, stands, good, first⟩ := h.find?_eq_some_iff.1 found
  have shared := same place
  rw [stands, Option.map_some] at shared
  obtain ⟨twin, opposite, good'⟩ := Option.map_eq_some_iff.1 shared
  refine ⟨place, twin, stands, good, first, opposite, ?_⟩
  refine h'.find?_eq_some_iff.2 ⟨place, opposite, good'.trans good, ?_⟩
  intro other less earlier met
  have shared := same other
  rw [met, Option.map_some] at shared
  obtain ⟨item', met', eq⟩ := Option.map_eq_some_iff.1 shared.symm
  rw [← eq]
  exact first other less item' met'

end Shape

end IsTour

/-- **A walk that goes on from an item to what is inside it and then to the siblings behind is a
tour.** -/
theorem exists_tour (walk : List α → List α) (nil : walk [] = [])
    (cons : ∀ item siblings,
      walk (item :: siblings) = item :: (walk (children item) ++ walk siblings))
    (siblings : List α) :
    ∃ tour, IsTour children siblings tour ∧ tour.map Placed.item = walk siblings := by
  -- what is inside an item is no part of the list that it stands in, but both walks are shorter
  induction bound : (walk siblings).length using Nat.strong_induction_on generalizing siblings with
  | _ length ih =>
    cases siblings with
    | nil => exact ⟨[], .nil, nil.symm⟩
    | cons item siblings =>
      rw [cons, List.length_cons, List.length_append] at bound
      obtain ⟨inside, below, inner⟩ := ih _ (by omega) (children item) rfl
      obtain ⟨behind, later, outer⟩ := ih _ (by omega) siblings rfl
      refine ⟨_, below.cons later, ?_⟩
      rw [cons, ← inner, ← outer]
      simp [Function.comp_def]

/-- Trees that are changed item by item keep their places. -/
theorem at?_map {inner : β → List β} {change : α → β}
    (kept : ∀ item, inner (change item) = (children item).map change) (siblings : List α)
    (place : Place) :
    at? inner (siblings.map change) place = (at? children siblings place).map change := by
  induction place generalizing siblings with
  | nil => rfl
  | cons position place ih =>
    cases place with
    | nil => simp [at?]
    | cons next place =>
      rw [at?, at?, List.getElem?_map]
      cases siblings[position]? with
      | none => rfl
      | some item => exact (congrArg (at? inner · (next :: place)) (kept item)).trans (ih _)

end Place

/-! ## 3. Components and views -/

theorem Node.exists_tour (nodes : List Node) :
    ∃ tour, Place.IsTour children nodes tour ∧ tour.map Placed.item = preorderAll nodes :=
  Place.exists_tour preorderAll rfl
    (fun node nodes => by rw [preorderAll, preorder_eq, List.cons_append]) nodes

theorem View.preorder_eq (view : View) : view.preorder = view :: preorderAll view.children := by
  cases view <;> rfl

theorem View.exists_tour (views : List View) :
    ∃ tour, Place.IsTour children views tour ∧ tour.map Placed.item = preorderAll views :=
  Place.exists_tour preorderAll rfl
    (fun view views => by rw [preorderAll, preorder_eq, List.cons_append]) views

end FormCard
