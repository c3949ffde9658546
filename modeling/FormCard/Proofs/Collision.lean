import FormCard.Proofs.Path

/-!
# Boundaries with one path

Two boundaries of a card may have the same path, and then the key of the second one is numbered.  A
numbered key is not as good as a path: which boundary gets it depends on the order in which they are
met, so it may pass from one to another when the card changes.

With slashes or at signs in ids this is no surprise.  Without them it still happens in one way.  A
component at the root whose id is empty has the empty path, as the root itself, so the boundaries
inside it have the paths that they would have at the root.  Ids are empty where a card leaves them
out, so this is a card that people write.

Main statement: this is the only way (`paths_apart_iff`).  In cards without slashes and at signs,
the paths are distinct and no key is numbered exactly if no two boundaries are reached by segments
that agree up to empty ones at the front (`Card.NamedApart`); and this holds of every card that does
not have exactly one component without an id at the root.  Where there are several, their segments
hold positions and are not empty.

Two witnesses follow: a card with two such components, whose paths are distinct, and one with a
region without an id, whose paths are not.
-/

namespace FormCard

namespace Card

/-- No id in a card holds a slash or an at sign. -/
def PlainIds (card : Card) : Prop :=
  ∀ node ∈ card.walk, '/' ∉ node.id.toList ∧ '@' ∉ node.id.toList

/-- The segments from the root of a card down to a place. -/
def segmentsTo (card : Card) (place : Place) : List String := Node.segmentsTo card.body place

/-- No two boundaries are reached by segments that agree up to empty ones at the front. -/
def NamedApart (card : Card) : Prop :=
  ∀ p q, card.HoldsForm p → card.HoldsForm q →
    named (card.segmentsTo p) = named (card.segmentsTo q) → p = q

namespace PlainIds

variable {card : Card}

theorem slash_not_mem (plain : card.PlainIds) :
    ∀ node ∈ Node.preorderAll card.body, '/' ∉ node.id.toList :=
  forall_mem_preorderAll fun node mem => (plain node mem).1

theorem at_not_mem (plain : card.PlainIds) :
    ∀ node ∈ Node.preorderAll card.body, '@' ∉ node.id.toList :=
  forall_mem_preorderAll fun node mem => (plain node mem).2

/-- **Two places have the same path exactly if their segments agree,** up to empty ones at the
front. -/
theorem pathTo_eq_iff (plain : card.PlainIds) (p q : Place) :
    card.pathTo p = card.pathTo q ↔ named (card.segmentsTo p) = named (card.segmentsTo q) :=
  foldl_childPath_eq_iff (Node.slash_not_mem_segmentsTo plain.slash_not_mem p)
    (Node.slash_not_mem_segmentsTo plain.slash_not_mem q)

/-- **The paths are distinct exactly if the segments are,** up to empty ones at the front. -/
theorem forms_eq_boundaries_iff (plain : card.PlainIds) :
    card.forms = card.boundaries ↔ card.NamedApart := by
  simp only [Card.forms_eq_boundaries_iff, plain.pathTo_eq_iff, NamedApart]

end PlainIds

/-- A segment is empty only for a component without an id that no sibling shares. -/
theorem segment_ne_empty {ids : List String} {id : String} (mem : id ∈ ids)
    (h : ids.count "" ≠ 1) (position : Nat) : segment ids position id ≠ "" := by
  unfold segment
  split
  · simp [String.append_eq_empty_iff]
  · next alone =>
    rintro rfl
    have := List.count_pos_iff.2 mem
    omega

/-- Where not exactly one component at the root is without an id, no way starts with an empty
segment. -/
theorem named_segmentsTo {card : Card} (h : (card.body.map Node.id).count "" ≠ 1) {place : Place}
    (holds : card.HoldsForm place) : named (card.segmentsTo place) = card.segmentsTo place := by
  cases place with
  | nil => exact holds.elim
  | cons position place =>
    obtain ⟨node, found, -⟩ := holds
    have first : segment (card.body.map Node.id) position node.id ≠ "" :=
      segment_ne_empty (List.mem_map_of_mem (List.mem_of_getElem? found)) h position
    rw [segmentsTo, Node.segmentsTo_cons found, named,
      List.dropWhile_cons_of_neg (by simpa using first)]

theorem namedApart_of_count_ne_one {card : Card} (plain : card.PlainIds)
    (h : (card.body.map Node.id).count "" ≠ 1) : card.NamedApart := by
  intro p q hp hq same
  rw [named_segmentsTo h hp, named_segmentsTo h hq] at same
  exact Node.place_eq_of_segmentsTo_eq plain.at_not_mem hp hq same

end Card

/-! ## The only way to collide -/

/-- **Paths collide only behind an empty segment.**  In a card without slashes and at signs in its
ids, two boundaries share a path exactly if their segments agree up to empty ones at the front.  So
the paths are distinct, and all keys in the output are the paths, exactly if no two boundaries are
reached that way; and this holds unless exactly one component at the root is without an id. -/
theorem paths_apart_iff (card : Card) (plain : card.PlainIds) :
    (∀ p q, card.HoldsForm p → card.HoldsForm q →
      (card.pathTo p = card.pathTo q ↔ named (card.segmentsTo p) = named (card.segmentsTo q)))
    ∧ ((∀ p q, card.HoldsForm p → card.HoldsForm q → p ≠ q → card.pathTo p ≠ card.pathTo q)
      ↔ card.NamedApart)
    ∧ (∀ renderer : Renderer,
      (∀ form ∈ (renderer.renderCard card).1.forms, form.item = card.pathTo form.place)
        ↔ card.NamedApart)
    ∧ ((card.body.map Node.id).count "" ≠ 1 → card.NamedApart) := by
  refine ⟨fun p q _ _ => plain.pathTo_eq_iff p q, ?_, fun renderer => ?_,
    Card.namedApart_of_count_ne_one plain⟩
  · rw [← plain.forms_eq_boundaries_iff, Card.forms_eq_boundaries_iff]
    constructor
    · intro apart p q hp hq same
      exact Classical.byContradiction fun ne => apart p q hp hq ne same
    · intro inj p q hp hq ne same
      exact ne (inj p q hp hq same)
  · rw [Renderer.forms_renderCard, ← Card.forms_eq_boundaries_iff_forall,
      plain.forms_eq_boundaries_iff]

/-- Two regions without an id at the root carry their positions, and nothing in them collides. -/
theorem anonymous_pair_apart :
    let card : Card := .ofBody [.regionOf "" [.formOf "a" [.formOf "" []]],
      .regionOf "" [.formOf "a" []], .formOf "a" []]
    card.PlainIds ∧ (card.body.map Node.id).count "" ≠ 1
    ∧ (∀ p q, card.HoldsForm p → card.HoldsForm q → p ≠ q → card.pathTo p ≠ card.pathTo q)
    ∧ ∀ renderer : Renderer, ∀ form ∈ (renderer.renderCard card).1.forms,
        form.item = card.pathTo form.place := by
  intro card
  have plain : card.PlainIds := by
    unfold Card.PlainIds
    rw [Card.walk_eq_preorder]
    decide
  obtain ⟨-, distinct, keys, apart⟩ := paths_apart_iff card plain
  have two : (card.body.map Node.id).count "" ≠ 1 := by decide
  exact ⟨plain, two, distinct.2 (apart two), fun renderer => (keys renderer).2 (apart two)⟩

/-- One region without an id at the root is enough for two forms to have the same path, and the key
of the second one is numbered, without a slash or an at sign in any id. -/
theorem anonymous_region_collides :
    let card : Card := .ofBody [.regionOf "" [.formOf "a" []], .formOf "a" []]
    card.PlainIds ∧ card.HoldsForm [0, 0] ∧ card.HoldsForm [1]
    ∧ card.pathTo [0, 0] = "a" ∧ card.pathTo [1] = "a"
    ∧ ((Renderer.new "").renderCard card).1.forms = [⟨[0, 0], "a"⟩, ⟨[1], "a#2"⟩] := by
  intro card
  have plain : card.PlainIds := by
    unfold Card.PlainIds
    rw [Card.walk_eq_preorder]
    decide
  exact ⟨plain, ⟨_, rfl, .inr ⟨rfl, _, rfl, .inl ⟨rfl, rfl⟩⟩⟩, ⟨_, rfl, .inl ⟨rfl, rfl⟩⟩, by decide,
    by decide, by decide⟩

end FormCard
