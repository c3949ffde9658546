import FormCard.Proofs.Event
import FormCard.Proofs.Path

/-!
# Replacing a card

A host may show another card at any time, and a user who edits a card in fact makes a new one with
every stroke.  Which forms keep their stores then is a question of keys: a store survives if the new
card opens its key again.

In a tidy card, where siblings have different ids that are not empty and hold no slash, a key is the
ids on the way to its form, joined with slashes, and these ids can be read off the key
(`Card.Tidy.item_eq_iff`).  Hence the ids on the way are the identity of a form across cards
(`replacement_keeps_same_ids`): a form keeps its values when other components come and go or change
their order around it, and loses them when it is moved into another component or one around it is
renamed.  Ids may hold at signs and number signs here, since no position and no number is ever
appended.

The proof compares keys and leaves stores to the laws of a pass; the two cards need not have
anything in common.  The witness has forms inside forms, one of them moved among its siblings.
-/

namespace FormCard

/-! ## 1. Tidy cards -/

/-- A card in which ids are not empty, hold no slash, and differ between siblings. -/
structure Card.Tidy (card : Card) : Prop where
  named : ∀ node ∈ card.walk, node.id ≠ "" ∧ '/' ∉ node.id.toList
  roots : (card.body.map Node.id).Nodup
  siblings : ∀ node ∈ card.walk, (node.children.map Node.id).Nodup

namespace Node

/-- Where no siblings share an id, segments are ids. -/
theorem segmentsTo_eq_idsTo {nodes : List Node} (here : (nodes.map Node.id).Nodup)
    (inside : ∀ node ∈ preorderAll nodes, (node.children.map Node.id).Nodup) (place : Place) :
    segmentsTo nodes place = idsTo nodes place := by
  induction place generalizing nodes with
  | nil => rfl
  | cons position place ih =>
    cases found : nodes[position]? with
    | none => simp [segmentsTo, idsTo, labels, found]
    | some node =>
      have alone := segment_of_count_le_one (List.nodup_iff_count.1 here node.id) position
      have children := forall_of_getElem? inside found
      have below : labels segment node.children place
          = labels (fun _ _ id => id) node.children place := ih children.1 children.2
      rw [segmentsTo, idsTo, labels_cons found, labels_cons found, alone, below]

/-- The ids on the way to a place are ids of components. -/
theorem forall_mem_idsTo {Q : String → Prop} {nodes : List Node}
    (all : ∀ node ∈ preorderAll nodes, Q node.id) (place : Place) :
    ∀ id ∈ idsTo nodes place, Q id := by
  induction place generalizing nodes with
  | nil => simp [idsTo, labels]
  | cons position place ih =>
    cases found : nodes[position]? with
    | none => simp [idsTo, labels, found]
    | some node =>
      have children := forall_of_getElem? (Q := fun other => Q other.id) all found
      rw [idsTo, labels_cons found]
      exact List.forall_mem_cons.2 ⟨children.1, ih children.2⟩

end Node

/-- Nothing is dropped from segments that are not empty. -/
theorem named_eq_self {segments : List String} (h : ∀ s ∈ segments, s ≠ "") :
    named segments = segments := by
  cases segments with
  | nil => rfl
  | cons first others =>
    rw [named, List.dropWhile_cons_of_neg (by simpa using h first List.mem_cons_self)]

namespace Card.Tidy

variable {card other : Card}

theorem pathTo_eq (tidy : card.Tidy) (place : Place) :
    card.pathTo place = (card.idsTo place).foldl childPath "" := by
  rw [pathTo, Node.pathBelow,
    Node.segmentsTo_eq_idsTo tidy.roots (forall_mem_preorderAll tidy.siblings) place]
  rfl

theorem mem_idsTo (tidy : card.Tidy) (place : Place) :
    ∀ id ∈ card.idsTo place, id ≠ "" ∧ '/' ∉ id.toList :=
  Node.forall_mem_idsTo (Q := fun id => id ≠ "" ∧ '/' ∉ id.toList)
    (forall_mem_preorderAll tidy.named) place

/-- **Between tidy cards, paths are equal exactly if the ids on the way are.** -/
theorem pathTo_eq_iff (tidy : card.Tidy) (tidy' : other.Tidy) (p q : Place) :
    card.pathTo p = other.pathTo q ↔ card.idsTo p = other.idsTo q := by
  rw [tidy.pathTo_eq, tidy'.pathTo_eq,
    foldl_childPath_eq_iff (fun id mem => (tidy.mem_idsTo p id mem).2)
      (fun id mem => (tidy'.mem_idsTo q id mem).2),
    named_eq_self fun id mem => (tidy.mem_idsTo p id mem).1,
    named_eq_self fun id mem => (tidy'.mem_idsTo q id mem).1]

/-- **In a tidy card every key is a path.** -/
theorem forms_eq_boundaries (tidy : card.Tidy) : card.forms = card.boundaries := by
  have apart {ids : List String} (nodup : ids.Nodup) :
      Node.Distinguishes (fun _ _ id => id) ids := by
    intro i j a b hi hj same
    obtain rfl : a = b := same
    have inside := (List.getElem?_eq_some_iff.1 hi).1
    exact (List.getElem?_inj inside nodup).1 (hi.trans hj.symm)
  rw [Card.forms_eq_boundaries_iff]
  intro p q hp hq same
  exact Node.place_eq_of_labels_eq (apart tidy.roots)
    (fun node mem => apart (forall_mem_preorderAll tidy.siblings node mem)) hp hq
    ((tidy.pathTo_eq_iff tidy p q).1 same)

theorem item_eq_pathTo (tidy : card.Tidy) {form : Placed FormKey} (mem : form ∈ card.forms) :
    form.item = card.pathTo form.place :=
  forms_eq_boundaries_iff_forall.1 tidy.forms_eq_boundaries form mem

/-- **Forms of tidy cards have the same key exactly if the ids on the way to them are the same.** -/
theorem item_eq_iff (tidy : card.Tidy) (tidy' : other.Tidy) {form form' : Placed FormKey}
    (mem : form ∈ card.forms) (mem' : form' ∈ other.forms) :
    form.item = form'.item ↔ card.idsTo form.place = other.idsTo form'.place := by
  rw [tidy.item_eq_pathTo mem, tidy'.item_eq_pathTo mem', tidy.pathTo_eq_iff tidy']

end Card.Tidy

/-! ## 2. The identity of a form -/

/-- **The ids on the way to a form are its identity.**  When a tidy card is shown after another one,
each boundary that the pass meets is a form of the new card.  It has the store that the form of the
old card with the same ids on the way to it had, with its values and its state; without such a form
its store is empty.  The stores of forms that the new card lacks are gone. -/
theorem replacement_keeps_same_ids {σ : Type} (sink : Sink σ) (state : σ) (events : List Event)
    (renderer : Renderer) (old new : Card) (tidyOld : old.Tidy) (tidyNew : new.Tidy) :
    let first := (renderer.renderCard old).1
    let before := renderer.afterEvents old sink state events
    let second := (before.renderCard new).1
    let after := (before.renderCard new).2
    (∀ place, (∃ form ∈ second.forms, form.place = place) ↔ new.HoldsForm place)
    ∧ (∀ form ∈ second.forms,
      (∀ form' ∈ first.forms, old.idsTo form'.place = new.idsTo form.place →
        ∃ store, before.arena.stores.get? form'.item = some store
          ∧ after.arena.stores.get? form.item = some store)
      ∧ ((∀ form' ∈ first.forms, old.idsTo form'.place ≠ new.idsTo form.place) →
        after.arena.stores.get? form.item = some .empty))
    ∧ ∀ form' ∈ first.forms, (∀ form ∈ second.forms, old.idsTo form'.place ≠ new.idsTo form.place) →
      after.arena.stores.get? form'.item = none := by
  intro first before second after
  simp only [first, second, after, Renderer.forms_renderCard, Renderer.get?_renderCard]
  have live (key : FormKey) : (before.arena.stores.get? key).isSome = true ↔ key ∈ old.formKeys :=
    renderer.isSome_get?_afterEvents old sink state events key
  refine ⟨fun _ => Card.exists_form_iff,
    fun form mem => ⟨fun form' mem' same => ?_, fun apart => ?_⟩, fun form' mem' apart => ?_⟩
  · have key : form'.item = form.item := (tidyOld.item_eq_iff tidyNew mem' mem).2 same
    obtain ⟨store, found⟩ :=
      Option.isSome_iff_exists.1 ((live form'.item).2 (Card.item_mem_formKeys mem'))
    refine ⟨store, found, ?_⟩
    rw [if_pos (Card.item_mem_formKeys mem), ← key, found]
    rfl
  · have absent : before.arena.stores.get? form.item = none := by
      rw [← Option.not_isSome_iff_eq_none, live]
      intro opened
      obtain ⟨form', mem', key⟩ := List.mem_map.1 opened
      exact apart form' mem' ((tidyOld.item_eq_iff tidyNew mem' mem).1 key)
    rw [if_pos (Card.item_mem_formKeys mem), absent]
    rfl
  · refine if_neg fun opened => ?_
    obtain ⟨form, mem, key⟩ := List.mem_map.1 opened
    exact apart form mem ((tidyOld.item_eq_iff tidyNew mem' mem).1 key.symm)

/-- A form that is found again behind another component keeps its store, though its own position and
that of the form around it are different; a form that moved into a region starts anew. -/
theorem replacement_keeps_nested :
    let old : Card := .ofBody [.formOf "a" [.formOf "b" [.inputOf "i" "x"]], .formOf "c" []]
    let new : Card := .ofBody [.regionOf "k" [.formOf "c" []],
      .formOf "a" [.inputOf "j" "y", .formOf "b" [.inputOf "i" "x"]]]
    let before := (Renderer.new "").afterEvents old Sink.ignoring () [.change "i" (.string "kept")]
    let after := (before.renderCard new).2
    old.Tidy ∧ new.Tidy ∧ old.idsTo [0, 0] = new.idsTo [1, 1] ∧ old.idsTo [1] ≠ new.idsTo [0, 0]
    ∧ (∃ store, before.arena.stores.get? "a/b" = some store
      ∧ after.arena.stores.get? "a/b" = some store)
    ∧ after.arena.stores.get? "k/c" = some .empty ∧ after.arena.stores.get? "c" = none := by
  intro old new before after
  have tidyOld : old.Tidy :=
    ⟨by rw [Card.walk_eq_preorder]; decide, by decide, by rw [Card.walk_eq_preorder]; decide⟩
  have tidyNew : new.Tidy :=
    ⟨by rw [Card.walk_eq_preorder]; decide, by decide, by rw [Card.walk_eq_preorder]; decide⟩
  obtain ⟨-, kept, dropped⟩ := replacement_keeps_same_ids Sink.ignoring ()
    [.change "i" (.string "kept")] (.new "") old new tidyOld tidyNew
  refine ⟨tidyOld, tidyNew, by decide, by decide, ?_, ?_, ?_⟩
  · simpa only [before, after] using
      (kept ⟨[1, 1], "a/b"⟩ (by decide)).1 ⟨[0, 0], "a/b"⟩ (by decide) (by decide)
  · exact (kept ⟨[0, 0], "k/c"⟩ (by decide)).2 (by decide)
  · exact dropped ⟨[1], "c"⟩ (by decide) (by decide)

end FormCard
