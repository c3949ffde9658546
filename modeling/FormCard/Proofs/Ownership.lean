import FormCard.Proofs.Removal
import FormCard.Proofs.Run

/-!
# Values stay with their form

What a user entered belongs to the form it was entered into.  When a component is removed from a
card, every form that remains should keep its own values or start with none; in particular it should
not show what was entered into another form, least of all into the one that was removed
(`Card.RemovalIsSafe`).

Main statement: this is so exactly if no form that remains takes the key of another form
(`removal_safe_iff`).  Where siblings share an id their keys hold their positions, so in plain cards
the forms at fault are those that move up into the position of a sibling with the same id, while a
third one keeps the id shared.  Where only one is left its key loses the position, and nothing is
handed on.  So two forms with one id are safe and three are not, which the two witnesses show.

That distinct keys suffice follows from what a pass does to stores.  That they are needed takes a
history in which it shows: a form with the key in question has to hold something that the other one
does not.  Such a history exists for any key.  It starts with a card that has a single form of that
key, whose one field is filled in before the card at hand is shown (`exists_entered`).
-/

namespace FormCard

/-! ## 1. A store for any key -/

/-- The card with one form, under a given key, and one field in it. -/
def Card.single (key : FormKey) : Card := .ofBody [.formOf key [.inputOf "input" "field"]]

/-- A component without siblings has its id for a segment. -/
theorem siblingPaths_single (parent id : String) :
    siblingPaths parent [id] = [childPath parent id] := by
  simp [siblingPaths, segment]

theorem Card.formKeys_single (key : FormKey) : (Card.single key).formKeys = [key] := by
  have paths : (Card.single key).boundaries.map Placed.item = [key] := by
    simp [boundaries, Node.boundariesIn, single, ofBody, Node.formOf, Node.plain, Node.inputOf,
      siblingPaths_single, childPath, Node.boundariesFrom, Node.boundaries, Kind.role]
  rw [formKeys_eq, paths]
  rfl

namespace Renderer

theorem bindings_single (theme : Theme) (key : FormKey) :
    (viewBody theme (Card.single key).body (Renderer.new "").desk).2.bindings.get? "input"
      = some (.field (some ⟨key, "field"⟩)) := by
  have fresh : Arena.freshKey (Renderer.new "").desk.arena.opened key = key :=
    Arena.freshKey_of_not_mem List.not_mem_nil
  simp [viewBody, Card.single, Card.ofBody, Node.formOf, Node.plain, Node.inputOf,
    siblingPaths_single, childPath, viewAll, viewNode, Kind.role, Desk.note, fieldRef, fresh]

/-- **Something may have been entered under any key,** and nothing under the others. -/
theorem exists_entered (key : FormKey) :
    ∃ (renderer : Renderer) (store : Store), renderer.Reachable ∧ store.values ≠ .empty
      ∧ ∀ other, renderer.arena.stores.get? other = if other = key then some store else none := by
  let first : Renderer := ((Renderer.new "").renderCard (.single key)).2
  have stores (other : FormKey) :
      first.arena.stores.get? other = if other = key then some .empty else none := by
    rw [get?_renderCard, Card.formKeys_single]
    simp [Renderer.new, Arena.empty]
  have bound : first.bindings.get? "input" = some (.field (some ⟨key, "field"⟩)) :=
    bindings_single (Theme.resolve none "") key
  have own : first.arena.stores.get? key = some .empty := by rw [stores, if_pos rfl]
  have entered := handle_change_of_field Sink.ignoring () .null bound own
  refine ⟨first.enter ⟨key, "field"⟩ .empty .null, Store.empty.update "field" .null, ?_, ?_, ?_⟩
  · have reachable : first.Reachable := .render (.ready (.single key)) (.new "")
    have := reachable.handle Sink.ignoring () (.change "input" .null)
    rwa [entered] at this
  · intro empty
    have := congrArg (Dict.get? · "field") empty
    simp [Store.update] at this
  · intro other
    rw [get?_enter, stores]
    by_cases same : other = key
    · subst same
      rw [if_pos rfl, if_pos rfl]
    · rw [if_neg (Ne.symm same), if_neg same, if_neg same]

end Renderer

/-! ## 2. Who may take whose values -/

namespace Card

/-- **A removal is safe** if, whatever was entered before, every form that remains has the values
that it had or starts with none, and has not the key of the form that was removed. -/
def RemovalIsSafe (card : Card) (parent : Place) (i : Nat) : Prop :=
  ∀ (renderer : Renderer) (σ : Type) (sink : Sink σ) (state : σ) (events : List Event),
    renderer.Reachable →
    let shown := (renderer.renderCard card).1.forms
    let before := renderer.afterEvents card sink state events
    let after := before.renderCard (card.removeAt parent i)
    ∀ form ∈ after.1.forms, ∃ former ∈ shown, former.place = Place.before parent i form.place
      ∧ (∃ own store, before.arena.stores.get? former.item = some own
        ∧ after.2.arena.stores.get? form.item = some store
        ∧ (store.values = own.values ∨ store = .empty))
      ∧ ∀ gone ∈ shown, gone.place = parent ++ [i] → form.item ≠ gone.item

variable {card : Card} {parent : Place} {i : Nat}

theorem KeysApart.removalIsSafe (apart : card.KeysApart parent i) :
    card.RemovalIsSafe parent i := by
  intro renderer σ sink state events _ shown before after form mem
  simp only [shown, after, Renderer.forms_renderCard, Renderer.get?_renderCard] at mem ⊢
  obtain ⟨former, mem', place⟩ :=
    exists_form_iff.2 (holdsForm_removeAt.1 (exists_form_iff.1 ⟨form, mem, rfl⟩))
  have live (key : FormKey) : (before.arena.stores.get? key).isSome = true ↔ key ∈ card.formKeys :=
    renderer.isSome_get?_afterEvents card sink state events key
  refine ⟨former, mem', place, ?_, fun gone inCard at_ same => ?_⟩
  · obtain ⟨own, found⟩ :=
      Option.isSome_iff_exists.1 ((live former.item).2 (item_mem_formKeys mem'))
    refine ⟨own, (before.arena.stores.get? form.item).getD .empty, found,
      if_pos (item_mem_formKeys mem), ?_⟩
    by_cases opened : form.item ∈ card.formKeys
    · -- the form has the key of a form, which is the former form itself
      obtain ⟨other, inCard, key⟩ := List.mem_map.1 opened
      obtain rfl : other = former :=
        form_eq_of_place inCard mem' ((apart form mem other inCard key).trans place.symm)
      rw [← key, found]
      exact .inl rfl
    · rw [← live, Option.not_isSome_iff_eq_none] at opened
      rw [opened]
      exact .inr rfl
  · have := apart form mem gone inCard same.symm
    exact (Place.exists_before_eq_iff parent i (parent ++ [i])).1 ⟨form.place, at_ ▸ this.symm⟩
      (List.prefix_refl _)

/-- **A form that takes the key of another one takes its values:** something may have been entered
into the other one alone. -/
theorem RemovalIsSafe.keysApart (safe : card.RemovalIsSafe parent i) : card.KeysApart parent i := by
  intro form mem other inCard key
  obtain ⟨renderer, entered, reachable, filled, stores⟩ := Renderer.exists_entered form.item
  have kept := safe renderer Unit Sink.ignoring () [] reachable
  simp only [Renderer.forms_renderCard] at kept
  obtain ⟨former, mem', place, ⟨own, store, found, shown, values⟩, -⟩ := kept form mem
  refine Classical.byContradiction fun ne => ?_
  have apart : former.item ≠ form.item := by
    intro same
    exact ne (form_eq_of_key mem' inCard (same.trans key.symm) ▸ place)
  have before (k : FormKey) : (renderer.afterEvents card Sink.ignoring () []).arena.stores.get? k
      = if k ∈ card.formKeys then some ((renderer.arena.stores.get? k).getD .empty) else none :=
    renderer.get?_renderCard card k
  rw [before, if_pos (item_mem_formKeys mem'), stores, if_neg apart] at found
  rw [Renderer.get?_renderCard, if_pos (item_mem_formKeys mem), before,
    if_pos (key ▸ item_mem_formKeys inCard), stores, if_pos rfl] at shown
  obtain rfl := Option.some.inj found
  obtain rfl := Option.some.inj shown
  rcases values with values | empty
  · exact filled values
  · exact filled (congrArg Store.values empty)

end Card

/-- **A removal is safe exactly if no form takes the key of another one.**  Every form outside the
removed component remains.  In a plain card without empty ids at the root a form takes the key of
another one only by moving up behind the removed component, into the position of a sibling with the
same id that other siblings share even then; so a removal is safe if the siblings that it leaves
have different ids. -/
theorem removal_safe_iff (card : Card) (parent : Place) (i : Nat) :
    (∀ former ∈ card.forms, ¬ parent ++ [i] <+: former.place →
      ∃ form ∈ (card.removeAt parent i).forms, Place.before parent i form.place = former.place)
    ∧ (card.RemovalIsSafe parent i ↔ card.KeysApart parent i)
    ∧ (card.PlainIds → "" ∉ card.body.map Node.id →
      let siblings := Node.siblingsAt card.body parent
      (card.RemovalIsSafe parent i ↔ ∀ m, ¬ Node.Inherits siblings i m)
      ∧ (((siblings.eraseIdx i).map Node.id).Nodup → card.RemovalIsSafe parent i)) := by
  have safe : card.RemovalIsSafe parent i ↔ card.KeysApart parent i :=
    ⟨Card.RemovalIsSafe.keysApart, Card.KeysApart.removalIsSafe⟩
  refine ⟨fun former mem outside => ?_, safe, fun plain ids => ?_⟩
  · obtain ⟨moved, eq⟩ := (Place.exists_before_eq_iff parent i former.place).2 outside
    have holds : (card.removeAt parent i).HoldsForm moved :=
      Card.holdsForm_removeAt.2 (eq ▸ Card.exists_form_iff.1 ⟨former, mem, rfl⟩)
    obtain ⟨form, mem', rfl⟩ := Card.exists_form_iff.2 holds
    exact ⟨form, mem', eq⟩
  · have plainly := plain.keysApart_iff ids parent i
    refine ⟨safe.trans plainly, fun nodup => safe.2 (plainly.2 fun m inherits => ?_)⟩
    obtain ⟨former, heir, q, p, -, -, -, -, shared, -⟩ := inherits
    exact absurd shared (Nat.not_lt.2 (List.nodup_iff_count.1 nodup heir.id))

/-- Of two siblings with one id the first can be removed: the other one starts with no values. -/
theorem removal_of_twin_safe :
    let twins : Card := .ofBody [.formOf "f" [.inputOf "ia" "a"], .formOf "f" [.inputOf "ib" "a"]]
    twins.PlainIds ∧ "" ∉ twins.body.map Node.id
    ∧ (((Node.siblingsAt twins.body []).eraseIdx 0).map Node.id).Nodup
    ∧ twins.forms = [⟨[0], "f@0"⟩, ⟨[1], "f@1"⟩] ∧ (twins.removeAt [] 0).forms = [⟨[0], "f"⟩]
    ∧ twins.RemovalIsSafe [] 0 := by
  intro twins
  have plain : twins.PlainIds := by
    unfold Card.PlainIds
    rw [Card.walk_eq_preorder]
    decide
  exact ⟨plain, by decide, by decide, by decide, by decide,
    ((removal_safe_iff twins [] 0).2.2 plain (by decide)).2 (by decide)⟩

/-- Of three siblings with one id the first cannot be removed: the second one moves up into its
position, still with an id that is shared, and shows what was entered into the removed one. -/
theorem removal_of_triplet_unsafe :
    let triplets : Card := .ofBody [.formOf "f" [.inputOf "ia" "a"],
      .formOf "f" [.inputOf "ib" "a"], .formOf "f" [.inputOf "ic" "a"]]
    let before := (Renderer.new "").afterEvents triplets Sink.ignoring ()
      [.change "ia" (.string "secret")]
    let after := before.renderCard (triplets.removeAt [] 0)
    ⟨[0], "f@0"⟩ ∈ triplets.forms ∧ ⟨[1], "f@1"⟩ ∈ triplets.forms
    ∧ ⟨[0], "f@0"⟩ ∈ after.1.forms ∧ Place.before [] 0 [0] = [1]
    ∧ before.arena.readField (some "f@1") (some "a") = ""
    ∧ after.2.arena.readField (some "f@0") (some "a") = "secret"
    ∧ ¬ triplets.RemovalIsSafe [] 0 := by
  intro triplets before after
  refine ⟨by decide, by decide, by decide, rfl, by decide, by decide, fun safe => ?_⟩
  have kept := safe (.new "") Unit Sink.ignoring () [.change "ia" (.string "secret")] (.new "")
  obtain ⟨former, -, -, -, other⟩ := kept ⟨[0], "f@0"⟩ (by decide)
  exact other ⟨[0], "f@0"⟩ (by decide) rfl rfl

end FormCard
