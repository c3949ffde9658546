import FormCard.Proofs.Scope
import FormCard.Proofs.Tour

/-!
# The forms that are shown

Every form in an output has a key, and hosts use keys to tell forms apart, whether by styling them
or by following their state.  So the keys should be distinct, and the stores behind them should be
there.  Each form that is shown has a store of its own, and there are no other stores.

The keys are distinct whatever the ids of the card are, even if an id is made to look like a key
with a position or a number, since a form never gets a key that another one got in the same pass.
And what is left at the end of a pass are the stores of the keys that it handed out.

* `Output.scopes` lists the forms in an output; its keys are the keys of the card
  (`Renderer.keys_renderCard`).
* `Renderer.state_renderCard`: the state that a form shows is that of its store.  It is read off
  after everything inside the form was rendered, but a pass changes no state.
* `one_store_for_each_form`: the stores after a pass over any source are those of the forms that it
  shows, each in the state that is shown.
-/

namespace FormCard

/-! ## 1. Forms in an output -/

/-- The forms in an output, in the order of the document. -/
def Output.scopes (output : Output) : List Scope :=
  (View.preorderAll output.body).filterMap View.scope?

namespace View

/-- A view that is a form comes first among the forms in a list. -/
theorem filterMap_scope?_form (id : String) (style : Option String) (own : Scope)
    (state : FormState) (children views : List View) :
    (frame id style (.form own.key own.destination state) children :: views).filterMap scope?
      = own :: views.filterMap scope? := rfl

mutual

theorem map_key_scopes : (view : View) →
    (view.preorder.filterMap scope?).map Scope.key = view.forms.map Placed.item
  | leaf id style content => rfl
  | frame id style content children => by
    have inside := map_key_scopesAll 0 children
    rw [preorder]
    cases content with
    | region =>
      rw [List.filterMap_cons_none rfl]
      exact inside
    | grid cols gap =>
      rw [List.filterMap_cons_none rfl]
      exact inside
    | form key destination state =>
      rw [filterMap_scope?_form id style ⟨key, destination⟩, List.map_cons, inside]
      rfl

/-- **The forms among views are the forms that are found by their places.** -/
theorem map_key_scopesAll (position : Nat) : (views : List View) →
    ((preorderAll views).filterMap scope?).map Scope.key
      = (formsFrom position views).map Placed.item
  | [] => rfl
  | view :: views => by
    rw [preorderAll, List.filterMap_append, List.map_append, map_key_scopes view,
      map_key_scopesAll (position + 1) views, formsFrom, List.map_append, Placed.map_item_under]

end

/-! ## 2. Views and their places -/

/-- **Every view has a place.** -/
theorem exists_place_of_mem_preorderAll {view : View} (views : List View)
    (mem : view ∈ preorderAll views) : ∃ place, Place.at? children views place = some view := by
  obtain ⟨tour, isTour, items⟩ := exists_tour views
  rw [← items] at mem
  obtain ⟨stop, visited, rfl⟩ := List.mem_map.1 mem
  exact ⟨stop.place, (isTour.complete stop).1 visited⟩

end View

/-! ## 3. Keys and states -/

/-- The state of a form is shown as the form had it before the pass. -/
theorem state_viewNode {theme : Theme} {scope : Option Scope} {path : String} {node : Node}
    {desk : Desk} {id : String} {style : Option String} {key : FormKey}
    {destination : Option String} {state : FormState} {children : List View}
    (shown : (viewNode theme scope path node desk).1
      = .frame id style (.form key destination state) children) :
    state = (desk.arena.held key).state := by
  obtain ⟨id', kind, props, style', inner, field⟩ := node
  cases role : kind.role with
  | form =>
    simp only [viewNode, role, View.frame.injEq, Frame.form.injEq] at shown
    obtain ⟨-, -, ⟨rfl, -, rfl⟩, -⟩ := shown
    rw [Arena.stateOf_eq, held_viewAll]
    exact congrArg Store.state (desk.arena.held_openForm path _)
  | region => simp [viewNode, role] at shown
  | grid => simp [viewNode, role] at shown
  | display display => simp [viewNode, role] at shown
  | editor editor => simp [viewNode, role] at shown
  | button => simp [viewNode, role] at shown
  | unsupported => simp [viewNode, role] at shown

namespace Renderer

/-- **The keys that are shown are the keys of the card.** -/
theorem keys_renderCard (renderer : Renderer) (card : Card) :
    (renderer.renderCard card).1.scopes.map Scope.key = card.formKeys := by
  have forms := renderer.forms_renderCard card
  rw [Output.scopes, View.map_key_scopesAll 0, Card.formKeys, ← forms]
  rfl

theorem keys_render (renderer : Renderer) (source : Source) :
    (renderer.render source).1.scopes.map Scope.key = source.formKeys := by
  cases source with
  | ready card => exact keys_renderCard renderer card
  | broken reason => rfl

/-- A form in the output is shown in the state that it had before the pass. -/
theorem state_renderCard {renderer : Renderer} {card : Card} {id : String} {style : Option String}
    {key : FormKey} {destination : Option String} {state : FormState} {children : List View}
    (mem : .frame id style (.form key destination state) children
      ∈ View.preorderAll (renderer.renderCard card).1.body) :
    state = (renderer.arena.held key).state := by
  obtain ⟨place, found⟩ := View.exists_place_of_mem_preorderAll _ mem
  obtain ⟨theme, path, inner, held, shown⟩ := renderer.at?_renderCard card place
  rw [Output.at?, found] at shown
  obtain ⟨node, -, view⟩ := Option.map_eq_some_iff.1 shown.symm
  rw [state_viewNode view, held]

end Renderer

theorem Source.nodup_formKeys (source : Source) : source.formKeys.Nodup := by
  cases source with
  | ready card => exact card.nodup_formKeys
  | broken reason => exact List.nodup_nil

/-- A form that is shown is among the forms in the output. -/
theorem Output.scope_mem_scopes {output : Output} {id : String} {style : Option String}
    {key : FormKey} {destination : Option String} {state : FormState} {children : List View}
    (mem : .frame id style (.form key destination state) children
      ∈ View.preorderAll output.body) :
    (⟨key, destination⟩ : Scope) ∈ output.scopes :=
  List.mem_filterMap.2 ⟨_, mem, rfl⟩

/-! ## 4. Main statement -/

/-- **There is one store for each form that is shown, and no other.**  Whatever the renderer went
through and whatever is rendered, the keys of the forms in the output are distinct, and they are the
keys of the stores afterwards.  Each form is shown in the state of its store.  Without a card there
are neither forms nor stores. -/
theorem one_store_for_each_form (renderer : Renderer) (source : Source) :
    let output := (renderer.render source).1
    let stores := (renderer.render source).2.arena.stores
    (output.scopes.map Scope.key).Nodup
    ∧ stores.keys.Perm (output.scopes.map Scope.key)
    ∧ (∀ id style key destination state children,
      .frame id style (.form key destination state) children ∈ View.preorderAll output.body →
      ∃ store, stores.get? key = some store ∧ store.state = state)
    ∧ ∀ reason, source = .broken reason → output = .broken reason ∧ stores.keys = [] := by
  intro output stores
  have keys : output.scopes.map Scope.key = source.formKeys := renderer.keys_render source
  have found (key : FormKey) : stores.get? key
      = if key ∈ source.formKeys then some (renderer.arena.held key) else none :=
    renderer.get?_render source key
  have same : stores.keys.Perm source.formKeys := by
    rw [List.perm_ext_iff_of_nodup stores.nodup_keys source.nodup_formKeys]
    intro key
    rw [Dict.mem_keys, found]
    by_cases mem : key ∈ source.formKeys
    · simp [mem]
    · simp [mem]
  refine ⟨keys ▸ source.nodup_formKeys, keys ▸ same, ?_, ?_⟩
  · intro id style key destination state children mem
    have opened : key ∈ source.formKeys :=
      keys ▸ List.mem_map_of_mem (f := Scope.key) (Output.scope_mem_scopes mem)
    refine ⟨renderer.arena.held key, by rw [found, if_pos opened], ?_⟩
    cases source with
    | ready card => exact (Renderer.state_renderCard mem).symm
    | broken reason => exact absurd opened List.not_mem_nil
  · rintro reason rfl
    exact ⟨rfl, same.eq_nil⟩

/-- Ids that look like the keys of others get keys of their own. -/
example :
    let card : Card := .ofBody [.formOf "a/b" [], .formOf "a" [.formOf "b" []], .formOf "a/b#2" []]
    ((Renderer.new "").renderCard card).1.scopes.map Scope.key
      = ["a/b", "a", "a/b#2", "a/b#2#2"] := by decide

end FormCard
