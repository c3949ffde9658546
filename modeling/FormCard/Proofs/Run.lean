import FormCard.Proofs.Event

/-!
# Reachable renderers

A renderer notes in a pass what events on its components do, and later looks up the store of a form
that it noted.  The program has an answer for a form without a store, but it should never be
needed.  This module shows that it is not.

A renderer is reachable if it came out of passes and events, in any order and with any sinks, from a
new one.  Main statement: in a reachable renderer every binding that acts on a form acts on one that
has a store (`Renderer.Reachable.live`).

There are two reasons for it.  A pass binds components only to forms that it opened itself
(`grounded_viewNode`); this is an induction over the components of a card, in which the form around
a component is one that was opened already.  And between passes no store goes away, since events
neither make nor drop any.  A pass drops stores as well, but only those that it did not open, and it
forgets all bindings of the pass before.
-/

namespace FormCard

/-- The form that a binding acts on. -/
def Binding.form? : Binding → Option FormKey
  | field target => target.map FieldRef.form
  | button submit _ => submit.map Scope.key

/-! ## 1. Bindings noted in a pass -/

namespace Desk

/-- Every binding noted so far acts on a form that was opened. -/
def Grounded (desk : Desk) : Prop :=
  ∀ id binding key, desk.bindings.get? id = some binding → binding.form? = some key →
    key ∈ desk.arena.opened

theorem Grounded.note {desk : Desk} (h : desk.Grounded) (id : String) {binding : Binding}
    (own : ∀ key, binding.form? = some key → key ∈ desk.arena.opened) :
    (desk.note id binding).Grounded := by
  intro other found key bound form
  rw [Desk.note, Dict.get?_insert] at bound
  split at bound
  · obtain rfl : binding = found := Option.some.inj bound
    exact own key form
  · exact h other found key bound form

theorem Grounded.open {desk : Desk} (h : desk.Grounded) (path : String) :
    Grounded { desk with arena := (desk.arena.openForm path).2 } :=
  fun id binding key bound form => List.mem_cons_of_mem _ (h id binding key bound form)

end Desk

/-- The field that a component edits belongs to the form around it. -/
theorem form?_fieldRef {scope : Option Scope} {field : Option String} {key : FormKey}
    (h : (Binding.field (fieldRef scope field)).form? = some key) :
    ∃ own, scope = some own ∧ own.key = key := by
  cases scope with
  | none => simp [Binding.form?, fieldRef] at h
  | some own =>
    cases field with
    | none => simp [Binding.form?, fieldRef] at h
    | some field => exact ⟨own, rfl, by simpa [Binding.form?, fieldRef] using h⟩

/-- The form that a button submits is the one around it. -/
theorem form?_submitScope {scope : Option Scope} {props : Props} {intent : Option String}
    {key : FormKey} (h : (Binding.button (submitScope scope props) intent).form? = some key) :
    ∃ own, scope = some own ∧ own.key = key := by
  cases scope with
  | none => simp [Binding.form?, submitScope] at h
  | some own =>
    refine ⟨own, rfl, ?_⟩
    simp only [Binding.form?, submitScope, Option.filter, Option.map_eq_some_iff] at h
    obtain ⟨form, kept, rfl⟩ := h
    split at kept
    · rw [Option.some.inj kept]
    · simp at kept

/-- A pass over a component keeps what was opened. -/
theorem opened_subset_viewNode (theme : Theme) (scope : Option Scope) (path : String) (node : Node)
    (desk : Desk) : desk.arena.opened ⊆ (viewNode theme scope path node desk).2.arena.opened := by
  rw [arena_viewNode, Arena.opened_openAll]
  exact List.subset_append_right _ _

mutual

/-- **A pass binds components only to forms that it opened.** -/
theorem grounded_viewNode (theme : Theme) :
    (node : Node) → (scope : Option Scope) → (path : String) → (desk : Desk) →
      (∀ own, scope = some own → own.key ∈ desk.arena.opened) → desk.Grounded →
      (viewNode theme scope path node desk).2.Grounded
  | ⟨id, kind, props, style, children, field⟩, scope, path, desk, around, grounded => by
    cases role : kind.role with
    | region =>
      simpa [viewNode, role] using grounded_viewAll theme children _ scope desk around grounded
    | grid =>
      simpa [viewNode, role] using grounded_viewAll theme children _ scope desk around grounded
    | form =>
      simp only [viewNode, role]
      refine grounded_viewAll theme children _ _ _ ?_ (grounded.open path)
      intro own eq
      rw [← Option.some.inj eq]
      exact List.mem_cons_self
    | display display => simpa [viewNode, role] using grounded
    | editor editor =>
      simp only [viewNode, role]
      refine grounded.note id fun key form => ?_
      obtain ⟨own, rfl, rfl⟩ := form?_fieldRef form
      exact around own rfl
    | button =>
      simp only [viewNode, role]
      refine grounded.note id fun key form => ?_
      obtain ⟨own, rfl, rfl⟩ := form?_submitScope form
      exact around own rfl
    | unsupported => simpa [viewNode, role] using grounded

theorem grounded_viewAll (theme : Theme) :
    (nodes : List Node) → (paths : List String) → (scope : Option Scope) → (desk : Desk) →
      (∀ own, scope = some own → own.key ∈ desk.arena.opened) → desk.Grounded →
      (viewAll theme scope nodes paths desk).2.Grounded
  | node :: nodes, path :: paths, scope, desk, around, grounded => by
    simp only [viewAll]
    refine grounded_viewAll theme nodes paths scope _ (fun own eq => ?_)
      (grounded_viewNode theme node scope path desk around grounded)
    exact opened_subset_viewNode theme scope path node desk (around own eq)
  | [], paths, scope, desk, around, grounded => by simpa [viewAll] using grounded
  | _ :: _, [], scope, desk, around, grounded => by simpa [viewAll] using grounded

end

/-! ## 2. Bindings between passes -/

namespace Renderer

/-- Every binding that acts on a form acts on one that has a store. -/
def Live (renderer : Renderer) : Prop :=
  ∀ id binding key, renderer.bindings.get? id = some binding → binding.form? = some key →
    (renderer.arena.stores.get? key).isSome = true

theorem live_renderCard (renderer : Renderer) (card : Card) :
    (renderer.renderCard card).2.Live := by
  intro id binding key bound form
  have grounded : Desk.Grounded renderer.desk := by simp [Desk.Grounded, desk]
  have opened : key ∈ (renderer.renderCard card).2.arena.opened :=
    grounded_viewAll _ card.body _ none renderer.desk (by simp) grounded id binding key bound form
  rw [opened_renderCard, List.mem_reverse] at opened
  rw [get?_renderCard, if_pos opened]
  rfl

theorem live_render (renderer : Renderer) (source : Source) : (renderer.render source).2.Live := by
  cases source with
  | ready card => exact live_renderCard renderer card
  | broken reason => simp [Live, render, afterPass, desk]

theorem Live.handle {σ : Type} {renderer : Renderer} (live : renderer.Live) (sink : Sink σ)
    (state : σ) (event : Event) : (renderer.handle sink state event).2.1.Live := by
  intro id binding key bound form
  rw [bindings_handle] at bound
  rw [isSome_get?_handle]
  exact live id binding key bound form

/-- Renderers that come out of passes and events from a new one. -/
inductive Reachable : Renderer → Prop
  | new (primary : String) : Reachable (.new primary)
  | render {renderer : Renderer} (source : Source) :
    Reachable renderer → Reachable (renderer.render source).2
  | handle {renderer : Renderer} {σ : Type} (sink : Sink σ) (state : σ) (event : Event) :
    Reachable renderer → Reachable (renderer.handle sink state event).2.1

/-- **No reachable renderer has a binding to a form without a store.** -/
theorem Reachable.live {renderer : Renderer} (h : Reachable renderer) : renderer.Live := by
  induction h with
  | new primary => simp [Live, Renderer.new]
  | render source reachable ih => exact live_render _ source
  | handle sink state event reachable ih => exact ih.handle sink state event

end Renderer

end FormCard
