import FormCard.Render.Event
import FormCard.Proofs.Boundary

/-!
# What an event can do

This module is the specification of event handling, case by case, and most of what is proved about
events rests on it.  What an event does depends on the binding of its component.  It either enters a
value into one field of one store, or hands one submission to the sink, or changes nothing at all
(`handle_cases`).

Each binding has a lemma that says what comes of each sort of event on it; together they cover the
function, so that no other module needs to unfold it.  Entering a value is given a name of its own,
`Renderer.enter`, and a law for look-ups.

Everything else that is said about events is read off from the cases: an event leaves the bindings
as they are, counts no pass, opens no form, and neither makes nor drops a store
(`isSome_get?_handle`); its result tells what was entered (`exists_enter_of_updated`), and without
an update the renderer stays as it is (`handle_eq_self`).  The same is then said of several events
in a row, by induction along the list.  `Renderer.afterEvents` is the state that many statements
start from: a card was rendered and any events happened since.

There is a case for a field whose form has no store.  It is part of the function, although no
renderer gets there; `FormCard.Proofs.Run` shows why.
-/

namespace FormCard.Renderer

variable {σ : Type}

/-- The renderer after a value was entered into a field whose form has the given store. -/
def enter (renderer : Renderer) (target : FieldRef) (store : Store) (value : Json) : Renderer :=
  { renderer with
    arena := { renderer.arena with
      stores := renderer.arena.stores.insert target.form (store.update target.field value) } }

/-! ## 1. What a binding does -/

/-- An event on an id without a binding is ignored. -/
theorem handle_of_unbound (sink : Sink σ) (state : σ) {renderer : Renderer} {event : Event}
    (free : renderer.bindings.get? event.target = none) :
    renderer.handle sink state event = (.ignored, renderer, state) := by
  cases event with
  | change id value => simp [handle, free]
  | click id => simp [handle, free]

/-- A click on a field is ignored. -/
theorem handle_click_of_field (sink : Sink σ) (state : σ) {renderer : Renderer} {id : String}
    {target : Option FieldRef} (bound : renderer.bindings.get? id = some (.field target)) :
    renderer.handle sink state (.click id) = (.ignored, renderer, state) := by
  simp [handle, Event.target, bound]

/-- A change of a field outside of forms is ignored. -/
theorem handle_change_of_none (sink : Sink σ) (state : σ) {renderer : Renderer} {id : String}
    (bound : renderer.bindings.get? id = some (.field none)) (value : Json) :
    renderer.handle sink state (.change id value) = (.ignored, renderer, state) := by
  simp [handle, Event.target, bound]

/-- A change of a field whose form has no store is ignored. -/
theorem handle_change_of_lost (sink : Sink σ) (state : σ) (value : Json) {renderer : Renderer}
    {id : String} {target : FieldRef}
    (bound : renderer.bindings.get? id = some (.field (some target)))
    (free : renderer.arena.stores.get? target.form = none) :
    renderer.handle sink state (.change id value) = (.ignored, renderer, state) := by
  simp [handle, Event.target, bound, Arena.writeField?, free]

/-- A change of a component that is bound to a field enters its value there. -/
theorem handle_change_of_field (sink : Sink σ) (state : σ) (value : Json) {renderer : Renderer}
    {id : String} {target : FieldRef} {store : Store}
    (bound : renderer.bindings.get? id = some (.field (some target)))
    (found : renderer.arena.stores.get? target.form = some store) :
    renderer.handle sink state (.change id value)
      = (.fieldUpdated target.form target.field, renderer.enter target store value, state) := by
  simp [handle, Event.target, bound, Arena.writeField?, found, enter]

/-- A change of a button is ignored. -/
theorem handle_change_of_button (sink : Sink σ) (state : σ) {renderer : Renderer} {id : String}
    {submit : Option Scope} {intent : Option String}
    (bound : renderer.bindings.get? id = some (.button submit intent)) (value : Json) :
    renderer.handle sink state (.change id value) = (.ignored, renderer, state) := by
  simp [handle, Event.target, bound]

/-- A click on a button that submits nothing names its intent, if it has one. -/
theorem handle_click_of_intent (sink : Sink σ) (state : σ) {renderer : Renderer} {id : String}
    {intent : Option String} (bound : renderer.bindings.get? id = some (.button none intent)) :
    renderer.handle sink state (.click id)
      = (intent.elim .ignored fun name => .clicked (some name) none, renderer, state) := by
  cases intent with
  | none => simp [handle, Event.target, bound]
  | some name => simp [handle, Event.target, bound]

/-- A click on a button that submits a form hands one submission to the sink. -/
theorem handle_click_of_submit {sink : Sink σ} {renderer : Renderer} {state : σ} {id : String}
    {scope : Scope} {intent : Option String}
    (bound : renderer.bindings.get? id = some (.button (some scope) intent)) :
    renderer.handle sink state (.click id)
      = (.clicked intent (some (renderer.submission scope).receipt), renderer,
          (sink state (renderer.submission scope)).1) := by
  simp [handle, Event.target, bound]

/-- **An event enters a value, hands over a submission, or changes nothing.** -/
theorem handle_cases (sink : Sink σ) (renderer : Renderer) (state : σ) (event : Event) :
    (∃ id value target store, event = .change id value
      ∧ renderer.bindings.get? id = some (.field (some target))
      ∧ renderer.arena.stores.get? target.form = some store
      ∧ renderer.handle sink state event
        = (.fieldUpdated target.form target.field, renderer.enter target store value, state))
    ∨ (∃ id scope intent, event = .click id
      ∧ renderer.bindings.get? id = some (.button (some scope) intent)
      ∧ renderer.handle sink state event
        = (.clicked intent (some (renderer.submission scope).receipt), renderer,
            (sink state (renderer.submission scope)).1))
    ∨ ∃ result, (result = .ignored ∨ ∃ intent, result = .clicked (some intent) none)
      ∧ renderer.handle sink state event = (result, renderer, state) := by
  cases event with
  | change id value =>
    rcases bound : renderer.bindings.get? id with _ | ⟨_ | target⟩ | ⟨submit, intent⟩
    · exact .inr (.inr ⟨.ignored, .inl rfl, handle_of_unbound sink state bound⟩)
    · exact .inr (.inr ⟨.ignored, .inl rfl, handle_change_of_none sink state bound value⟩)
    · cases found : renderer.arena.stores.get? target.form with
      | none =>
        have lost := handle_change_of_lost sink state value bound found
        exact .inr (.inr ⟨.ignored, .inl rfl, lost⟩)
      | some store =>
        have entered := handle_change_of_field sink state value bound found
        exact .inl ⟨id, value, target, store, rfl, bound, found, entered⟩
    · exact .inr (.inr ⟨.ignored, .inl rfl, handle_change_of_button sink state bound value⟩)
  | click id =>
    rcases bound : renderer.bindings.get? id with _ | ⟨target⟩ | ⟨_ | scope, intent⟩
    · exact .inr (.inr ⟨.ignored, .inl rfl, handle_of_unbound sink state bound⟩)
    · exact .inr (.inr ⟨.ignored, .inl rfl, handle_click_of_field sink state bound⟩)
    · have named := handle_click_of_intent sink state bound
      cases intent with
      | none => exact .inr (.inr ⟨.ignored, .inl rfl, named⟩)
      | some intent => exact .inr (.inr ⟨.clicked (some intent) none, .inr ⟨intent, rfl⟩, named⟩)
    · exact .inr (.inl ⟨id, scope, intent, rfl, bound, handle_click_of_submit bound⟩)

/-! ## 2. What events leave alone -/

theorem get?_enter (renderer : Renderer) (target : FieldRef) (store : Store) (value : Json)
    (key : FormKey) :
    (renderer.enter target store value).arena.stores.get? key
      = if target.form = key then some (store.update target.field value)
        else renderer.arena.stores.get? key :=
  Dict.get?_insert _ _ _ _

/-- **An event leaves the bindings as they are.** -/
theorem bindings_handle (sink : Sink σ) (renderer : Renderer) (state : σ) (event : Event) :
    (renderer.handle sink state event).2.1.bindings = renderer.bindings := by
  rcases handle_cases sink renderer state event with
    ⟨id, value, target, store, -, -, -, eq⟩ | ⟨id, scope, intent, -, -, eq⟩ | ⟨result, -, eq⟩
  · rw [eq, enter]
  · rw [eq]
  · rw [eq]

/-- An event does not count as a pass. -/
theorem passCount_handle (sink : Sink σ) (renderer : Renderer) (state : σ) (event : Event) :
    (renderer.handle sink state event).2.1.passCount = renderer.passCount := by
  rcases handle_cases sink renderer state event with
    ⟨id, value, target, store, -, -, -, eq⟩ | ⟨id, scope, intent, -, -, eq⟩ | ⟨result, -, eq⟩
  · rw [eq, enter]
  · rw [eq]
  · rw [eq]

/-- An event opens no form. -/
theorem opened_handle (sink : Sink σ) (renderer : Renderer) (state : σ) (event : Event) :
    (renderer.handle sink state event).2.1.arena.opened = renderer.arena.opened := by
  rcases handle_cases sink renderer state event with
    ⟨id, value, target, store, -, -, -, eq⟩ | ⟨id, scope, intent, -, -, eq⟩ | ⟨result, -, eq⟩
  · rw [eq, enter]
  · rw [eq]
  · rw [eq]

/-- **An event neither makes nor drops a store.** -/
theorem isSome_get?_handle (sink : Sink σ) (renderer : Renderer) (state : σ) (event : Event)
    (key : FormKey) :
    ((renderer.handle sink state event).2.1.arena.stores.get? key).isSome
      = (renderer.arena.stores.get? key).isSome := by
  rcases handle_cases sink renderer state event with
    ⟨id, value, target, store, -, -, found, eq⟩ | ⟨id, scope, intent, -, -, eq⟩ | ⟨result, -, eq⟩
  · rw [eq, get?_enter]
    by_cases same : target.form = key
    · rw [if_pos same, ← same, found]
      rfl
    · rw [if_neg same]
  · rw [eq]
  · rw [eq]

/-- **An update is a value that was entered** into the field that the component is bound to. -/
theorem exists_enter_of_updated {sink : Sink σ} {renderer : Renderer} {state : σ} {event : Event}
    {form : FormKey} {field : String}
    (updated : (renderer.handle sink state event).1 = .fieldUpdated form field) :
    ∃ id value store, event = .change id value
      ∧ renderer.bindings.get? id = some (.field (some ⟨form, field⟩))
      ∧ renderer.arena.stores.get? form = some store
      ∧ (renderer.handle sink state event).2
        = (renderer.enter ⟨form, field⟩ store value, state) := by
  rcases handle_cases sink renderer state event with
    ⟨id, value, target, store, change, bound, found, eq⟩ | ⟨id, scope, intent, -, -, eq⟩
    | ⟨result, quiet, eq⟩
  · rw [eq] at updated
    obtain ⟨rfl, rfl⟩ := EventResult.fieldUpdated.inj updated
    exact ⟨id, value, store, change, bound, found, by rw [eq]⟩
  · rw [eq] at updated
    cases updated
  · rw [eq] at updated
    rcases quiet with rfl | ⟨intent, rfl⟩
    · cases updated
    · cases updated

/-- **Without an update the renderer stays as it is.** -/
theorem handle_eq_self {sink : Sink σ} {renderer : Renderer} {state : σ} {event : Event}
    (none : ∀ form field, (renderer.handle sink state event).1 ≠ .fieldUpdated form field) :
    (renderer.handle sink state event).2.1 = renderer := by
  rcases handle_cases sink renderer state event with
    ⟨id, value, target, store, -, -, -, eq⟩ | ⟨id, scope, intent, -, -, eq⟩ | ⟨result, -, eq⟩
  · exact absurd (congrArg Prod.fst eq) (none target.form target.field)
  · rw [eq]
  · rw [eq]

/-! ## 3. Several events -/

/-- Lets events happen one after the other. -/
def handleAll (sink : Sink σ) (renderer : Renderer) (state : σ) (events : List Event) :
    Renderer × σ :=
  events.foldl (fun now event => (now.1.handle sink now.2 event).2) (renderer, state)

theorem isSome_get?_handleAll (sink : Sink σ) (renderer : Renderer) (state : σ)
    (events : List Event) (key : FormKey) :
    ((renderer.handleAll sink state events).1.arena.stores.get? key).isSome
      = (renderer.arena.stores.get? key).isSome := by
  induction events generalizing renderer state with
  | nil => rfl
  | cons event events ih =>
    rw [← isSome_get?_handle sink renderer state event key]
    exact ih _ _

theorem bindings_handleAll (sink : Sink σ) (renderer : Renderer) (state : σ) (events : List Event) :
    (renderer.handleAll sink state events).1.bindings = renderer.bindings := by
  induction events generalizing renderer state with
  | nil => rfl
  | cons event events ih =>
    rw [← bindings_handle sink renderer state event]
    exact ih _ _

/-- The renderer that showed a card and then handled events. -/
def afterEvents (renderer : Renderer) (card : Card) (sink : Sink σ) (state : σ)
    (events : List Event) : Renderer :=
  ((renderer.renderCard card).2.handleAll sink state events).1

/-- **Until the next pass the stores are those of the card,** whatever events happen. -/
theorem isSome_get?_afterEvents (renderer : Renderer) (card : Card) (sink : Sink σ) (state : σ)
    (events : List Event) (key : FormKey) :
    ((renderer.afterEvents card sink state events).arena.stores.get? key).isSome = true
      ↔ key ∈ card.formKeys := by
  rw [afterEvents, isSome_get?_handleAll, get?_renderCard]
  by_cases mem : key ∈ card.formKeys
  · simp [mem]
  · simp [mem]

end FormCard.Renderer
