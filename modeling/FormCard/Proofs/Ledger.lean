import FormCard.Proofs.Run
import Mathlib.Data.List.Induction

/-!
# What a form holds is what was entered into it

This is the correctness of form data over whole runs of a renderer, with any sources, any events and
any sinks, which may differ from event to event.  Nothing that a user entered gets lost, nothing old
comes back, and nothing ends up in the wrong form.

To say so takes an account of what was entered that does not come from the stores.  An observer of a
run keeps a ledger: the source that was shown last, and for each form the entries that were made,
which are the fields and values of the changes that took effect.  The observer knows this from the
results of events, as any host does.  The entries of a form are struck out when a pass opens it
although the pass before did not.

Main statement: at every point of every run the stores are what the ledger says
(`stores_follow_ledger`).  A form has a store exactly if the card that was shown last has it; the
store holds the last entry for each field, it is edited exactly if there are entries, and a click on
a button that submits the form hands over just these values.

The invariant is `Run.Faithful`, with a lemma for each kind of step, `Faithful.render` and
`Faithful.event`.  What one field holds is read off the entries of its form in the end, as the last
one with its name.
-/

namespace FormCard

/-! ## 1. Entries -/

/-- The values that a list of entries leaves: for each field the last one. -/
def lastWrites (entries : List (String × Json)) : FieldValues := Dict.ofList entries

theorem lastWrites_append (entries : List (String × Json)) (field : String) (value : Json) :
    lastWrites (entries ++ [(field, value)]) = (lastWrites entries).insert field value := by
  simp [lastWrites, Dict.ofList]

/-- **The last entry for a field is the one that counts.** -/
theorem get?_lastWrites (entries : List (String × Json)) (field : String) :
    (lastWrites entries).get? field = entries.reverse.lookup field := by
  induction entries using List.reverseRecOn with
  | nil => rfl
  | append_singleton entries entry ih =>
    obtain ⟨name, value⟩ := entry
    rw [lastWrites_append, Dict.get?_insert, ih, List.reverse_append]
    exact (Members.lookup_cons field name value entries.reverse).symm

/-- The store of a form into which the entries were made, and nothing else. -/
def Store.ofEntries (entries : List (String × Json)) : Store :=
  ⟨lastWrites entries, if entries = [] then .clean else .edited⟩

theorem Store.update_ofEntries (entries : List (String × Json)) (field : String) (value : Json) :
    (Store.ofEntries entries).update field value
      = Store.ofEntries (entries ++ [(field, value)]) := by
  simp [Store.update, Store.ofEntries, lastWrites_append]

/-! ## 2. Runs and their ledger -/

/-- What a host does with a renderer; each event comes with the sink for it. -/
inductive Step (σ : Type) where
  | render (source : Source)
  | event (sink : Sink σ) (event : Event)

/-- What an observer writes down. -/
structure Ledger where
  /-- The source that was shown last. -/
  shown : Option Source
  /-- The entries into each form, the first one first. -/
  entries : FormKey → List (String × Json)

namespace Ledger

/-- The ledger before anything happened. -/
def empty : Ledger := ⟨none, fun _ => []⟩

/-- The keys that the last pass opened; there are none before the first pass. -/
def keys (ledger : Ledger) : List FormKey := (ledger.shown.map Source.formKeys).getD []

theorem mem_keys_iff {ledger : Ledger} {key : FormKey} :
    key ∈ ledger.keys ↔ ∃ card, ledger.shown = some (.ready card) ∧ key ∈ card.formKeys := by
  obtain ⟨shown, entries⟩ := ledger
  rcases shown with _ | ⟨card⟩ | ⟨reason⟩ <;> simp [keys, Source.formKeys]

/-- After a pass: forms that it opened and the pass before did not start without entries. -/
def afterPass (ledger : Ledger) (source : Source) : Ledger where
  shown := some source
  entries key :=
    if key ∈ source.formKeys ∧ key ∉ ledger.keys then [] else ledger.entries key

/-- After an event: a change that took effect is an entry. -/
def afterEvent (ledger : Ledger) : Event → EventResult → Ledger
  | .change _ value, .fieldUpdated form field =>
    { ledger with
      entries := fun key =>
        if key = form then ledger.entries key ++ [(field, value)] else ledger.entries key }
  | _, _ => ledger

/-- An event does not change what is shown. -/
theorem shown_afterEvent (ledger : Ledger) (event : Event) (result : EventResult) :
    (ledger.afterEvent event result).shown = ledger.shown := by
  cases event <;> cases result <;> rfl

end Ledger

/-- A renderer on its way, with the state of the sinks and the ledger of the observer. -/
structure Run (σ : Type) where
  renderer : Renderer
  state : σ
  ledger : Ledger

namespace Run

variable {σ : Type}

def start (primary : String) (state : σ) : Run σ := ⟨.new primary, state, .empty⟩

/-- One step further. -/
def step (run : Run σ) : Step σ → Run σ
  | .render source =>
    { run with
      renderer := (run.renderer.render source).2
      ledger := run.ledger.afterPass source }
  | .event sink event =>
    let handled := run.renderer.handle sink run.state event
    ⟨handled.2.1, handled.2.2, run.ledger.afterEvent event handled.1⟩

/-- A run from its start through all steps. -/
def play (primary : String) (state : σ) (steps : List (Step σ)) : Run σ :=
  steps.foldl step (start primary state)

/-! ## 3. The invariant -/

/-- The stores are what the ledger says. -/
structure Faithful (run : Run σ) : Prop where
  reachable : run.renderer.Reachable
  opened : ∀ key, key ∈ run.renderer.arena.opened ↔ key ∈ run.ledger.keys
  stores : ∀ key, run.renderer.arena.stores.get? key
    = if key ∈ run.ledger.keys then some (.ofEntries (run.ledger.entries key)) else none

theorem faithful_start (primary : String) (state : σ) : (start primary state).Faithful :=
  ⟨.new primary, fun _ => Iff.rfl, fun _ => rfl⟩

/-- A form that the last pass opened has the store of its entries. -/
theorem Faithful.mem_keys {run : Run σ} (h : run.Faithful) {key : FormKey} {store : Store}
    (found : run.renderer.arena.stores.get? key = some store) :
    key ∈ run.ledger.keys ∧ store = .ofEntries (run.ledger.entries key) := by
  rw [h.stores key] at found
  by_cases opened : key ∈ run.ledger.keys
  · rw [if_pos opened] at found
    exact ⟨opened, (Option.some.inj found).symm⟩
  · rw [if_neg opened] at found
    exact absurd found (by simp)

/-- **A pass keeps the stores in step with the ledger.** -/
theorem Faithful.render {run : Run σ} (h : run.Faithful) (source : Source) :
    (run.step (.render source)).Faithful := by
  refine ⟨h.reachable.render source, fun key => ?_, fun key => ?_⟩
  · show key ∈ (run.renderer.render source).2.arena.opened ↔ key ∈ source.formKeys
    rw [Renderer.opened_render, List.mem_reverse]
  have keys : (run.step (.render source)).ledger.keys = source.formKeys := rfl
  have entries : (run.step (.render source)).ledger.entries key
      = if key ∈ source.formKeys ∧ key ∉ run.ledger.keys then [] else run.ledger.entries key := rfl
  show (run.renderer.render source).2.arena.stores.get? key = _
  rw [Renderer.get?_render, keys, entries]
  by_cases opened : key ∈ source.formKeys
  · rw [if_pos opened, if_pos opened, h.stores key]
    by_cases before : key ∈ run.ledger.keys
    · rw [if_pos before, if_neg fun fresh => fresh.2 before]
      rfl
    · rw [if_neg before, if_pos ⟨opened, before⟩]
      rfl
  · rw [if_neg opened, if_neg opened]

/-- **An event keeps the stores in step with the ledger.** -/
theorem Faithful.event {run : Run σ} (h : run.Faithful) (sink : Sink σ) (event : Event) :
    (run.step (.event sink event)).Faithful := by
  have keys : (run.step (.event sink event)).ledger.keys = run.ledger.keys :=
    congrArg (fun shown => (Option.map Source.formKeys shown).getD []) (Ledger.shown_afterEvent ..)
  refine ⟨h.reachable.handle sink run.state event, fun key => ?_, fun key => ?_⟩
  · rw [keys, ← h.opened key]
    show key ∈ (run.renderer.handle sink run.state event).2.1.arena.opened ↔ _
    rw [Renderer.opened_handle]
  rcases Renderer.handle_cases sink run.renderer run.state event with
    ⟨id, value, target, store, rfl, -, found, eq⟩ | ⟨id, scope, intent, rfl, -, eq⟩
    | ⟨result, quiet, eq⟩
  · -- a value was entered: the store and the entries of one form grow by it
    obtain ⟨opened, rfl⟩ := h.mem_keys found
    simp only [step, eq, Ledger.afterEvent]
    rw [Renderer.get?_enter, Store.update_ofEntries]
    by_cases same : target.form = key
    · subst same
      rw [if_pos rfl, if_pos rfl]
      exact (if_pos opened).symm
    · rw [if_neg same, if_neg (Ne.symm same)]
      exact h.stores key
  · -- a submission changes neither side
    simp only [step, eq, Ledger.afterEvent]
    exact h.stores key
  · have unchanged : run.ledger.afterEvent event result = run.ledger := by
      rcases quiet with rfl | ⟨intent, rfl⟩ <;> cases event <;> rfl
    simp only [step, eq, unchanged]
    exact h.stores key

/-- **The stores are in step with the ledger at every point of a run.** -/
theorem faithful_play (primary : String) (state : σ) (steps : List (Step σ)) :
    (play primary state steps).Faithful := by
  induction steps using List.reverseRecOn with
  | nil => exact faithful_start primary state
  | append_singleton steps last ih =>
    rw [play, List.foldl_append, List.foldl_cons, List.foldl_nil]
    cases last with
    | render source => exact Faithful.render ih source
    | event sink event => exact Faithful.event ih sink event

/-! ## 4. What the stores hold -/

/-- What a button submits is what was entered into its form. -/
theorem Faithful.submission {run : Run σ} (h : run.Faithful) {id : String} {scope : Scope}
    {intent : Option String}
    (bound : run.renderer.bindings.get? id = some (.button (some scope) intent)) :
    run.renderer.submission scope
      = ⟨scope.destination, lastWrites (run.ledger.entries scope.key)⟩ := by
  have live := h.reachable.live id _ scope.key bound rfl
  obtain ⟨store, found⟩ := Option.isSome_iff_exists.1 live
  have held := (h.mem_keys found).2
  rw [Renderer.submission, found, held]
  rfl

end Run

/-- **Forms hold what was entered into them.**  At every point of every run a form counts as opened
and has a store exactly if the last pass was over a card with that form; the store holds the last
entry for each field and is edited exactly if there are entries; and a click on a button that
submits the form hands over just these values.  No other event reaches a sink. -/
theorem stores_follow_ledger {σ : Type} (primary : String) (state : σ) (steps : List (Step σ))
    (key : FormKey) :
    let run := Run.play primary state steps
    (key ∈ run.renderer.arena.opened
      ↔ ∃ card, run.ledger.shown = some (.ready card) ∧ key ∈ card.formKeys)
    ∧ ((∃ store, run.renderer.arena.stores.get? key = some store)
      ↔ ∃ card, run.ledger.shown = some (.ready card) ∧ key ∈ card.formKeys)
    ∧ (∀ store, run.renderer.arena.stores.get? key = some store →
      store.values = lastWrites (run.ledger.entries key)
      ∧ (∀ field, store.get? field = (run.ledger.entries key).reverse.lookup field)
      ∧ (store.state = .edited ↔ run.ledger.entries key ≠ []))
    ∧ (∀ (sink : Sink σ) (id : String) (scope : Scope) (intent : Option String), scope.key = key →
      run.renderer.bindings.get? id = some (.button (some scope) intent) →
      let submission : Submission := ⟨scope.destination, lastWrites (run.ledger.entries key)⟩
      run.renderer.handle sink run.state (.click id)
        = (.clicked intent (some submission.receipt), run.renderer,
            (sink run.state submission).1))
    ∧ ∀ (sink : Sink σ) (event : Event),
      (∀ id scope intent, event = .click id →
        run.renderer.bindings.get? id ≠ some (.button (some scope) intent)) →
      (run.renderer.handle sink run.state event).2.2 = run.state := by
  intro run
  have faithful : run.Faithful := Run.faithful_play primary state steps
  refine ⟨(faithful.opened key).trans Ledger.mem_keys_iff, ?_, ?_, ?_, ?_⟩
  · rw [← Ledger.mem_keys_iff]
    constructor
    · rintro ⟨store, found⟩
      exact (faithful.mem_keys found).1
    · intro opened
      exact ⟨_, (faithful.stores key).trans (if_pos opened)⟩
  · intro store found
    obtain ⟨-, rfl⟩ := faithful.mem_keys found
    refine ⟨rfl, get?_lastWrites _, ?_⟩
    by_cases none : run.ledger.entries key = [] <;> simp [Store.ofEntries, none]
  · rintro sink id scope intent rfl bound
    rw [Renderer.handle_click_of_submit bound, faithful.submission bound]
  · intro sink event others
    rcases Renderer.handle_cases sink run.renderer run.state event with
      ⟨id, value, target, store, -, -, -, eq⟩ | ⟨id, scope, intent, click, bound, -⟩
      | ⟨result, -, eq⟩
    · rw [eq]
    · exact absurd bound (others id scope intent click)
    · rw [eq]

end FormCard
