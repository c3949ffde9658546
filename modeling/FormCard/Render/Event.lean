import FormCard.Render.Renderer
import FormCard.Form.Submission

/-!
# Events

Users act on what is shown, and the host passes it on.  It addresses an event to a component by its
id; what it does was noted in the last pass.  A change enters a value into a form.  A click hands
the values of a form to a sink, names an intent to the host, or does both.  An event that does
nothing is ignored: there may be no component with the id, or it may be of the wrong sort, or
outside of any form.

An event is answered with what came of it, so that a host can tell whether it should do something of
its own (`EventResult.preventsDefault`).  The card is not rendered again by an event; that is for
the host to ask.
-/

namespace FormCard

inductive Event where
  /-- A new value for a field. -/
  | change (id : String) (value : Json)
  /-- A click on a button. -/
  | click (id : String)

/-- The id of the component that an event is addressed to. -/
def Event.target : Event → String
  | change id _ => id
  | click id => id

inductive EventResult where
  | ignored
  | fieldUpdated (form : FormKey) (field : String)
  | clicked (intent : Option String) (receipt : Option Receipt)
  deriving DecidableEq

namespace EventResult

/-- Whether the event did anything. -/
def isHandled : EventResult → Bool
  | ignored => false
  | fieldUpdated _ _ => true
  | clicked _ _ => true

/-- Whether the event submitted a form, in place of what the host does by default. -/
def preventsDefault : EventResult → Bool
  | clicked _ (some _) => true
  | _ => false

end EventResult

namespace Renderer

/-- The submission of a form: where it goes, and its values at the moment. -/
def submission (renderer : Renderer) (form : Scope) : Submission :=
  ⟨form.destination, ((renderer.arena.stores.get? form.key).map Store.values).getD .empty⟩

/-- Lets an event do what its component was bound to in the last pass.  A failure of the sink does
not show. -/
def handle {σ : Type} (sink : Sink σ) (renderer : Renderer) (state : σ) (event : Event) :
    EventResult × Renderer × σ :=
  match event, renderer.bindings.get? event.target with
  | .change _ value, some (.field (some target)) =>
    match renderer.arena.writeField? (some target.form) (some target.field) value with
    | some arena =>
      (.fieldUpdated target.form target.field, { renderer with arena := arena }, state)
    | none => (.ignored, renderer, state)
  | .click _, some (.button (some form) intent) =>
    let submission := renderer.submission form
    (.clicked intent (some submission.receipt), renderer, (sink state submission).1)
  | .click _, some (.button none (some intent)) => (.clicked (some intent) none, renderer, state)
  | _, _ => (.ignored, renderer, state)

end Renderer

end FormCard
