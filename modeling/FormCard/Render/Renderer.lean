import FormCard.Render.Pass
import FormCard.Card.Source

/-!
# The renderer

The renderer is what a host holds on to: it is asked to render a source, again and again, and told
of events in between.  It keeps what outlives a pass, which is the stores of the forms that are
still shown and the bindings of the last pass, together with the default color of the host and a
count of passes.

Each pass starts from the stores alone; bindings are noted anew.  A broken source counts as a card
without forms, so the values that were entered are gone when the card comes back.
-/

namespace FormCard

/-- What is kept between passes. -/
structure Renderer where
  arena : Arena
  bindings : Bindings
  /-- The primary color of cards that name none. -/
  defaultPrimary : String
  /-- The number of passes so far, as far as 64 bits go. -/
  passCount : UInt64

namespace Renderer

/-- The number of passes that the host is told. -/
def passes (renderer : Renderer) : Nat := renderer.passCount.toNat

/-- A renderer that has shown nothing yet. -/
def new (defaultPrimary : String) : Renderer := ⟨.empty, .empty, defaultPrimary, 0⟩

/-- The desk at the start of a pass: nothing is opened and nothing noted. -/
def desk (renderer : Renderer) : Desk := ⟨renderer.arena.beginPass, .empty⟩

/-- The renderer after a pass that left a desk. -/
def afterPass (renderer : Renderer) (desk : Desk) : Renderer :=
  { renderer with
    arena := desk.arena.endPass
    bindings := desk.bindings
    passCount := renderer.passCount + 1 }

def renderCard (renderer : Renderer) (card : Card) : Output × Renderer :=
  let theme := Theme.resolve card.palette renderer.defaultPrimary
  let body := viewBody theme card.body renderer.desk
  (.card card.title theme.primary theme.header body.1, renderer.afterPass body.2)

/-- Renders whatever the host has to show. -/
def render (renderer : Renderer) (source : Source) : Output × Renderer :=
  match source with
  | .ready card => renderer.renderCard card
  | .broken reason => (.broken reason, renderer.afterPass renderer.desk)

end Renderer

end FormCard
