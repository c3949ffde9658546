import FormCard.Render.Event
import FormCard.View.Outline
import FormCard.Settings

/-!
# Previewing a card

The command line shows a card as a host would, without a user: it renders the card, lets a list of
events happen to it, and renders it again after each of them.  This is its event loop.  What is
printed is a line for each click that did something, and the card as it is at the end, in one of two
formats.

The line for a click is its receipt if it submitted a form, and its intent otherwise.  A click may
do both, and then the intent is not printed; `FormCard.Proofs.Report` says exactly when the lines
tell everything.  Submissions go to a sink that keeps nothing.
-/

namespace FormCard

/-- The line that is printed for what came of an event. -/
def EventResult.line? : EventResult → Option String
  | clicked _ (some receipt) => some receipt.message
  | clicked (some intent) none => some ("intent: " ++ intent)
  | _ => none

/-- A card as it is shown, and the lines printed so far. -/
structure Preview where
  renderer : Renderer
  output : Output
  lines : List String

namespace Preview

/-- Shows a source for the first time. -/
def start (primary : String) (source : Source) : Preview :=
  let first := (Renderer.new primary).render source
  ⟨first.2, first.1, []⟩

/-- Lets an event happen, and shows the source again. -/
def step (source : Source) (preview : Preview) (event : Event) : Preview :=
  let handled := preview.renderer.handle Sink.ignoring () event
  let next := handled.2.1.render source
  ⟨next.2, next.1, preview.lines ++ handled.1.line?.toList⟩

/-- Shows a source and lets events happen to it, one after the other. -/
def play (primary : String) (source : Source) (events : List Event) : Preview :=
  events.foldl (step source) (start primary source)

end Preview

/-- The text of a card in a format, with a line break at its end. -/
def Output.print (output : Output) : OutputFormat → String
  | .json => output.toJson.pretty ++ "\n"
  | .text => output.outline

def Preview.print (preview : Preview) (format : OutputFormat) : String :=
  String.join (preview.lines.map (· ++ "\n")) ++ preview.output.print format

end FormCard
