import FormCard.Form.Store

/-!
# Handing over the values of a form

A click on a submit button hands the values of a form to somebody outside of the program.  A form is
submitted to a sink: any state with a function that takes a submission and may fail.  The program
itself only logs what it is given; hosts bring their own sinks, and what is proved about events is
proved for all of them.

What the sink answers never changes what the user is told.  The receipt is made from the submission
alone, and says where the values went.
-/

namespace FormCard

/-- The values of a form, and where they go. -/
structure Submission where
  destination : Option String
  values : FieldValues

/-- What the user is told about a submission. -/
structure Receipt where
  destination : Option String
  message : String
  deriving DecidableEq

/-- The text for a destination, with words for none. -/
def endpointText (destination : Option String) : String := destination.getD "(no endpoint)"

/-- The receipt for a submission. -/
def Submission.receipt (submission : Submission) : Receipt :=
  ⟨submission.destination,
    "Data submitted successfully! Endpoint: " ++ endpointText submission.destination⟩

inductive SubmitError where
  | rejected (reason : String)
  deriving DecidableEq

def SubmitError.message : SubmitError → String
  | rejected reason => "submission rejected: " ++ reason

/-- A receiver of submissions with a state of its own. -/
abbrev Sink (σ : Type) := σ → Submission → σ × Except SubmitError Unit

namespace Sink

/-- Keeps every submission, the first one first. -/
def recording : Sink (List Submission) := fun kept submission => (kept ++ [submission], .ok ())

/-- Keeps every submission and rejects it all the same. -/
def rejecting (reason : String) : Sink (List Submission) := fun kept submission =>
  (kept ++ [submission], .error (.rejected reason))

/-- Accepts everything and leaves its state as it is. -/
def ignoring {σ : Type} : Sink σ := fun state _ => (state, .ok ())

/-- Hands out what was kept, and starts again with nothing. -/
def drain (kept : List Submission) : List Submission × List Submission := (kept, [])

end Sink

end FormCard
