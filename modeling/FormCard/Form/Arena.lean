import FormCard.Form.Store
import FormCard.Decimal.Natural

/-!
# The stores of all forms

Forms outlive passes: a user goes on typing while the card is rendered again and again, and while it
is edited.  The arena is the part of the program that sees to it.  It owns one store for each form
that is shown.  A pass begins, opens the forms it meets one after the other, and ends; the stores of
forms that it did not open are dropped at the end.

A form is known by its path, so a form with the same path in the next pass goes on with the same
values.  A path that was opened before in the same pass is told apart by a number, the least that is
free.  The search for it goes through as many candidates as could be taken and one more; that it
always finds one is proved in `FormCard.Proofs.Opening`.

Main statement: a pass keeps the stores of the forms that it opened and no others (`get?_endPass`).
-/

namespace FormCard

/-- The stores of all forms, and the keys opened since the pass began, the last one first. -/
structure Arena where
  stores : Dict Store
  opened : List FormKey

namespace Arena

def empty : Arena := ⟨.empty, []⟩

instance : Inhabited Arena := ⟨empty⟩

/-! ## 1. Keys -/

def numbered (path : String) (n : Nat) : FormKey :=
  path ++ "#" ++ Decimal.text n

/-- The least number from two on whose key was not opened.  One more candidate than opened keys is
enough. -/
def freeNumber (opened : List FormKey) (path : String) : Nat :=
  (((List.range (opened.length + 1)).map (· + 2)).find? fun n => numbered path n ∉ opened).getD 0

/-- The key for a form that is opened under `path`: the path itself, if it was not opened yet. -/
def freshKey (opened : List FormKey) (path : String) : FormKey :=
  if path ∈ opened then numbered path (freeNumber opened path) else path

/-! ## 2. Passes -/

/-- Begins a pass: nothing is opened yet. -/
def beginPass (arena : Arena) : Arena := { arena with opened := [] }

/-- Opens a form under `path`, with the store that is there under its key or an empty one. -/
def openForm (arena : Arena) (path : String) : FormKey × Arena :=
  let key := freshKey arena.opened path
  (key,
    { stores := if arena.stores.contains key then arena.stores else arena.stores.insert key .empty
      opened := key :: arena.opened })

/-- Ends a pass: the stores of the forms that it opened are kept. -/
def endPass (arena : Arena) : Arena :=
  { arena with stores := arena.stores.filterKeys fun key => key ∈ arena.opened }

/-! ## 3. Fields -/

/-- The text that a field of a form shows, empty without a form, a field or a store. -/
def readField (arena : Arena) (form : Option FormKey) (field : Option String) : String :=
  match form.bind arena.stores.get?, field with
  | some store, some field => store.text field
  | _, _ => ""

/-- Enters a value into a field of a form, if there are a form, a field and a store. -/
def writeField? (arena : Arena) (form : Option FormKey) (field : Option String) (value : Json) :
    Option Arena := do
  let key ← form
  let store ← arena.stores.get? key
  let field ← field
  return { arena with stores := arena.stores.insert key (store.update field value) }

/-! ## 4. The end of a pass -/

/-- **A pass keeps the stores that it opened and no others.** -/
theorem get?_endPass (arena : Arena) (key : FormKey) :
    arena.endPass.stores.get? key = if key ∈ arena.opened then arena.stores.get? key else none := by
  simp [endPass, Dict.get?_filterKeys]

end Arena

end FormCard
