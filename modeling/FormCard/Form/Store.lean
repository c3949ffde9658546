import FormCard.Dict
import FormCard.Json.Writer

/-!
# The values of one form

Each form that is shown has a store, and what a user enters goes into it.  A store holds the values
that were entered into the fields of a form, and whether any was entered at all.  Any field name is
accepted, fields come into being with their first value, and a later value replaces an earlier one.

Values are kept as they were entered, whatever their type.  Fields show them as text
(`Json.fieldText`), and a submission hands them over as they are.
-/

namespace FormCard

/-- The identity of a form. -/
abbrev FormKey := String

/-- Values by the names of their fields, in the order of the names. -/
abbrev FieldValues := Dict Json

/-- Whether a form has been written to. -/
inductive FormState where
  | clean
  | edited
  deriving DecidableEq, Repr

def FormState.name : FormState → String
  | clean => "clean"
  | edited => "edited"

/-- The text that a value shows in a field: a string as it is, nothing for null, and otherwise the
compact text of the value. -/
def Json.fieldText : Json → String
  | .string s => s
  | .null => ""
  | value => value.compact

/-- The values of one form. -/
structure Store where
  values : FieldValues
  state : FormState

namespace Store

/-- A store that nothing was entered into. -/
def empty : Store := ⟨.empty, .clean⟩

instance : Inhabited Store := ⟨empty⟩

def get? (store : Store) (field : String) : Option Json := store.values.get? field

/-- The text that a field shows, empty when nothing was entered. -/
def text (store : Store) (field : String) : String :=
  ((store.get? field).map Json.fieldText).getD ""

/-- Enters a value into a field. -/
def update (store : Store) (field : String) (value : Json) : Store :=
  ⟨store.values.insert field value, .edited⟩

theorem get?_update (store : Store) (field other : String) (value : Json) :
    (store.update field value).get? other
      = if field = other then some value else store.get? other :=
  Dict.get?_insert store.values field other value

end Store

end FormCard
