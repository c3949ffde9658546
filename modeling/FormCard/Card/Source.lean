import FormCard.Card.Decode
import FormCard.Json.Reader

/-!
# Where a card comes from

A text is a card if it is JSON with an object at its root; `Card.parse` reads it, or says in words
why it is no card.  A host that shows cards takes any text, since it is edited while it is shown.
One that is no card becomes a broken source with the reason, and the renderer shows that in place of
a card.  A file that cannot be read is no source at all: the program ends with a message of its own
then.
-/

namespace FormCard

inductive CardError where
  | syntaxError (e : Json.SyntaxError)
  | notAnObject (found : Json)

namespace CardError

/-- The word for the type of a value. -/
def typeName : Json → String
  | .null => "null"
  | .bool _ => "a boolean"
  | .number _ => "a number"
  | .string _ => "a string"
  | .array _ => "an array"
  | .object _ => "an object"

def message : CardError → String
  | syntaxError e =>
    "invalid JSON at line " ++ Decimal.text e.line ++ ", column " ++ Decimal.text e.column ++ ": "
      ++ e.message
  | notAnObject found => "card root must be a JSON object, found " ++ typeName found

end CardError

/-- The card that a text holds. -/
def Card.parse (text : String) : Except CardError Card :=
  match Json.parse text with
  | .error e => .error (.syntaxError e)
  | .ok value =>
    match Card.ofJson? value with
    | some card => .ok card
    | none => .error (.notAnObject value)

/-- What a host has to show: a card, or the reason why there is none. -/
inductive Source where
  | ready (card : Card)
  | broken (reason : String)

namespace Source

/-- The source that a text gives. -/
def ofText (text : String) : Source :=
  match Card.parse text with
  | .ok card => ready card
  | .error e => broken e.message

def isBroken : Source → Bool
  | ready _ => false
  | broken _ => true

/-- The message for a card that cannot be read from a file. -/
def unreadableMessage (path : String) : String := "Failed to read card schema: " ++ path

end Source

end FormCard
