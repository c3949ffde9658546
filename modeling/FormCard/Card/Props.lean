import FormCard.Json.Writer
import FormCard.Decimal.Natural

/-!
# The properties of a component

What a component says, shows and does is settled by its properties: labels, texts, numbers of
columns, switches.  They are members of a JSON object, written by hand as a rule, and so each may be
missing or of another type than it should be.

This module is the way that the program reads them.  Every reading has an answer for every value, a
default if nothing else, so a card never fails for its properties.  It is generous in known ways: a
switch may be a number or a word, and a number may be written as text.  What exactly counts as a
number is made precise in `FormCard.Proofs.Spelling`.
-/

namespace FormCard

/-- The properties of a component, in the order of the card. -/
structure Props where
  members : List (String × Json)

namespace Props

/-- No properties. -/
def empty : Props := ⟨[]⟩

instance : Inhabited Props := ⟨empty⟩

def get? (props : Props) (key : String) : Option Json := props.members.lookup key

/-- The text of a property that is a string. -/
def string? (props : Props) (key : String) : Option String := (props.get? key).bind Json.string?

/-- What a property shows: a string as it is, a number or a truth value in words, and nothing
otherwise. -/
def text (props : Props) (key : String) : String :=
  match props.get? key with
  | some (.string s) => s
  | some (.number n) => n.text
  | some (.bool b) => Json.boolText b
  | _ => ""

def isNonzero : Number → Bool
  | .natural n => n != 0
  | .negative n => n != 0
  | .float x => x != 0

/-- Whether a property is set: true, a number other than zero, or the word for true. -/
def flag (props : Props) (key : String) : Bool :=
  match props.get? key with
  | some (.bool b) => b
  | some (.number n) => isNonzero n
  | some (.string s) => Text.eqIgnoringCase s "true"
  | _ => false

/-- The largest number that the digits of a property may write. -/
def naturalLimit : Nat := 0xffffffffffffffff

/-- The natural number of a property: one that is held as such, or a string of digits with an
optional plus sign and blanks around them. -/
def natural? (props : Props) (key : String) : Option Nat :=
  match props.get? key with
  | some (.number (.natural n)) => some n.toNat
  | some (.string s) => Decimal.natural? naturalLimit (Text.trim s).toList
  | _ => none

/-- A number of 32 bits, if it is one. -/
def narrow? (n : Nat) : Option UInt32 := if n < UInt32.size then some n.toUInt32 else none

/-- The natural number of a property, if it has 32 bits, and the default otherwise. -/
def uintOr (props : Props) (key : String) (default : UInt32) : UInt32 :=
  ((props.natural? key).bind narrow?).getD default

/-- As `uintOr`, with the default for zero too. -/
def positiveOr (props : Props) (key : String) (default : UInt32) : UInt32 :=
  (((props.natural? key).filter (0 < ·)).bind narrow?).getD default

/-- The items of a property that is an array. -/
def items (props : Props) (key : String) : List Json := ((props.get? key).map Json.items).getD []

end Props

end FormCard
