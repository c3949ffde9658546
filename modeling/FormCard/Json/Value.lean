import FormCard.Members

/-!
# JSON values

JSON is what the program lives on: cards are read from it, what a user enters into a field is a
value of it, and an output is printed as one.  A `Json` is a value as it is held in memory.  Objects
keep their members in the order of the text.  Numbers keep the three ways in which they can be held,
as an unsigned or a negative integer of 64 bits or as a floating-point number, because the way
decides whether a number counts as a property and how it is printed.

Nothing here can fail.  A value that is asked for a member, an item or a text that it does not have
answers with nothing, which is how the rest of the program deals with malformed cards.
-/

namespace FormCard

/-- A JSON number. -/
inductive Number where
  | natural (n : UInt64)
  /-- An integer below zero. -/
  | negative (n : Int64)
  | float (x : Float)
  deriving DecidableEq

inductive Json where
  | null
  | bool (b : Bool)
  | number (n : Number)
  | string (s : String)
  | array (items : List Json)
  | object (members : List (String × Json))

instance : Inhabited Json := ⟨.null⟩

namespace Json

/-- The member `key` of an object; other values have no members. -/
def get? (key : String) : Json → Option Json
  | object members => members.lookup key
  | _ => none

/-- The text of a string value. -/
def string? : Json → Option String
  | string s => some s
  | _ => none

def items : Json → List Json
  | array items => items
  | _ => []

/-- A member that is left out when there is no value. -/
def member? (key : String) : Option Json → List (String × Json)
  | none => []
  | some value => [(key, value)]

theorem lookup_member? (key own : String) (value : Option Json) :
    (member? own value).lookup key = if own = key then value else none := by
  cases value <;> simp [member?, Members.lookup_cons]

/-- A value that is null when absent. -/
def ofOption : Option Json → Json
  | none => null
  | some value => value

/-- The number `n`, which is at most `2 ^ 64 - 1`. -/
def ofNat (n : Nat) : Json := number (.natural n.toUInt64)

end Json

end FormCard
