import FormCard.Json.Value
import FormCard.Decimal.Shortest
import FormCard.Decimal.Natural

/-!
# Writing JSON

What the program prints as JSON goes through here.  There are two forms: compact text without a
blank, and text with one member or item a line, indented by two spaces for each level.  Outputs are
printed in the second form.  The first has a use of its own: a value that is shown where a text is
wanted, such as a number that was entered into a field, is shown as its compact text.

Strings escape what must be escaped and nothing else.  Both writers are recursions on the value that
collect the texts of items and members in lists and join them at the end, so that separators stand
in one place each.
-/

namespace FormCard

/-- JSON writes the exponents from -5 to 15 positionally, marks floating-point numbers that are
whole by a point and a zero, and has no text for values that are not finite. -/
def Number.layout : Decimal.Layout :=
  ⟨.even, some (-5, 15), true, "null", "null", "null"⟩

/-- The text of a number. -/
def Number.text : Number → String
  | natural n => Decimal.text n.toNat
  | negative n => Decimal.integerText n.toInt
  | float x => Decimal.render layout x

namespace Json

def hexDigit (n : Nat) : Char := (Nat.digitChar n).toLower

/-- A character within quotes.  The quote, the backslash and the characters below the blank are
escaped, five of the latter by a letter. -/
def escape (c : Char) : List Char :=
  match c with
  | '"' => ['\\', '"']
  | '\\' => ['\\', '\\']
  | '\x08' => ['\\', 'b']
  | '\x0c' => ['\\', 'f']
  | '\n' => ['\\', 'n']
  | '\r' => ['\\', 'r']
  | '\t' => ['\\', 't']
  | c =>
    if c.toNat < 0x20 then ['\\', 'u', '0', '0', hexDigit (c.toNat / 16), hexDigit (c.toNat % 16)]
    else [c]

/-- A string within quotes. -/
def quote (s : String) : String :=
  String.ofList ('"' :: s.toList.flatMap escape ++ ['"'])

def boolText (b : Bool) : String := if b then "true" else "false"

/-! ## 1. Compact text -/

mutual

/-- The text of a value without a blank. -/
def compact : Json → String
  | null => "null"
  | bool b => boolText b
  | number n => n.text
  | string s => quote s
  | array items => "[" ++ ",".intercalate (compactItems items) ++ "]"
  | object members => "\x7b" ++ ",".intercalate (compactMembers members) ++ "\x7d"
termination_by structural value => value

/-- The texts of the items of an array. -/
def compactItems : List Json → List String
  | [] => []
  | item :: items => compact item :: compactItems items
termination_by structural items => items

/-- The texts of the members of an object. -/
def compactMembers : List (String × Json) → List String
  | [] => []
  | (key, value) :: members => (quote key ++ ":" ++ compact value) :: compactMembers members
termination_by structural members => members

end

/-! ## 2. Indented text -/

/-- Parts between brackets, each on a line of its own; without parts the brackets alone. -/
def block (opening closing : String) (depth : Nat) (parts : List String) : String :=
  let line (depth : Nat) : String := "\n" ++ String.ofList (List.replicate (2 * depth) ' ')
  if parts.isEmpty then opening ++ closing
  else opening ++ line (depth + 1) ++ ("," ++ line (depth + 1)).intercalate parts
    ++ line depth ++ closing

mutual

/-- The indented text of a value whose brackets stand at `depth`. -/
def prettyAt (depth : Nat) : Json → String
  | null => "null"
  | bool b => boolText b
  | number n => n.text
  | string s => quote s
  | array items => block "[" "]" depth (prettyItems (depth + 1) items)
  | object members => block "\x7b" "\x7d" depth (prettyMembers (depth + 1) members)
termination_by structural value => value

/-- The indented texts of the items of an array. -/
def prettyItems (depth : Nat) : List Json → List String
  | [] => []
  | item :: items => prettyAt depth item :: prettyItems depth items
termination_by structural items => items

/-- The indented texts of the members of an object. -/
def prettyMembers (depth : Nat) : List (String × Json) → List String
  | [] => []
  | (key, value) :: members =>
    (quote key ++ ": " ++ prettyAt depth value) :: prettyMembers depth members
termination_by structural members => members

end

def pretty (value : Json) : String := prettyAt 0 value

end Json

end FormCard
