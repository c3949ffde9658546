import FormCard.Json.Fault
import FormCard.Text.Reading

/-!
# Readers of JSON

The reader of JSON is put together from readers of its parts.  Each of them takes a value off the
front of a text and shortens it, or tells what is wrong with it; there is no going back over what
was read.  This module has the type of such readers and the two that all others need: one for the
blanks that may stand between the parts of a text, and one for the words `null`, `true` and `false`.
-/

namespace FormCard.Json

/-- Reads a value off the front of a text. -/
abbrev Reader (α : Type) := (s : List Char) → Except Fault (Read α s)

/-- The blanks that may stand between the parts of a JSON text. -/
def isSpace (c : Char) : Bool := c = ' ' || c = '\n' || c = '\r' || c = '\t'

def skip (s : List Char) : List Char := s.dropWhile isSpace

theorem length_skip_le (s : List Char) : (skip s).length ≤ s.length :=
  length_dropWhile_le isSpace s

/-- Reads behind leading blanks. -/
def Reader.afterBlanks {α : Type} (reader : Reader α) : Reader α := fun s =>
  (reader (skip s)).map (·.extend (length_skip_le s))

/-- Reads the letters of `word`. -/
def word : (word : List Char) → (s : List Char) → Except Fault (Part Unit s)
  | [], _ => .ok (.nothing ())
  | _ :: _, [] => .error (.here .endInValue [])
  | w :: ws, c :: s =>
    if c = w then (word ws s).map fun p => p.behind.toPart
    else .error (.next .badWord (c :: s))

end FormCard.Json
